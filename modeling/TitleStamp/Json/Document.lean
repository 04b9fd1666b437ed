import TitleStamp.Json.Token

/-!
# JSON documents

A document is the tree of a JSON text.  A text that breaks off still has a tree: the breach stands
in it at the place where reading stopped, and every container that was open there is left
unclosed.  A reader that walks a tree in order therefore meets the problems of the text in
reading order.
-/

namespace TitleStamp.Json

/-- A value of a JSON text, as far as the text goes. -/
inductive Node where
  | null
  | boolean (value : Bool)
  | number (natural : Except Fault (Option Nat))
  | string (content : Except Fault Text)
  /-- The items of an array and, if it is not closed, where it breaks off. -/
  | array (items : List Node) (breach : Option Breach)
  /-- The members of an object and, if it is not closed, where it breaks off. -/
  | object (members : List (Except Fault Text × Node)) (breach : Option Breach)
  /-- A value that breaks off. -/
  | broken (breach : Breach)

/-- The name and the value of a member of an object. -/
abbrev Member := Except Fault Text × Node

/-- A container that is still open, with its last part first. -/
inductive Frame where
  | array (items : List Node)
  | object (members : List Member)
  /-- An object of which a name has been read that waits for its value. -/
  | member (members : List Member) (name : Except Fault Text)

/-- What has to come next in a text. -/
inductive Awaiting where
  | value
  | itemOrEnd
  | nextItem
  | nameOrEnd
  | name
  | nextMember
  | colon
  deriving DecidableEq, Repr

/-- A tree and whether anything but blanks follows it. -/
structure Document where
  root : Node
  trailing : Bool

/-- The tree of a value in the containers that are open around it, none of which is closed. -/
def enclose (breach : Breach) (node : Node) : List Frame → Node
  | [] => node
  | .array items :: frames => enclose breach (.array (node :: items).reverse (some breach)) frames
  | .object members :: frames =>
      enclose breach (.object members.reverse (some breach)) frames
  | .member members name :: frames =>
      enclose breach (.object ((name, node) :: members).reverse (some breach)) frames

/-- The tree of a text that breaks off between the parts of its innermost container, or where a
value has to come. -/
def breakOff (breach : Breach) : Awaiting → List Frame → Node
  | .nextItem, .array items :: frames =>
      enclose breach (.array items.reverse (some breach)) frames
  | .itemOrEnd, .array items :: frames =>
      enclose breach (.array items.reverse (some breach)) frames
  | _, .object members :: frames =>
      enclose breach (.object members.reverse (some breach)) frames
  | _, frames => enclose breach (.broken breach) frames

/-- What a text awaits next when a value is complete: the rest of the innermost open container,
or nothing. -/
def supply (node : Node) : List Frame → Option (Awaiting × List Frame)
  | .array items :: frames => some (.nextItem, .array (node :: items) :: frames)
  | .member members name :: frames => some (.nextMember, .object ((name, node) :: members) :: frames)
  | _ => none

/-- What a token does where a given part has to come. -/
inductive Move where
  /-- It completes a value in the given containers. -/
  | complete (node : Node) (frames : List Frame)
  /-- It leads on to another part. -/
  | proceed (awaiting : Awaiting) (frames : List Frame)
  /-- It ends the reading. -/
  | stop (breach : Breach)

/-- What a token does where a value has to come. -/
def valueMove (frames : List Frame) : Token → Move
  | .openArray => .proceed .itemOrEnd (.array [] :: frames)
  | .openObject => .proceed .nameOrEnd (.object [] :: frames)
  | .null => .complete .null frames
  | .boolean value => .complete (.boolean value) frames
  | .number natural => .complete (.number natural) frames
  | .string content => .complete (.string content) frames
  | .brokenValue breach => .stop breach
  | .brokenString breach => .stop breach
  | _ => .stop Breach.atCharacter

/-- What a token does where the name of a member has to come. -/
def nameMove (members : List Member) (frames : List Frame) : Token → Move
  | .string name => .proceed .colon (.member members name :: frames)
  | .brokenString breach => .stop breach
  | _ => .stop Breach.atCharacter

/-- What a token does where the given part has to come. -/
def move (awaiting : Awaiting) (frames : List Frame) (token : Token) : Move :=
  match awaiting, frames, token with
  | .value, frames, token => valueMove frames token
  | .itemOrEnd, .array items :: frames, .closeArray =>
      .complete (.array items.reverse none) frames
  | .itemOrEnd, frames, token => valueMove frames token
  | .nextItem, .array items :: frames, .closeArray =>
      .complete (.array items.reverse none) frames
  | .nextItem, frames, .comma => .proceed .value frames
  | .nameOrEnd, .object members :: frames, .closeObject =>
      .complete (.object members.reverse none) frames
  | .nameOrEnd, .object members :: frames, token => nameMove members frames token
  | .name, .object members :: frames, token => nameMove members frames token
  | .nextMember, .object members :: frames, .closeObject =>
      .complete (.object members.reverse none) frames
  | .nextMember, frames, .comma => .proceed .name frames
  | .colon, frames, .colon => .proceed .value frames
  | _, _, _ => .stop Breach.atCharacter

/-- Builds the tree of a text from its tokens, in the containers that are open. -/
def build : Awaiting → List Frame → List Token → Document
  | awaiting, frames, [] => ⟨breakOff Breach.atEnd awaiting frames, false⟩
  | awaiting, frames, token :: rest =>
      match move awaiting frames token with
      | .stop breach => ⟨breakOff breach awaiting frames, false⟩
      | .proceed next frames => build next frames rest
      | .complete node frames =>
          match supply node frames with
          | some (next, frames) => build next frames rest
          | none => ⟨node, !rest.isEmpty⟩

def read (text : Text) : Document :=
  build .value [] (tokens text)

mutual

/-- The fault found when a value is skipped. -/
def Node.skippedFault? : Node → Option Fault
  | .array items breach => (itemsSkippedFault? items).or (breach.map (·.skipped))
  | .object members breach => (membersSkippedFault? members).or (breach.map (·.skipped))
  | .broken breach => some breach.skipped
  | _ => none

/-- The first fault found when items are skipped. -/
def itemsSkippedFault? : List Node → Option Fault
  | [] => none
  | item :: rest => item.skippedFault?.or (itemsSkippedFault? rest)

/-- The first fault found when members are skipped. -/
def membersSkippedFault? : List (Except Fault Text × Node) → Option Fault
  | [] => none
  | (_, value) :: rest => value.skippedFault?.or (membersSkippedFault? rest)

end

/-- The fault of a part that may not be usable. -/
def faultOf? {α : Type} : Except Fault α → Option Fault
  | .ok _ => none
  | .error fault => some fault

mutual

/-- The first fault found when a value is used as a whole.  Containers may be nested only to the
given depth. -/
def Node.usedFault? (depth : Nat) : Node → Option Fault
  | .null => none
  | .boolean _ => none
  | .number natural => faultOf? natural
  | .string content => faultOf? content
  | .array items breach =>
      match depth with
      | 0 => some .malformed
      | depth + 1 => (itemsUsedFault? depth items).or (breach.map (·.used))
  | .object members breach =>
      match depth with
      | 0 => some .malformed
      | depth + 1 => (membersUsedFault? depth members).or (breach.map (·.used))
  | .broken breach => some breach.used

/-- The first fault found when items are used. -/
def itemsUsedFault? (depth : Nat) : List Node → Option Fault
  | [] => none
  | item :: rest => (item.usedFault? depth).or (itemsUsedFault? depth rest)

/-- The first fault found when members are used. -/
def membersUsedFault? (depth : Nat) : List (Except Fault Text × Node) → Option Fault
  | [] => none
  | (name, value) :: rest =>
      (faultOf? name).or
        ((value.usedFault? depth).or (membersUsedFault? depth rest))

end

end TitleStamp.Json
