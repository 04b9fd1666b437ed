import TitleStamp.Failure
import TitleStamp.Json.Document
import TitleStamp.PullRequest.Basic

/-!
# The answer of a lookup

The answer is read as a whole before its shape is looked at, so every problem of shape is of the
same kind.  The data may stand alone or as the member of an envelope.
-/

namespace TitleStamp.Response

open Json (Fault Node)

/-- The values of the fields of a record, in order; a field may be absent.  Among the members of
an object a field may stand only once.  In an array only the fields after the required ones may
be left out. -/
def fields? (names : List String) (required : Nat) : Node → Option (List (Option Node))
  | .object members _ =>
      names.mapM fun name =>
        match members.filter fun member => member.1.toOption = some name.toList with
        | [] => some none
        | [(_, value)] => some (some value)
        | _ => none
  | .array items _ =>
      if required ≤ items.length ∧ items.length ≤ names.length then
        some (items.map some ++ List.replicate (names.length - items.length) none)
      else
        none
  | _ => none

def text? : Node → Option Text
  | .string content => content.toOption
  | _ => none

/-- What a value is, unless it is null. -/
def nullable? {Value : Type} (read : Node → Option Value) : Node → Option (Option Value)
  | .null => some none
  | present => (read present).map some

/-- What a field is, with a value to take where the field is absent. -/
def orElse? {Value : Type} (absent : Value) (read : Node → Option Value) :
    Option Node → Option Value
  | none => some absent
  | some present => read present

/-- The nodes of a connection, gaps included. -/
def connection? {Value : Type} (read : Node → Option Value) (node : Node) :
    Option (List (Option Value)) := do
  match ← fields? ["nodes"] 0 node with
  | [some (.array items _)] => items.mapM (nullable? read)
  | [none] => some []
  | _ => none

def single? (name : String) (node : Node) : Option Node := do
  match ← fields? [name] 1 node with
  | [some value] => some value
  | _ => none

def comment? (node : Node) : Option Text := do
  text? (← single? "bodyText" node)

def commit? (node : Node) : Option Text := do
  text? (← single? "message" (← single? "commit" node))

def pullRequest? (node : Node) : Option PullRequest := do
  match ← fields? ["id", "title", "bodyText", "comments", "commits"] 2 node with
  | [some id, some title, bodyText, comments, commits] =>
      some ⟨← text? id, ← text? title, ← orElse? [] text? bodyText,
        ← orElse? [] (connection? comment?) comments,
        ← orElse? [] (connection? commit?) commits⟩
  | _ => none

/-- The pull request that a repository holds, if it holds one: the one looked up by number, or
the first of those looked up by branch. -/
def repository? (node : Node) : Option (Option PullRequest) := do
  match ← fields? ["pullRequest", "pullRequests"] 2 node with
  | [byNumber, byBranch] =>
      let found ← orElse? none (nullable? pullRequest?) byNumber
      let connection ← orElse? none (nullable? (connection? pullRequest?)) byBranch
      some (found <|> (connection.getD []).head?.join)
  | _ => none

/-- The pull request that the data of an answer hold. -/
def data? (node : Node) : Option (Option PullRequest) := do
  repository? (← single? "repository" node)

/-- The pull request that the data in an envelope hold. -/
def envelope? : Node → Option (Option PullRequest)
  | .object members breach => do
      data? (← single? "data" (.object members breach))
  | _ => none

/-- How many containers may be nested in an answer. -/
def nestingLimit : Nat :=
  127

/-- Reads the text of an answer. -/
def parse (text : Text) : Except Failure PullRequest :=
  let document := Json.read text
  match document.root.usedFault? nestingLimit with
  | some fault => .error (.invalidJson fault)
  | none =>
      match envelope? document.root <|> data? document.root with
      | none => .error (.invalidJson .mismatch)
      | some found =>
          if document.trailing then
            .error (.invalidJson .malformed)
          else
            match found with
            | some pullRequest => .ok pullRequest
            | none => .error .missingPullRequest

end TitleStamp.Response
