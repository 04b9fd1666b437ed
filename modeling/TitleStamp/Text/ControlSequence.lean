import TitleStamp.Text.Basic

/-!
# Control sequences

A text may hold characters that steer a display instead of being shown.  Clearing it leaves out
controls other than blanks, and the sequences that an escape starts.
-/

namespace TitleStamp

/-- The part of a control sequence that is open at some place of a text. -/
inductive ControlState where
  /-- No sequence is open. -/
  | ground
  /-- An escape was read. -/
  | escape
  /-- An escape and characters that select a sequence were read. -/
  | selection
  /-- The parameters of a sequence that a bracket opened are read. -/
  | parameters
  /-- A command for the display is read, which a bell ends. -/
  | command
  /-- A string for the display that has a header starts. -/
  | header
  /-- The parameters in the header of a string are read. -/
  | headerParameters
  /-- The characters that end the header of a string are read. -/
  | headerSelection
  /-- A string for the display is read, which a terminator ends. -/
  | payload
  deriving DecidableEq, Repr

namespace ControlState

/-- The byte that ends a string for the display. -/
def terminator : UInt8 :=
  0x9C

/-- The state after a character.  An escape starts a sequence anywhere, and a cancel or a
substitute ends it anywhere. -/
def next (state : ControlState) (character : Char) : ControlState :=
  if character = '\x1B' then escape
  else if character = '\x18' ∨ character = '\x1A' then ground
  else
    match state with
    | ground => ground
    | escape =>
        if ' ' ≤ character ∧ character ≤ '/' then selection
        else if character = '[' then parameters
        else if character = ']' then command
        else if character = 'P' then header
        else if character ∈ ['X', '^', '_'] then payload
        else if '0' ≤ character ∧ character ≤ '~' then ground
        else escape
    | selection => if '0' ≤ character ∧ character ≤ '~' then ground else selection
    | parameters => if '@' ≤ character ∧ character ≤ '~' then ground else parameters
    | command => if character = '\x07' then ground else command
    | header =>
        if ' ' ≤ character ∧ character ≤ '/' then headerSelection
        else if '0' ≤ character ∧ character ≤ '?' then headerParameters
        else if '@' ≤ character ∧ character ≤ '~' then payload
        else header
    | headerParameters =>
        if ' ' ≤ character ∧ character ≤ '/' then headerSelection
        else if '<' ≤ character ∧ character ≤ '~' then payload
        else headerParameters
    | headerSelection => if '0' ≤ character ∧ character ≤ '~' then payload else headerSelection
    | payload => if terminator ∈ String.utf8EncodeChar character then ground else payload

/-- Whether a character is a blank among the controls. -/
def isBlankControl (character : Char) : Bool :=
  character ∈ ['\t', '\n', '\x0C', '\r']

/-- Whether a character is shown in a state.  Blank controls are shown within a sequence too,
except in what is addressed to the display as a whole. -/
def shows (state : ControlState) (character : Char) : Bool :=
  match state with
  | ground => isBlankControl character || (' ' ≤ character && character ≠ '\x7F')
  | escape | selection | parameters => isBlankControl character
  | command | header | headerParameters | headerSelection | payload => false

/-- Clears the rest of a text.  Once a blank control is shown within a sequence, what follows is
shown as if no sequence were open, until the next control; a character beyond ASCII closes the
sequence for good. -/
def clear (state : ControlState) (showing : Bool) : Text → Text
  | [] => []
  | character :: rest =>
      if (if showing then ground else state).shows character then
        character :: clear (if character.toNat < 0x80 then state else ground) true rest
      else
        clear (state.next character) false rest

end ControlState

/-- The text without controls other than blanks and without control sequences. -/
def Text.withoutControls (text : Text) : Text :=
  ControlState.ground.clear false text

end TitleStamp
