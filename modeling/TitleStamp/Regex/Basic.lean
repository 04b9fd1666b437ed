import TitleStamp.Text.Basic

/-!
# Regular expressions

A regular expression is a sequence of pieces.  In its written form every character with a
special meaning is escaped by a backslash, and the reader accepts exactly the written forms.
-/

namespace TitleStamp

inductive Piece where
  /-- One given character. -/
  | exactly (character : Char)
  /-- One or more decimal digits. -/
  | digits
  /-- Any characters of one line. -/
  | line
  /-- Any characters of one line, captured as a group. -/
  | group
  deriving DecidableEq, Repr

abbrev Regex := List Piece

namespace Regex

/-- The characters that are escaped in a written regular expression. -/
def isSpecial (character : Char) : Bool :=
  "\\.+*?()|[]\x7b\x7d^$#&-~".toList.contains character

/-- A character as it is written to stand for itself. -/
def escapeCharacter (character : Char) : Text :=
  if isSpecial character then ['\\', character] else [character]

/-- A text as it is written to stand for itself. -/
def escape (text : Text) : Text :=
  text.flatMap escapeCharacter

def digitsText : Text :=
  "[0-9]+".toList

def lineText : Text :=
  ".*".toList

def groupText : Text :=
  "(.*)".toList

end Regex

def Piece.written : Piece → Text
  | .exactly character => Regex.escapeCharacter character
  | .digits => Regex.digitsText
  | .line => Regex.lineText
  | .group => Regex.groupText

namespace Regex

def written (regex : Regex) : Text :=
  regex.flatMap Piece.written

def ofText? : Text → Option Regex
  | [] => some []
  | '\\' :: character :: rest =>
      if isSpecial character then
        (ofText? rest).map (.exactly character :: ·)
      else
        none
  | '[' :: '0' :: '-' :: '9' :: ']' :: '+' :: rest => (ofText? rest).map (.digits :: ·)
  | '.' :: '*' :: rest => (ofText? rest).map (.line :: ·)
  | '(' :: '.' :: '*' :: ')' :: rest => (ofText? rest).map (.group :: ·)
  | character :: rest =>
      if isSpecial character then
        none
      else
        (ofText? rest).map (.exactly character :: ·)

end Regex

end TitleStamp
