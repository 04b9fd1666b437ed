/-!
# Texts

Titles, patterns, messages and documents are lists of characters, so that every function on
them recurses on the list.  Positions are counted in bytes of the UTF-8 encoding.
-/

namespace TitleStamp

abbrev Text := List Char

namespace Text

/-- The number of bytes of a text in UTF-8. -/
def byteLength : Text → Nat
  | [] => 0
  | character :: rest => character.utf8Size + byteLength rest

/-- What follows the given start of a text, if the text starts so. -/
def after? : (start text : Text) → Option Text
  | [], text => some text
  | expected :: start, character :: text =>
      if expected = character then after? start text else none
  | _ :: _, [] => none

/-- The text without a given ending, if the text ends so. -/
def before? (ending text : Text) : Option Text :=
  (after? ending.reverse text.reverse).map List.reverse

/-- The pieces of a text between the occurrences of a separator. -/
def splitOn (separator : Char) : Text → List Text
  | [] => [[]]
  | character :: rest =>
      if character = separator then
        [] :: splitOn separator rest
      else
        match splitOn separator rest with
        | [] => [[character]]
        | piece :: pieces => (character :: piece) :: pieces

/-- The parts of a text before and after the first occurrence of a separator. -/
def splitOnce? (separator : Char) : Text → Option (Text × Text)
  | [] => none
  | character :: rest =>
      if character = separator then
        some ([], rest)
      else
        (splitOnce? separator rest).map fun (before, after) => (character :: before, after)

/-- The decimal numeral of a natural number, without leading zeros. -/
def ofNat (number : Nat) : Text :=
  Nat.toDigits 10 number

/-- The decimal numeral of an integer, with a minus sign if it is negative. -/
def ofInt (number : Int) : Text :=
  if number < 0 then '-' :: ofNat number.natAbs else ofNat number.natAbs

end Text

/-- The text filled up with leading zeros to a width. -/
def padLeft (width : Nat) (text : Text) : Text :=
  List.replicate (width - text.length) '0' ++ text

end TitleStamp
