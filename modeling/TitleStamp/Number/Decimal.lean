import TitleStamp.Number.Double
import TitleStamp.Text.Basic

/-!
# Reading decimal numbers

The numerals accepted as double-precision numbers: an optional sign, digits with at most one
point among or around them, and an optional exponent.  The words for infinity and for no number
are accepted in any case.
-/

namespace TitleStamp

/-- The number that a run of decimal digits denotes. -/
def digitsValue (digits : Text) : Nat :=
  digits.foldl (fun value digit => 10 * value + (digit.toNat - '0'.toNat)) 0

namespace Double

/-- The digits a text starts with and the rest of the text. -/
def splitDigits (text : Text) : Text × Text :=
  (text.takeWhile Char.isDigit, text.dropWhile Char.isDigit)

/-- The sign a text starts with, true standing for minus, and the rest of the text. -/
def splitSign : Text → Bool × Text
  | '-' :: rest => (true, rest)
  | '+' :: rest => (false, rest)
  | text => (false, text)

theorem splitSign_cons
    {first : Char} (notMinus : first ≠ '-') (notPlus : first ≠ '+') (rest : Text) :
    splitSign (first :: rest) = (false, first :: rest) := by
  unfold splitSign
  split
  · rename_i isMinus
    exact absurd (List.cons.inj isMinus).1 notMinus
  · rename_i isPlus
    exact absurd (List.cons.inj isPlus).1 notPlus
  · rfl

/-- Reads the whole of a text as an exponent, of which an absent one is zero. -/
def readExponent? : Text → Option Int
  | [] => some 0
  | marker :: rest =>
      if marker = 'e' ∨ marker = 'E' then
        let (negative, digits) := splitSign rest
        if digits ≠ [] ∧ digits.all Char.isDigit then
          some (if negative then -(digitsValue digits : Int) else digitsValue digits)
        else
          none
      else
        none

/-- Reads the whole of a text as digits, a point and an exponent. -/
def readMagnitude? (negative : Bool) (text : Text) : Option Double :=
  let (whole, afterWhole) := splitDigits text
  let (fraction, afterFraction) :=
    match afterWhole with
    | '.' :: rest => splitDigits rest
    | rest => ([], rest)
  if whole ++ fraction = [] then
    none
  else
    (readExponent? afterFraction).map fun exponent =>
      ofDecimal negative (digitsValue (whole ++ fraction)) (exponent - fraction.length)

/-- Reads the whole of a text as a number. -/
def ofText? (text : Text) : Option Double :=
  let (negative, magnitude) := splitSign text
  let word := magnitude.map Char.toLower
  if word = "inf".toList ∨ word = "infinity".toList then
    some (infinite negative)
  else if word = "nan".toList then
    some notANumber
  else
    readMagnitude? negative magnitude

end Double

end TitleStamp
