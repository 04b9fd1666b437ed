import TitleStamp.Json.Fault
import TitleStamp.Number.Decimal

/-!
# JSON numbers

A number that is used must be within the range of double-precision numbers; one that is skipped
need only be well-formed.  Only natural numbers of 64 bits keep their value.
-/

namespace TitleStamp.Json

/-- The parts of a well-formed number. -/
structure NumberParts where
  negative : Bool
  whole : Text
  /-- The digits after the point, if there is a point. -/
  fraction : Option Text
  /-- Whether the exponent is negative and its digits, if there is an exponent. -/
  exponent : Option (Bool × Text)
  /-- How many characters the number takes. -/
  length : Nat
  deriving DecidableEq, Repr

/-- The largest number of 64 bits. -/
def largestWord : Nat :=
  18446744073709551615

/-- Takes up digits as long as the number fits in 64 bits; gives the number and the digits that
were left. -/
def fillWord : (word : Nat) → Text → Nat × Text
  | word, [] => (word, [])
  | word, digit :: rest =>
      let next := 10 * word + (digit.toNat - '0'.toNat)
      if next ≤ largestWord then fillWord next rest else (word, digit :: rest)

namespace NumberParts

def exponentValue (parts : NumberParts) : Int :=
  match parts.exponent with
  | none => 0
  | some (negative, digits) =>
      if negative then -(digitsValue digits : Int) else digitsValue digits

/-- Whether a number is too large.  The digits that fit in 64 bits are scaled by a power of
ten, and the product is rounded. -/
def isOutOfRange (parts : NumberParts) : Bool :=
  let (word, left) := fillWord 0 parts.whole
  let fraction := parts.fraction.getD []
  let (significand, unused) := fillWord word fraction
  let exponent :=
    left.length - (fraction.length - unused.length : Nat) + parts.exponentValue
  significand ≠ 0 && 0 ≤ exponent &&
    (308 < exponent ||
      ((Double.ofInt significand).mul (Double.ofDecimal false 1 exponent)).isInfinite)

/-- The value of a number that is a natural number of 64 bits, written without sign, point and
exponent. -/
def natural? (parts : NumberParts) : Option Nat :=
  if parts.negative ∨ parts.fraction.isSome ∨ parts.exponent.isSome ∨
      largestWord < digitsValue parts.whole then
    none
  else
    some (digitsValue parts.whole)

end NumberParts

/-- The breach where a digit is missing: at the end of the text a used number ends early. -/
def missingDigit : Text → Breach
  | [] => ⟨.endsEarly, .malformed⟩
  | _ :: _ => Breach.atCharacter

/-- Reads the digits that must come next. -/
def readDigits (text : Text) : Except Breach (Text × Text) :=
  match text.takeWhile Char.isDigit with
  | [] => .error (missingDigit text)
  | digits => .ok (digits, text.dropWhile Char.isDigit)

/-- Reads the whole part of a number, which has no leading zero. -/
def readWhole (text : Text) : Except Breach (Text × Text) := do
  let (digits, rest) ← readDigits text
  if digits.head? = some '0' ∧ digits.length ≠ 1 then
    .error Breach.atCharacter
  else
    .ok (digits, rest)

/-- Reads the point and the digits after it, if there is a point. -/
def readFraction : Text → Except Breach (Option Text × Text)
  | '.' :: rest => do
      let (digits, rest) ← readDigits rest
      .ok (some digits, rest)
  | text => .ok (none, text)

/-- Reads the exponent, if there is one. -/
def readExponent : Text → Except Breach (Option (Bool × Text) × Text)
  | [] => .ok (none, [])
  | marker :: rest =>
      if marker = 'e' ∨ marker = 'E' then do
        let (negative, unsigned) := Double.splitSign rest
        let (digits, rest) ← readDigits unsigned
        .ok (some (negative, digits), rest)
      else
        .ok (none, marker :: rest)

/-- Reads the number that a text starts with. -/
def readNumber (text : Text) : Except Breach NumberParts := do
  let (negative, unsigned) :=
    match text with
    | '-' :: rest => (true, rest)
    | rest => (false, rest)
  let (whole, afterWhole) ← readWhole unsigned
  let (fraction, afterFraction) ← readFraction afterWhole
  let (exponent, rest) ← readExponent afterFraction
  .ok ⟨negative, whole, fraction, exponent, text.length - rest.length⟩

end TitleStamp.Json
