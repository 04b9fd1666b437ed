/-!
# Double-precision numbers

Arithmetic on binary floating-point numbers with 53 significant bits.  Every finite number is a
whole multiple of 2^-1074, so it is kept as that multiple.  An operation computes its exact
result as a quotient and rounds it to the nearest number, a tie going to the even one.  Zeros
are not told apart by sign.
-/

namespace TitleStamp

inductive Double where
  /-- The given multiple of 2^-1074. -/
  | finite (scaled : Int)
  | infinite (negative : Bool)
  | notANumber
  deriving DecidableEq, Repr

namespace Double

/-- The number of smallest steps in one. -/
def one : Nat :=
  Nat.pow 2 1074

/-- The magnitude, in smallest steps, from which on numbers are infinite. -/
def overflow : Nat :=
  Nat.pow 2 2098

/-- The whole number nearest to a quotient; a tie goes to the even one. -/
def nearest (numerator denominator : Nat) : Nat :=
  let quotient := numerator / denominator
  let twice := 2 * (numerator % denominator)
  if twice < denominator then quotient
  else if denominator < twice then quotient + 1
  else if quotient % 2 = 0 then quotient
  else quotient + 1

/-- The whole number with at most 53 significant bits that is nearest to a quotient. -/
def significant (numerator denominator : Nat) : Nat :=
  let step := Nat.pow 2 ((numerator / denominator).log2 - 52)
  nearest numerator (denominator * step) * step

/-- The number nearest to a signed quotient of smallest steps. -/
def ofQuotient (negative : Bool) (numerator denominator : Nat) : Double :=
  let magnitude := significant numerator denominator
  if magnitude < overflow then
    finite (if negative then -(magnitude : Int) else magnitude)
  else
    infinite negative

/-- The number nearest to a whole number. -/
def ofInt (number : Int) : Double :=
  ofQuotient (number < 0) (number.natAbs * one) 1

/-- The number nearest to a decimal fraction, the given digits times a power of ten.  Powers
far outside the range are decided by the number of digits. -/
def ofDecimal (negative : Bool) (digits : Nat) (exponent : Int) : Double :=
  let magnitude := exponent + (Nat.toDigits 10 digits).length
  if digits = 0 ∨ magnitude < -400 then
    finite 0
  else if 400 < magnitude then
    infinite negative
  else if 0 ≤ exponent then
    ofQuotient negative (digits * Nat.pow 10 exponent.toNat * one) 1
  else
    ofQuotient negative (digits * one) (Nat.pow 10 (-exponent).toNat)

def add : Double → Double → Double
  | notANumber, _ => notANumber
  | _, notANumber => notANumber
  | infinite left, infinite right => if left = right then infinite left else notANumber
  | infinite left, finite _ => infinite left
  | finite _, infinite right => infinite right
  | finite left, finite right => ofQuotient (left + right < 0) (left + right).natAbs 1

def mul : Double → Double → Double
  | notANumber, _ => notANumber
  | _, notANumber => notANumber
  | infinite left, infinite right => infinite (left != right)
  | infinite left, finite right =>
      if right = 0 then notANumber else infinite (left != decide (right < 0))
  | finite left, infinite right =>
      if left = 0 then notANumber else infinite (decide (left < 0) != right)
  | finite left, finite right => ofQuotient (left * right < 0) (left * right).natAbs one

def isInfinite : Double → Bool
  | infinite _ => true
  | _ => false

/-- The nearest whole number, a half going away from zero. -/
def roundAway (scaled : Int) : Int :=
  scaled.sign * ((2 * scaled.natAbs + one) / (2 * one) : Nat)

def lowestWord : Int :=
  -9223372036854775808

def highestWord : Int :=
  9223372036854775807

/-- The nearest whole number that a 64-bit word with sign can hold.  What is not a number
gives zero. -/
def toWord : Double → Int
  | finite scaled => max lowestWord (min highestWord (roundAway scaled))
  | infinite negative => if negative then lowestWord else highestWord
  | notANumber => 0

end Double

end TitleStamp
