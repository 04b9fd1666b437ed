import TitleStamp.Number.Double
import TitleStamp.Text.Basic

/-!
# Showing numbers

A double-precision number is shown without an exponent, by the shortest decimal that reads back as
it.  Of two such decimals the nearer one is shown, and of two equally near ones the larger.
-/

namespace TitleStamp

/-- The numeral of digits times a power of ten. -/
def Text.ofDecimal (digits : Nat) : (exponent : Int) → Text
  | .ofNat zeros => Text.ofNat digits ++ List.replicate zeros '0'
  | .negSucc others =>
      let places := others + 1
      let unit := Nat.pow 10 places
      Text.ofNat (digits / unit) ++ '.' :: padLeft places (Text.ofNat (digits % unit))

namespace Double

/-- The multiples of a power of ten around a number of smallest steps, the nearer one first. -/
def neighbours (scaled : Nat) (exponent : Int) : List Nat :=
  let numerator := scaled * Nat.pow 10 (-exponent).toNat
  let denominator := one * Nat.pow 10 exponent.toNat
  let below := numerator / denominator
  if 2 * (numerator % denominator) < denominator then [below, below + 1] else [below + 1, below]

/-- The shortest decimal that reads back as a number of smallest steps: its digits and the power of
ten that they count.  The powers are tried from the largest on, and seventeen digits are enough for
every number; a whole number of steps could be written out exactly. -/
def shortestDecimal (scaled : Nat) : Nat × Int :=
  let places := (Nat.toDigits 10 (scaled / one)).length
  let shortest := (List.range (places + 325)).findSome? fun (step : Nat) =>
    let exponent := (places : Int) - step
    ((neighbours scaled exponent).find? fun digits =>
      ofDecimal false digits exponent = finite scaled).map (·, exponent)
  shortest.getD (scaled * Nat.pow 5 1074, -1074)

/-- The text of a number.  Zeros are not told apart by sign, so the sign of a zero is given. -/
def shown (negativeZero : Bool) : Double → Text
  | finite scaled =>
      if scaled = 0 then
        if negativeZero then "-0".toList else "0".toList
      else
        let (digits, exponent) := shortestDecimal scaled.natAbs
        (if scaled < 0 then ['-'] else []) ++ Text.ofDecimal digits exponent
  | infinite negative => if negative then "-inf".toList else "inf".toList
  | notANumber => "NaN".toList

end Double

end TitleStamp
