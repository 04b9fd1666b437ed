import Mathlib.Tactic.SplitIfs
import TitleStamp.Number.Decimal

/-!
# Numbers that are not negative

A numeral without a minus sign denotes a number that is not negative, and sums and products of
such numbers are not negative either.
-/

namespace TitleStamp.Double

/-- A number that is not negative, or none at all. -/
inductive Unsigned : Double → Prop where
  | finite {scaled : Int} (nonnegative : 0 ≤ scaled) : Unsigned (.finite scaled)
  | infinite : Unsigned (.infinite false)
  | notANumber : Unsigned .notANumber

theorem unsigned_ofQuotient (numerator denominator : Nat) :
    Unsigned (ofQuotient false numerator denominator) := by
  unfold ofQuotient
  generalize significant numerator denominator = magnitude
  generalize overflow = bound
  by_cases small : magnitude < bound
  · rw [if_pos small]
    exact .finite (Int.natCast_nonneg magnitude)
  · rw [if_neg small]
    exact .infinite

theorem unsigned_ofInt {number : Int} (nonnegative : 0 ≤ number) :
    Unsigned (ofInt number) := by
  rw [ofInt, decide_eq_false (Int.not_lt.mpr nonnegative)]
  exact unsigned_ofQuotient _ _

theorem unsigned_ofDecimal (digits : Nat) (exponent : Int) :
    Unsigned (ofDecimal false digits exponent) := by
  unfold ofDecimal
  dsimp only
  split_ifs
  · exact .finite (Int.le_refl 0)
  · exact .infinite
  · exact unsigned_ofQuotient _ _
  · exact unsigned_ofQuotient _ _

variable {left right : Double}

theorem unsigned_add (leftUnsigned : Unsigned left) (rightUnsigned : Unsigned right) :
    Unsigned (left.add right) := by
  cases leftUnsigned with
  | notANumber => exact .notANumber
  | infinite =>
      cases rightUnsigned with
      | notANumber => exact .notANumber
      | infinite => exact .infinite
      | finite _ => exact .infinite
  | finite leftNonnegative =>
      cases rightUnsigned with
      | notANumber => exact .notANumber
      | infinite => exact .infinite
      | finite rightNonnegative =>
          have nonnegative := Int.add_nonneg leftNonnegative rightNonnegative
          rw [add, decide_eq_false (Int.not_lt.mpr nonnegative)]
          exact unsigned_ofQuotient _ _

theorem unsigned_mul (leftUnsigned : Unsigned left) (rightUnsigned : Unsigned right) :
    Unsigned (left.mul right) := by
  cases leftUnsigned with
  | notANumber => exact .notANumber
  | infinite =>
      cases rightUnsigned with
      | notANumber => exact .notANumber
      | infinite => exact .infinite
      | finite nonnegative =>
          rw [mul, decide_eq_false (Int.not_lt.mpr nonnegative)]
          split
          · exact .notANumber
          · exact .infinite
  | finite leftNonnegative =>
      cases rightUnsigned with
      | notANumber => exact .notANumber
      | infinite =>
          rw [mul, decide_eq_false (Int.not_lt.mpr leftNonnegative)]
          split
          · exact .notANumber
          · exact .infinite
      | finite rightNonnegative =>
          have nonnegative := Int.mul_nonneg leftNonnegative rightNonnegative
          rw [mul, decide_eq_false (Int.not_lt.mpr nonnegative)]
          exact unsigned_ofQuotient _ _

theorem toWord_nonneg {number : Double} (unsigned : Unsigned number) :
    0 ≤ number.toWord := by
  cases unsigned with
  | notANumber => exact Int.le_refl 0
  | infinite => decide
  | @finite scaled nonnegative =>
      have rounded : 0 ≤ roundAway scaled :=
        Int.mul_nonneg (Int.sign_nonneg_iff.mpr nonnegative) (Int.natCast_nonneg _)
      rw [toWord, highestWord]
      omega

private theorem splitSign_of_not_mem {text : Text} (noMinus : '-' ∉ text) :
    (splitSign text).1 = false := by
  unfold splitSign
  split
  · exact absurd (by simp) noMinus
  · rfl
  · rfl

private theorem unsigned_readMagnitude?
    {text : Text} {number : Double}
    (read : readMagnitude? false text = some number) :
    Unsigned number := by
  unfold readMagnitude? at read
  dsimp only at read
  split_ifs at read
  obtain ⟨exponent, _, rfl⟩ := Option.map_eq_some_iff.mp read
  exact unsigned_ofDecimal _ _

/-- A numeral without a minus sign denotes no negative number. -/
theorem unsigned_ofText?
    {text : Text} {number : Double}
    (noMinus : '-' ∉ text)
    (read : ofText? text = some number) :
    Unsigned number := by
  have positive := splitSign_of_not_mem noMinus
  unfold ofText? at read
  rcases signed : splitSign text with ⟨negative, magnitude⟩
  rw [signed] at positive read
  have notNegative : negative = false := positive
  subst notNegative
  dsimp only at read
  split_ifs at read
  · cases read
    exact .infinite
  · cases read
    exact .notANumber
  · exact unsigned_readMagnitude? read

end TitleStamp.Double
