import Mathlib.Algebra.Ring.Int.Defs
import Mathlib.Algebra.Ring.Nat
import TitleStamp.Number.Decimal

/-!
# Arithmetic on whole numbers

Whole numbers of at most 2^53 have their exact place among the double-precision numbers.  Sums and
products of such numbers that do not leave this range are therefore not rounded.
-/

namespace TitleStamp.Double

/-- A whole number at its exact place. -/
def whole (number : Int) : Double :=
  .finite (number * one)

theorem whole_zero : whole 0 = .finite 0 := by
  rw [whole, Int.zero_mul]

/-- A magnitude with a minus sign if it is negative. -/
def signed (negative : Bool) (magnitude : Nat) : Int :=
  if negative then -(magnitude : Int) else magnitude

/-- The powers are kept apart from their exponents, so that nothing computes them. -/
theorem exists_one_eq :
    ∃ places limit, one = 2 ^ places ∧ overflow = 2 ^ limit ∧
      places = 1074 ∧ limit = places + 1024 := by
  refine ⟨1074, 2098, ?_, ?_, rfl, rfl⟩
  · unfold one
    generalize 1074 = places
    exact Nat.pow_eq
  · unfold overflow
    generalize 2098 = limit
    exact Nat.pow_eq

theorem one_pos : 0 < one := by
  obtain ⟨places, _, isPower, _, _, _⟩ := exists_one_eq
  rw [isPower]
  exact Nat.two_pow_pos places

private theorem mul_one_lt_overflow {number : Nat} (small : number ≤ 2 ^ 53) :
    number * one < overflow := by
  obtain ⟨places, limit, isPower, isLimit, _, wide⟩ := exists_one_eq
  calc number * one ≤ 2 ^ 53 * one := Nat.mul_le_mul_right one small
    _ = 2 ^ (53 + places) := by rw [isPower, Nat.pow_add]
    _ < overflow := isLimit ▸ Nat.pow_lt_pow_right Nat.one_lt_two (by omega)

/-! ## Rounding -/

theorem nearest_scaled (numerator denominator : Nat) {factor : Nat} (positive : 0 < factor) :
    nearest (numerator * factor) (denominator * factor) = nearest numerator denominator := by
  have quotient : numerator * factor / (denominator * factor) = numerator / denominator :=
    Nat.mul_div_mul_right _ _ positive
  have remainder :
      numerator * factor % (denominator * factor) = numerator % denominator * factor :=
    Nat.mul_mod_mul_right _ _ _
  have scaled (left right : Nat) : left * factor < right * factor ↔ left < right :=
    Nat.mul_lt_mul_right positive
  simp only [nearest, quotient, remainder, ← Nat.mul_assoc, scaled]

theorem nearest_one (number : Nat) : nearest number 1 = number := by
  simp [nearest, Nat.mod_one]

/-- Only the quotient counts. -/
theorem significant_scaled (numerator denominator : Nat) {factor : Nat} (positive : 0 < factor) :
    significant (numerator * factor) (denominator * factor) =
      significant numerator denominator := by
  rw [significant, significant, Nat.mul_div_mul_right _ _ positive,
    Nat.mul_right_comm denominator factor, nearest_scaled _ _ positive]

/-- The step between neighbours divides a whole number times a power of two, if the number has at
most 53 significant bits. -/
private theorem step_dvd {number : Nat} (small : number ≤ 2 ^ 53) (places : Nat) :
    2 ^ ((number * 2 ^ places).log2 - 52) ∣ number * 2 ^ places := by
  rcases Nat.lt_or_eq_of_le small with below | rfl
  · have narrow : (number * 2 ^ places).log2 - 52 ≤ places := by
      rcases Nat.eq_zero_or_pos number with rfl | positive
      · simp
      · have bounded : number * 2 ^ places < 2 ^ (53 + places) := by
          rw [Nat.pow_add]
          exact Nat.mul_lt_mul_of_pos_right below (Nat.two_pow_pos places)
        have nonzero : number * 2 ^ places ≠ 0 :=
          Nat.ne_of_gt (Nat.mul_pos positive (Nat.two_pow_pos places))
        have := (Nat.log2_lt nonzero).mpr bounded
        omega
    exact Nat.dvd_trans (Nat.pow_dvd_pow 2 narrow) (Nat.dvd_mul_left _ number)
  · rw [← Nat.pow_add, Nat.log2_two_pow]
    exact Nat.pow_dvd_pow 2 (by omega)

/-- A number with at most 53 significant bits is not rounded. -/
theorem significant_mul_two_pow {number : Nat} (small : number ≤ 2 ^ 53) (places : Nat) :
    significant (number * 2 ^ places) 1 = number * 2 ^ places := by
  obtain ⟨quotient, multiple⟩ := step_dvd small places
  rw [significant, Nat.div_one, Nat.pow_eq]
  have stepPositive : 0 < 2 ^ ((number * 2 ^ places).log2 - 52) := Nat.two_pow_pos _
  generalize 2 ^ ((number * 2 ^ places).log2 - 52) = step at multiple stepPositive
  rw [multiple, Nat.mul_comm step quotient, nearest_scaled quotient 1 stepPositive, nearest_one]

private theorem significant_eq
    {number denominator : Nat} (small : number ≤ 2 ^ 53) (positive : 0 < denominator) :
    significant (number * one * denominator) denominator = number * one := by
  obtain ⟨places, _, isPower, _, _, _⟩ := exists_one_eq
  have scaled := significant_scaled (number * one) 1 positive
  rw [Nat.one_mul] at scaled
  rw [scaled, isPower]
  exact significant_mul_two_pow small places

/-! ## Whole numbers -/

/-- A quotient that is a whole number of at most 53 bits is not rounded. -/
theorem ofQuotient_eq_whole
    {number denominator : Nat} (negative : Bool)
    (small : number ≤ 2 ^ 53) (positive : 0 < denominator) :
    ofQuotient negative (number * one * denominator) denominator =
      whole (signed negative number) := by
  rw [ofQuotient, significant_eq small positive, if_pos (mul_one_lt_overflow small), whole,
    signed]
  cases negative with
  | false => simp only [Bool.false_eq_true, if_false, Int.natCast_mul]
  | true => simp only [if_true, Int.natCast_mul, Int.neg_mul]

theorem signed_natAbs (number : Int) :
    signed (decide (number < 0)) number.natAbs = number := by
  by_cases negative : number < 0
  · rw [decide_eq_true negative, signed, if_pos rfl]
    omega
  · rw [decide_eq_false negative, signed, if_neg Bool.false_ne_true]
    omega

/-- A positive factor keeps the sign. -/
theorem mul_neg_iff_of_pos (number : Int) {factor : Int} (positive : 0 < factor) :
    number * factor < 0 ↔ number < 0 := by
  constructor
  · intro negative
    exact Int.neg_of_mul_neg_left negative positive
  · intro negative
    exact Int.mul_neg_of_neg_of_pos negative positive

private theorem scaled_neg_iff (number : Int) : number * one < 0 ↔ number < 0 :=
  mul_neg_iff_of_pos number (Int.natCast_pos.mpr one_pos)

theorem ofInt_eq_whole {number : Int} (small : number.natAbs ≤ 2 ^ 53) :
    ofInt number = whole number := by
  have unrounded := ofQuotient_eq_whole (decide (number < 0)) small Nat.one_pos
  rw [Nat.mul_one, signed_natAbs] at unrounded
  exact unrounded

variable {left right : Int}

theorem add_whole (small : (left + right).natAbs ≤ 2 ^ 53) :
    (whole left).add (whole right) = whole (left + right) := by
  have unrounded := ofQuotient_eq_whole (decide (left + right < 0)) small Nat.one_pos
  rw [Nat.mul_one, signed_natAbs] at unrounded
  rw [whole, whole, add, ← Int.add_mul, decide_eq_decide.mpr (scaled_neg_iff (left + right)),
    Int.natAbs_mul, Int.natAbs_natCast, unrounded]

theorem mul_whole (small : (left * right).natAbs ≤ 2 ^ 53) :
    (whole left).mul (whole right) = whole (left * right) := by
  have unrounded := ofQuotient_eq_whole (decide (left * right < 0)) small one_pos
  rw [signed_natAbs] at unrounded
  have scaled : left * one * (right * one) = left * right * one * one := by
    rw [Int.mul_assoc, Int.mul_left_comm (one : Int), ← Int.mul_assoc, ← Int.mul_assoc]
  have negative : left * one * (right * one) < 0 ↔ left * right < 0 := by
    rw [scaled, scaled_neg_iff, scaled_neg_iff]
  rw [whole, whole, mul, decide_eq_decide.mpr negative, scaled, Int.natAbs_mul, Int.natAbs_mul,
    Int.natAbs_natCast, unrounded]

/-- Numbers whose magnitudes sum up to at most 2^53 are added without rounding. -/
theorem foldl_add_whole
    {numbers : List Int} {start : Int}
    (small : start.natAbs + (numbers.map Int.natAbs).sum ≤ 2 ^ 53) :
    (numbers.map whole).foldl add (whole start) = whole (start + numbers.sum) := by
  induction numbers generalizing start with
  | nil => rw [List.sum_nil, Int.add_zero, List.map_nil, List.foldl_nil]
  | cons number rest inductionHypothesis =>
      rw [List.map_cons, List.sum_cons] at small
      have magnitude := Int.natAbs_add_le start number
      rw [List.map_cons, List.foldl_cons, add_whole (by omega),
        inductionHypothesis (by omega), List.sum_cons, Int.add_assoc]

theorem toWord_whole {number : Int} (small : number.natAbs ≤ 2 ^ 53) :
    (whole number).toWord = number := by
  have rounded : roundAway (number * one) = number := by
    have halves : (2 * (number.natAbs * one) + one) / (2 * one) = number.natAbs := by
      have positive := one_pos
      rw [← Nat.mul_assoc, Nat.mul_comm 2, Nat.mul_assoc, Nat.add_comm,
        Nat.add_mul_div_right _ _ (Nat.mul_pos Nat.two_pos positive),
        Nat.div_eq_of_lt (by omega), Nat.zero_add]
    have sign : (number * one).sign = number.sign := by
      rw [Int.sign_mul, Int.sign_eq_one_of_pos (Int.natCast_pos.mpr one_pos), Int.mul_one]
    rw [roundAway, sign, Int.natAbs_mul, Int.natAbs_natCast, halves]
    exact Int.sign_mul_natAbs number
  rw [whole, toWord, rounded, lowestWord, highestWord]
  omega

end TitleStamp.Double
