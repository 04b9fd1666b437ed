import TitleStamp.Number.Shown
import TitleStamp.Proofs.Number.Numeral

/-!
# Shown numbers

Every number is shown by a text that reads back as it.  The search for a short decimal only finds
decimals that do, and a whole number of steps that is written out exactly does too.
-/

namespace TitleStamp.Double

/-! ## Rounded numbers -/

/-- A number that rounding leaves as it is, or none at all. -/
inductive IsRounded : Double → Prop where
  | finite {scaled : Int} (rounded : significant scaled.natAbs 1 = scaled.natAbs)
      (inRange : scaled.natAbs < overflow) : IsRounded (.finite scaled)
  | infinite (negative : Bool) : IsRounded (.infinite negative)
  | notANumber : IsRounded .notANumber

private theorem nearest_le (numerator denominator : Nat) :
    nearest numerator denominator ≤ numerator / denominator + 1 := by
  unfold nearest
  dsimp only
  split
  · exact Nat.le_succ _
  · split
    · exact Nat.le_refl _
    · split
      · exact Nat.le_succ _
      · exact Nat.le_refl _

theorem significant_significant (numerator denominator : Nat) :
    significant (significant numerator denominator) 1 = significant numerator denominator := by
  let places := (numerator / denominator).log2 - 52
  have below : numerator / denominator < 2 ^ places * 2 ^ 53 := by
    rw [← Nat.pow_add]
    exact Nat.lt_of_lt_of_le Nat.lt_log2_self (Nat.pow_le_pow_right Nat.two_pos (by omega))
  have small : nearest numerator (denominator * 2 ^ places) ≤ 2 ^ 53 := by
    refine Nat.le_trans (nearest_le _ _) ?_
    rw [← Nat.div_div_eq_div_mul]
    exact Nat.div_lt_of_lt_mul below
  exact significant_mul_two_pow small places

theorem isRounded_ofQuotient (negative : Bool) (numerator denominator : Nat) :
    IsRounded (ofQuotient negative numerator denominator) := by
  have rounded := significant_significant numerator denominator
  rw [ofQuotient]
  generalize significant numerator denominator = magnitude at rounded
  have unsigned : (if negative then -(magnitude : Int) else magnitude).natAbs = magnitude := by
    cases negative <;> simp
  rcases Nat.lt_or_ge magnitude overflow with inRange | outOfRange
  · rw [if_pos inRange]
    exact .finite (by rw [unsigned, rounded]) (by rwa [unsigned])
  · rw [if_neg (Nat.not_lt.mpr outOfRange)]
    exact .infinite negative

theorem isRounded_mul (left right : Double) : IsRounded (left.mul right) := by
  unfold mul
  split
  · exact .notANumber
  · exact .notANumber
  · exact .infinite _
  · split
    · exact .notANumber
    · exact .infinite _
  · split
    · exact .notANumber
    · exact .infinite _
  · exact isRounded_ofQuotient _ _ _

/-! ## Decimals that read back -/

section Exact

variable {third scaled : Nat}

/-! A whole number of steps is written out with as many places as there are halvings in a step.  The
lemmas leave the number of places open, so that no power is computed. -/

private theorem lt_length_exact (positive : 0 < scaled) (some : 0 < third) :
    2 * third < (Nat.toDigits 10 (scaled * 5 ^ (3 * third))).length := by
  have many : 10 ^ (2 * third) ≤ scaled * 5 ^ (3 * third) := by
    calc 10 ^ (2 * third) = (10 ^ 2) ^ third := pow_mul 10 2 third
      _ ≤ (5 ^ 3) ^ third := Nat.pow_le_pow_left (by decide) third
      _ = 5 ^ (3 * third) := (pow_mul 5 3 third).symm
      _ ≤ scaled * 5 ^ (3 * third) := Nat.le_mul_of_pos_left _ positive
  have positiveLength : 0 < 2 * third := by omega
  by_contra notLong
  have few := (Nat.length_toDigits_le_iff (by decide) positiveLength).mp (Nat.not_lt.mp notLong)
  exact absurd few (Nat.not_lt.mpr many)

private theorem length_exact_le (bounded : scaled < 2 ^ (2 * (3 * third))) (some : 0 < third) :
    (Nat.toDigits 10 (scaled * 5 ^ (3 * third))).length ≤ 4 * third := by
  refine (Nat.length_toDigits_le_iff (by decide) (by omega)).mpr ?_
  calc scaled * 5 ^ (3 * third) < 2 ^ (2 * (3 * third)) * 5 ^ (3 * third) :=
        Nat.mul_lt_mul_of_pos_right bounded (Nat.pow_pos (by decide))
    _ = (2 ^ 2 * 5) ^ (3 * third) := by rw [pow_mul 2 2 (3 * third), mul_pow]
    _ = ((2 ^ 2 * 5) ^ 3) ^ third := pow_mul _ 3 third
    _ ≤ (10 ^ 4) ^ third := Nat.pow_le_pow_left (by decide) third
    _ = 10 ^ (4 * third) := (pow_mul 10 4 third).symm

end Exact

/-- A whole number of steps has an end in decimal, and reads back when it is written out. -/
theorem ofDecimal_exact
    {scaled : Nat} (positive : 0 < scaled)
    (rounded : significant scaled 1 = scaled) (inRange : scaled < overflow) :
    ofDecimal false (scaled * Nat.pow 5 1074) (-1074) = finite scaled := by
  obtain ⟨places, limit, isOne, isLimit, isPlaces, rfl⟩ := exists_one_eq
  obtain ⟨third, rfl⟩ : ∃ third, places = 3 * third := ⟨358, isPlaces⟩
  have bounded : scaled < 2 ^ (2 * (3 * third)) :=
    Nat.lt_of_lt_of_le (isLimit ▸ inRange) (Nat.pow_le_pow_right Nat.two_pos (by omega))
  have long := lt_length_exact positive (show 0 < third by omega)
  have short := length_exact_le bounded (show 0 < third by omega)
  have nonzero : scaled * 5 ^ (3 * third) ≠ 0 :=
    Nat.ne_of_gt (Nat.mul_pos positive (Nat.pow_pos (by decide)))
  have quotient :
      significant (scaled * 5 ^ (3 * third) * one) (Nat.pow 10 (3 * third)) = scaled := by
    have tens : 5 ^ (3 * third) * one = Nat.pow 10 (3 * third) := by
      rw [isOne, ← mul_pow]
      exact Nat.pow_eq.symm
    have tensPositive : 0 < Nat.pow 10 (3 * third) := Nat.pow_pos (by decide)
    have unscaled := significant_scaled scaled 1 tensPositive
    rw [Nat.one_mul, rounded] at unscaled
    rw [Nat.mul_assoc, tens, unscaled]
  have exponent : (-1074 : Int) = -((3 * third : Nat) : Int) := by omega
  have power : Nat.pow 5 (3 * third) = 5 ^ (3 * third) := Nat.pow_eq
  rw [exponent, ← isPlaces, power]
  unfold ofDecimal
  rw [if_neg (by omega), if_neg (by omega), if_neg (by omega), ofQuotient, Int.neg_neg,
    Int.toNat_natCast, quotient, if_pos inRange]
  rfl

/-- The decimal that is chosen for a magnitude reads back as it. -/
theorem ofDecimal_shortestDecimal
    {scaled : Nat} (positive : 0 < scaled)
    (rounded : significant scaled 1 = scaled) (inRange : scaled < overflow) :
    ofDecimal false (shortestDecimal scaled).1 (shortestDecimal scaled).2 = finite scaled := by
  unfold shortestDecimal
  dsimp only
  generalize chosen : List.findSome? _ (List.range _) = search
  cases search with
  | none => exact ofDecimal_exact positive rounded inRange
  | some decimal =>
      obtain ⟨step, _, isFound⟩ := List.exists_of_findSome?_eq_some chosen
      rw [Option.map_eq_some_iff] at isFound
      obtain ⟨digits, isDigits, isDecimal⟩ := isFound
      have reads := List.find?_some isDigits
      rw [decide_eq_true_iff] at reads
      rw [Option.getD_some, ← isDecimal, reads]

theorem ofDecimal_negative
    {digits scaled : Nat} {exponent : Int}
    (read : ofDecimal false digits exponent = finite scaled) (negative : Bool) :
    ofDecimal negative digits exponent = finite (signed negative scaled) := by
  have quotient {numerator denominator : Nat}
      (same : ofQuotient false numerator denominator = finite scaled) :
      ofQuotient negative numerator denominator = finite (signed negative scaled) := by
    rw [ofQuotient] at same ⊢
    rcases Nat.lt_or_ge (significant numerator denominator) overflow with inRange | outOfRange
    · rw [if_pos inRange] at same ⊢
      have magnitude : significant numerator denominator = scaled := by
        simpa using same
      rw [magnitude]
      rfl
    · rw [if_neg (Nat.not_lt.mpr outOfRange)] at same
      cases same
  unfold ofDecimal at read ⊢
  dsimp only at read ⊢
  split_ifs at read ⊢
  · have zero : scaled = 0 := by
      simpa using read.symm
    rw [zero]
    cases negative <;> rfl
  · exact quotient read
  · exact quotient read

/-! ## Texts that read back -/

theorem length_toDigits_mul_pow {digits : Nat} (positive : 0 < digits) (zeros : Nat) :
    (Nat.toDigits 10 (digits * 10 ^ zeros)).length = (Nat.toDigits 10 digits).length + zeros := by
  induction zeros with
  | zero => rw [pow_zero, Nat.mul_one, Nat.add_zero]
  | succ zeros inductionHypothesis =>
      have scaledPositive : 0 < digits * 10 ^ zeros :=
        Nat.mul_pos positive (Nat.pow_pos (by decide))
      have appended :=
        Nat.toDigits_append_toDigits (show 1 < 10 by decide) scaledPositive (show 0 < 10 by decide)
      have scaled : digits * 10 ^ (zeros + 1) = 10 * (digits * 10 ^ zeros) + 0 := by
        rw [pow_succ, Nat.add_zero, Nat.mul_comm 10, Nat.mul_assoc]
      rw [scaled, ← appended, List.length_append, inductionHypothesis]
      rfl

/-- Zeros behind the digits count like a power of ten. -/
theorem ofDecimal_mul_pow (negative : Bool) (digits zeros : Nat) :
    ofDecimal negative (digits * 10 ^ zeros) 0 = ofDecimal negative digits zeros := by
  rcases Nat.eq_zero_or_pos digits with rfl | positive
  · rw [Nat.zero_mul]
    simp [ofDecimal]
  · have length := length_toDigits_mul_pow positive zeros
    have nonzero : digits * 10 ^ zeros ≠ 0 :=
      Nat.ne_of_gt (Nat.mul_pos positive (Nat.pow_pos (by decide)))
    have magnitude :
        (0 : Int) + (Nat.toDigits 10 (digits * 10 ^ zeros)).length =
          zeros + (Nat.toDigits 10 digits).length := by
      omega
    have unscaled : digits * 10 ^ zeros * Nat.pow 10 (0 : Int).toNat = digits * 10 ^ zeros :=
      Nat.mul_one _
    unfold ofDecimal
    rw [magnitude, unscaled, Int.toNat_natCast]
    simp only [nonzero, Nat.ne_of_gt positive, false_or, Int.le_refl, Int.natCast_nonneg, if_true]
    rfl

private theorem ofText?_of_startsDigit
    {text : Text} (nonempty : text ≠ []) (starts : ∀ first ∈ text.head?, first.isDigit = true)
    (negative : Bool) :
    ofText? ((if negative then ['-'] else []) ++ text) = readMagnitude? negative text := by
  obtain ⟨first, rest, rfl⟩ := List.exists_cons_of_ne_nil nonempty
  rw [← ofText?_signed negative (Or.inl (starts first rfl)) rest]
  cases negative <;> rfl

/-- A decimal in plain notation reads back, with or without places behind the point. -/
theorem ofText?_ofDecimal (negative : Bool) (digits : Nat) (exponent : Int) :
    ofText? ((if negative then ['-'] else []) ++ Text.ofDecimal digits exponent) =
      some (ofDecimal negative digits exponent) := by
  have numeralNonempty (number : Nat) : Text.ofNat number ≠ [] := Nat.toDigits_ne_nil
  have startsDigit (number : Nat) (rest : Text) :
      ∀ first ∈ (Text.ofNat number ++ rest).head?, first.isDigit = true := by
    intro first isFirst
    obtain ⟨character, others, numeral⟩ := List.exists_cons_of_ne_nil (numeralNonempty number)
    rw [numeral] at isFirst
    cases isFirst
    exact isDigit_of_mem_ofNat (numeral ▸ List.mem_cons_self)
  cases exponent with
  | ofNat zeros =>
      have nonempty : Text.ofNat digits ++ List.replicate zeros '0' ≠ [] :=
        List.append_ne_nil_of_left_ne_nil (numeralNonempty digits) _
      have areDigits :
          ∀ character ∈ Text.ofNat digits ++ List.replicate zeros '0',
            character.isDigit = true := by
        intro character member
        rcases List.mem_append.mp member with inNumeral | isZero
        · exact isDigit_of_mem_ofNat inNumeral
        · rw [List.eq_of_mem_replicate isZero]
          rfl
      have value :
          digitsValue (Text.ofNat digits ++ List.replicate zeros '0') = digits * 10 ^ zeros := by
        rw [digitsValue_eq_ofDigitChars, Nat.ofDigitChars_append, Nat.ofDigitChars_replicate_zero,
          Text.ofNat, Nat.ofDigitChars_ten_toDigits, Nat.mul_comm]
      rw [Text.ofDecimal, ofText?_of_startsDigit nonempty (startsDigit digits _),
        readMagnitude?_digits negative nonempty areDigits, value, ofDecimal_mul_pow]
      rfl
  | negSucc others =>
      let unit := Nat.pow 10 (others + 1)
      have unitPositive : 0 < unit := Nat.pow_pos (by decide)
      have fractionLength :
          (padLeft (others + 1) (Text.ofNat (digits % unit))).length = others + 1 := by
        have fits : (Text.ofNat (digits % unit)).length ≤ others + 1 :=
          (Nat.length_toDigits_le_iff (by decide) (Nat.succ_pos others)).mpr
            (Nat.mod_lt digits unitPositive)
        rw [padLeft, List.length_append, List.length_replicate]
        omega
      have value :
          digitsValue (Text.ofNat (digits / unit) ++
            padLeft (others + 1) (Text.ofNat (digits % unit))) = digits := by
        rw [digitsValue_append, fractionLength, digitsValue_ofNat, digitsValue_padLeft]
        exact Nat.div_add_mod digits unit
      have fractionDigits :
          ∀ character ∈ padLeft (others + 1) (Text.ofNat (digits % unit)),
            character.isDigit = true :=
        fun _ => isDigit_of_mem_padLeft
      have read := readMagnitude?_point negative (numeralNonempty (digits / unit))
        (fun _ => isDigit_of_mem_ofNat) fractionDigits
      rw [value, fractionLength] at read
      have nonempty := List.append_ne_nil_of_left_ne_nil (numeralNonempty (digits / unit))
        ('.' :: padLeft (others + 1) (Text.ofNat (digits % unit)))
      rw [Text.ofDecimal, ofText?_of_startsDigit nonempty (startsDigit _ _), read]
      rfl

/-- A number is shown by a text that reads back as it. -/
theorem ofText?_shown {number : Double} (rounded : IsRounded number) (negativeZero : Bool) :
    ofText? (number.shown negativeZero) = some number := by
  cases rounded with
  | @finite scaled rounded inRange =>
      rw [shown]
      by_cases zero : scaled = 0
      · rw [if_pos zero, zero]
        cases negativeZero with
        | true => exact ofText?_ofDecimal true 0 0
        | false => exact ofText?_ofDecimal false 0 0
      · have positive : 0 < scaled.natAbs := Int.natAbs_pos.mpr zero
        have reads :=
          ofDecimal_negative (ofDecimal_shortestDecimal positive rounded inRange)
            (decide (scaled < 0))
        rw [signed_natAbs] at reads
        rw [if_neg zero, ← reads]
        generalize shortestDecimal scaled.natAbs = decimal
        have read := ofText?_ofDecimal (decide (scaled < 0)) decimal.1 decimal.2
        simp only [decide_eq_true_eq] at read
        exact read
  | infinite negative => cases negative <;> rfl
  | notANumber => rfl

end TitleStamp.Double
