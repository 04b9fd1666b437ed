import TitleStamp.Duration.Pattern
import TitleStamp.Proofs.Number.Whole
import TitleStamp.Proofs.Text.LetterCase
import TitleStamp.Proofs.Text.Runs

/-!
# Reading whole numerals

A run of digits, with or without a minus sign, is read as the whole number that it denotes, as long
as that number has its exact place.  Leading zeros do not count.
-/

namespace TitleStamp

theorem digitsValue_eq_ofDigitChars (digits : Text) :
    digitsValue digits = Nat.ofDigitChars 10 digits 0 :=
  (Nat.ofDigitChars_eq_foldl).symm

theorem digitsValue_append (left right : Text) :
    digitsValue (left ++ right) = 10 ^ right.length * digitsValue left + digitsValue right := by
  simp only [digitsValue_eq_ofDigitChars, Nat.ofDigitChars_append]
  exact Nat.ofDigitChars_eq_ofDigitChars_zero

theorem digitsValue_ofNat (number : Nat) : digitsValue (Text.ofNat number) = number := by
  rw [digitsValue_eq_ofDigitChars]
  exact Nat.ofDigitChars_ten_toDigits

theorem digitsValue_padLeft (width number : Nat) :
    digitsValue (padLeft width (Text.ofNat number)) = number := by
  rw [digitsValue_eq_ofDigitChars, padLeft, Nat.ofDigitChars_append,
    Nat.ofDigitChars_replicate_zero, Nat.mul_zero, Text.ofNat, Nat.ofDigitChars_ten_toDigits]

namespace Double

theorem ofDecimal_eq_whole (negative : Bool) {number : Nat} (small : number ≤ 2 ^ 53) :
    ofDecimal negative number 0 = whole (signed negative number) := by
  have short : (Nat.toDigits 10 number).length ≤ 16 :=
    (Nat.length_toDigits_le_iff (by decide) (by decide)).mpr
      (Nat.lt_of_le_of_lt small (by decide))
  unfold ofDecimal
  dsimp only
  by_cases zero : number = 0
  · have noSign : signed negative number = 0 := by
      rw [zero]
      cases negative <;> rfl
    rw [if_pos (Or.inl zero), noSign, whole_zero]
  · have unscaled : number * Nat.pow 10 (0 : Int).toNat * one = number * one * 1 := by
      rw [Int.toNat_zero, Nat.pow_eq, Nat.pow_zero, Nat.mul_one, Nat.mul_one]
    rw [if_neg (by omega), if_neg (by omega), if_pos (Int.le_refl 0), unscaled]
    exact ofQuotient_eq_whole negative small Nat.one_pos

variable {digits : Text}

theorem readMagnitude?_digits
    (negative : Bool)
    (nonempty : digits ≠ [])
    (areDigits : ∀ character ∈ digits, character.isDigit = true) :
    readMagnitude? negative digits = some (ofDecimal negative (digitsValue digits) 0) := by
  have taken : digits.takeWhile Char.isDigit = digits := by
    simpa using Text.takeWhile_append_of_startsOutside areDigits Text.startsOutside_nil
  have nothingLeft : digits.dropWhile Char.isDigit = [] := by
    simpa using Text.dropWhile_append_of_startsOutside areDigits Text.startsOutside_nil
  simp [readMagnitude?, splitDigits, taken, nothingLeft, nonempty, readExponent?]

theorem readMagnitude?_point
    {whole fraction : Text} (negative : Bool)
    (nonempty : whole ≠ [])
    (wholeDigits : ∀ character ∈ whole, character.isDigit = true)
    (fractionDigits : ∀ character ∈ fraction, character.isDigit = true) :
    readMagnitude? negative (whole ++ '.' :: fraction) =
      some (ofDecimal negative (digitsValue (whole ++ fraction)) (-(fraction.length : Int))) := by
  have stops : Text.StartsOutside Char.isDigit ('.' :: fraction) :=
    Text.startsOutside_cons.mpr rfl
  have wholeTaken := Text.takeWhile_append_of_startsOutside wholeDigits stops
  have fractionLeft := Text.dropWhile_append_of_startsOutside wholeDigits stops
  have fractionTaken : fraction.takeWhile Char.isDigit = fraction := by
    simpa using Text.takeWhile_append_of_startsOutside fractionDigits Text.startsOutside_nil
  have nothingLeft : fraction.dropWhile Char.isDigit = [] := by
    simpa using Text.dropWhile_append_of_startsOutside fractionDigits Text.startsOutside_nil
  simp [readMagnitude?, splitDigits, wholeTaken, fractionLeft, fractionTaken, nothingLeft, nonempty,
    readExponent?]

/-- Behind an optional minus sign, a text that starts with a digit or a point is a number in
digits and no word. -/
theorem ofText?_signed
    (negative : Bool) {first : Char} (starts : first.isDigit = true ∨ first = '.') (rest : Text) :
    ofText? (if negative then '-' :: first :: rest else first :: rest) =
      readMagnitude? negative (first :: rest) := by
  have notLetter {letter : Char}
      (notDigit : letter.isDigit = false) (notPoint : letter ≠ '.') : first ≠ letter := by
    rintro rfl
    rcases starts with isDigit | isPoint
    · rw [notDigit] at isDigit
      cases isDigit
    · exact notPoint isPoint
  have split :
      splitSign (if negative then '-' :: first :: rest else first :: rest) =
        (negative, first :: rest) := by
    cases negative with
    | true => rfl
    | false => exact splitSign_cons (notLetter rfl (by decide)) (notLetter rfl (by decide)) rest
  have unchanged : first.toLower = first := by
    rcases starts with isDigit | rfl
    · exact toLower_of_isDigit isDigit
    · rfl
  have noWord {letter : Char} {letters : Text}
      (notDigit : letter.isDigit = false) (notPoint : letter ≠ '.') :
      (first :: rest).map Char.toLower ≠ letter :: letters := by
    intro same
    have sameFirst : first.toLower = letter := (List.cons.inj same).1
    rw [unchanged] at sameFirst
    exact notLetter notDigit notPoint sameFirst
  have notInfinite :
      ¬((first :: rest).map Char.toLower = "inf".toList ∨
        (first :: rest).map Char.toLower = "infinity".toList) :=
    not_or.mpr ⟨noWord rfl (by decide), noWord rfl (by decide)⟩
  have notMissing : (first :: rest).map Char.toLower ≠ "nan".toList := noWord rfl (by decide)
  rw [ofText?, split]
  dsimp only
  rw [if_neg notInfinite, if_neg notMissing]

/-- A numeral of digits after an optional minus sign denotes its whole number. -/
theorem ofText?_digits
    (negative : Bool)
    (nonempty : digits ≠ [])
    (areDigits : ∀ character ∈ digits, character.isDigit = true)
    (small : digitsValue digits ≤ 2 ^ 53) :
    ofText? (if negative then '-' :: digits else digits) =
      some (whole (signed negative (digitsValue digits))) := by
  obtain ⟨first, rest, rfl⟩ := List.exists_cons_of_ne_nil nonempty
  rw [ofText?_signed negative (Or.inl (areDigits first List.mem_cons_self)) rest,
    readMagnitude?_digits negative nonempty areDigits, ofDecimal_eq_whole negative small]

end Double

end TitleStamp
