import TitleStamp.Json.NumberToken
import TitleStamp.Proofs.Text.Runs

/-!
# The spelling of JSON numbers

The parts that a number is written with, and that the reader of numbers takes them apart again as
long as nothing follows that could go on with the number.
-/

namespace TitleStamp.Json

/-- A run of at least one digit. -/
structure IsDigits (digits : Text) : Prop where
  nonempty : digits ≠ []
  areDigits : ∀ character ∈ digits, character.isDigit = true

inductive SpellsSign : Text → (negative : Bool) → Prop where
  | none : SpellsSign [] false
  | minus : SpellsSign ['-'] true

/-- A whole part has no zero in front of other digits. -/
structure IsWhole (digits : Text) : Prop extends IsDigits digits where
  noLeadingZero : digits.head? = some '0' → digits.length = 1

inductive SpellsFraction : Text → Option Text → Prop where
  | none : SpellsFraction [] none
  | point {digits : Text} (areDigits : IsDigits digits) :
      SpellsFraction ('.' :: digits) (some digits)

/-- An exponent, with whether it is negative and its digits. -/
inductive SpellsExponent : Text → Option (Bool × Text) → Prop where
  | none : SpellsExponent [] none
  | unsigned {marker : Char} {digits : Text}
      (isMarker : marker = 'e' ∨ marker = 'E') (areDigits : IsDigits digits) :
      SpellsExponent (marker :: digits) (some (false, digits))
  | plus {marker : Char} {digits : Text}
      (isMarker : marker = 'e' ∨ marker = 'E') (areDigits : IsDigits digits) :
      SpellsExponent (marker :: '+' :: digits) (some (false, digits))
  | minus {marker : Char} {digits : Text}
      (isMarker : marker = 'e' ∨ marker = 'E') (areDigits : IsDigits digits) :
      SpellsExponent (marker :: '-' :: digits) (some (true, digits))

/-- A number and the parts that it is written with. -/
inductive SpellsNumber : Text → NumberParts → Prop where
  | parts {sign whole fraction exponent : Text} {negative : Bool}
      {fractionDigits : Option Text} {exponentDigits : Option (Bool × Text)}
      (spelledSign : SpellsSign sign negative) (isWhole : IsWhole whole)
      (spelledFraction : SpellsFraction fraction fractionDigits)
      (spelledExponent : SpellsExponent exponent exponentDigits) :
      SpellsNumber (sign ++ (whole ++ (fraction ++ exponent)))
        ⟨negative, whole, fractionDigits, exponentDigits,
          (sign ++ (whole ++ (fraction ++ exponent))).length⟩

def isDigitOrPoint (character : Char) : Bool :=
  character.isDigit || character = '.'

variable {source digits rest : Text}

theorem startsOutside_isDigit_of_isDigitOrPoint (stops : Text.StartsOutside isDigitOrPoint rest) :
    Text.StartsOutside Char.isDigit rest :=
  fun character isFirst => (Bool.or_eq_false_iff.mp (stops character isFirst)).1

theorem readDigits_append (areDigits : IsDigits digits)
    (stops : Text.StartsOutside Char.isDigit rest) :
    readDigits (digits ++ rest) = .ok (digits, rest) := by
  unfold readDigits
  rw [Text.takeWhile_append_of_startsOutside areDigits.areDigits stops,
    Text.dropWhile_append_of_startsOutside areDigits.areDigits stops]
  split
  · exact absurd rfl areDigits.nonempty
  · rfl

theorem readWhole_append (isWhole : IsWhole digits)
    (stops : Text.StartsOutside Char.isDigit rest) :
    readWhole (digits ++ rest) = .ok (digits, rest) := by
  have noZero : ¬(digits.head? = some '0' ∧ digits.length ≠ 1) :=
    fun zero => zero.2 (isWhole.noLeadingZero zero.1)
  simp only [readWhole, readDigits_append isWhole.toIsDigits stops, bind, Except.bind,
    if_neg noZero]

/-- Digits are not taken for a sign. -/
theorem splitSign_digits_append (areDigits : IsDigits digits) (rest : Text) :
    Double.splitSign (digits ++ rest) = (false, digits ++ rest) := by
  obtain ⟨first, others, rfl⟩ := List.exists_cons_of_ne_nil areDigits.nonempty
  have isDigit := areDigits.areDigits first List.mem_cons_self
  exact Double.splitSign_cons (ne_of_apply_ne Char.isDigit (by rw [isDigit]; decide))
    (ne_of_apply_ne Char.isDigit (by rw [isDigit]; decide)) _

theorem readExponent_append {exponent : Option (Bool × Text)}
    (spelled : SpellsExponent source exponent)
    (stops : Text.StartsOutside Text.continuesNumeral rest) :
    readExponent (source ++ rest) = .ok (exponent, rest) := by
  have noDigit := Text.startsOutside_isDigit_of_continuesNumeral stops
  cases spelled with
  | none =>
      cases rest with
      | nil => rfl
      | cons first others =>
          have outside := Text.startsOutside_cons.mp stops
          have noMarker : ¬(first = 'e' ∨ first = 'E') := by
            rintro (rfl | rfl) <;> exact absurd outside (by decide)
          rw [List.nil_append, readExponent, if_neg noMarker]
  | unsigned isMarker areDigits =>
      simp only [List.cons_append, readExponent, if_pos isMarker,
        splitSign_digits_append areDigits, readDigits_append areDigits noDigit, bind,
        Except.bind]
  | plus isMarker areDigits =>
      simp only [List.cons_append, readExponent, if_pos isMarker, Double.splitSign,
        readDigits_append areDigits noDigit, bind, Except.bind]
  | minus isMarker areDigits =>
      simp only [List.cons_append, readExponent, if_pos isMarker, Double.splitSign,
        readDigits_append areDigits noDigit, bind, Except.bind]

/-- Neither an exponent nor what may follow a number starts with a digit or a point. -/
theorem startsOutside_exponent_append {exponent : Option (Bool × Text)}
    (spelled : SpellsExponent source exponent)
    (stops : Text.StartsOutside Text.continuesNumeral rest) :
    Text.StartsOutside isDigitOrPoint (source ++ rest) := by
  have markerOutside {marker : Char} (isMarker : marker = 'e' ∨ marker = 'E') :
      isDigitOrPoint marker = false := by
    rcases isMarker with rfl | rfl <;> decide
  cases spelled with
  | none =>
      intro character isFirst
      have outside := stops character isFirst
      simp only [Text.continuesNumeral, Bool.or_eq_false_iff] at outside
      exact Bool.or_eq_false_iff.mpr outside.1.1
  | unsigned isMarker _ | plus isMarker _ | minus isMarker _ =>
      exact Text.startsOutside_cons.mpr (markerOutside isMarker)

theorem readFraction_append {fraction : Option Text}
    (spelled : SpellsFraction source fraction)
    (stops : Text.StartsOutside isDigitOrPoint rest) :
    readFraction (source ++ rest) = .ok (fraction, rest) := by
  cases spelled with
  | none =>
      unfold readFraction
      split
      · next others startsWithPoint =>
          rw [List.nil_append] at startsWithPoint
          rw [startsWithPoint] at stops
          exact absurd (Text.startsOutside_cons.mp stops) (by decide)
      · rfl
  | point areDigits =>
      have noDigit := startsOutside_isDigit_of_isDigitOrPoint stops
      simp only [List.cons_append, readFraction, readDigits_append areDigits noDigit, bind,
        Except.bind]

private theorem startsOutside_fraction_append {fraction : Option Text}
    (spelled : SpellsFraction source fraction)
    (stops : Text.StartsOutside isDigitOrPoint rest) :
    Text.StartsOutside Char.isDigit (source ++ rest) := by
  cases spelled with
  | none => exact startsOutside_isDigit_of_isDigitOrPoint stops
  | point _ => exact Text.startsOutside_cons.mpr (by decide)

/-- A number is taken apart into the parts that it is written with. -/
theorem readNumber_append {parts : NumberParts} (spelled : SpellsNumber source parts)
    (stops : Text.StartsOutside Text.continuesNumeral rest) :
    readNumber (source ++ rest) = .ok parts := by
  obtain @⟨sign, whole, fraction, exponent, negative, _, _, spelledSign, isWhole,
    spelledFraction, spelledExponent⟩ := spelled
  have exponentRead := readExponent_append spelledExponent stops
  have exponentStops := startsOutside_exponent_append spelledExponent stops
  have fractionRead := readFraction_append spelledFraction exponentStops
  have fractionStops := startsOutside_fraction_append spelledFraction exponentStops
  have wholeRead := readWhole_append isWhole fractionStops
  have split :
      (sign ++ (whole ++ (fraction ++ exponent))) ++ rest =
        sign ++ (whole ++ (fraction ++ (exponent ++ rest))) := by
    simp only [List.append_assoc]
  unfold readNumber
  rw [split]
  cases spelledSign with
  | none =>
      obtain ⟨first, others, rfl⟩ := List.exists_cons_of_ne_nil isWhole.nonempty
      have notMinus : first ≠ '-' := by
        rintro rfl
        exact absurd (isWhole.areDigits _ List.mem_cons_self) (by decide)
      simp only [List.nil_append, List.cons_append] at wholeRead ⊢
      simp [notMinus, wholeRead, fractionRead, exponentRead, bind, Except.bind]
      omega
  | minus =>
      simp [wholeRead, fractionRead, exponentRead, bind, Except.bind]
      omega

end TitleStamp.Json
