import Mathlib.Data.List.TakeWhile
import Mathlib.Tactic.SplitIfs
import TitleStamp.Proofs.Duration.Mentions
import TitleStamp.Proofs.Json.Numbers
import TitleStamp.Proofs.Number.Numeral

/-!
# The numbers of mentions

The search for mentions finds numbers by a grammar of its own.  What it finds is always a decimal
number: digits with at most one point and an exponent, which is spelled as in documents.  The reader
of decimal numbers takes all of that grammar.
-/

namespace TitleStamp

open Json (IsDigits SpellsExponent SpellsSign)

/-- Digits with at most one point among or around them. -/
inductive SpellsMagnitude : Text → Prop where
  | whole {digits : Text} (areDigits : IsDigits digits) : SpellsMagnitude digits
  | pointed {whole fraction : Text} (areDigits : IsDigits (whole ++ fraction)) :
      SpellsMagnitude (whole ++ '.' :: fraction)

/-- A magnitude with or without an exponent, behind an optional minus sign. -/
inductive SpellsAmount : Text → Prop where
  | parts {sign magnitude exponent : Text} {negative : Bool}
      {exponentParts : Option (Bool × Text)}
      (spelledSign : SpellsSign sign negative) (spelledMagnitude : SpellsMagnitude magnitude)
      (spelledExponent : SpellsExponent exponent exponentParts) :
      SpellsAmount (sign ++ (magnitude ++ exponent))

theorem SpellsMagnitude.exists_cons {magnitude : Text} (spelled : SpellsMagnitude magnitude) :
    ∃ first rest, (first.isDigit = true ∨ first = '.') ∧ magnitude = first :: rest := by
  cases spelled with
  | whole areDigits =>
      obtain ⟨first, rest, rfl⟩ := List.exists_cons_of_ne_nil areDigits.nonempty
      exact ⟨first, rest, Or.inl (areDigits.areDigits first List.mem_cons_self), rfl⟩
  | @pointed whole fraction areDigits =>
      cases whole with
      | nil => exact ⟨'.', fraction, Or.inr rfl, rfl⟩
      | cons first rest =>
          exact ⟨first, rest ++ '.' :: fraction,
            Or.inl (areDigits.areDigits first (by simp)), rfl⟩

theorem SpellsAmount.ne_nil {number : Text} (spelled : SpellsAmount number) : number ≠ [] := by
  obtain ⟨_, spelledMagnitude, _⟩ := spelled
  obtain ⟨first, rest, _, rfl⟩ := spelledMagnitude.exists_cons
  simp

theorem SpellsMagnitude.isDigitOrPoint {magnitude : Text} (spelled : SpellsMagnitude magnitude) :
    ∀ character ∈ magnitude, Json.isDigitOrPoint character = true := by
  intro character member
  cases spelled with
  | whole areDigits => exact Bool.or_eq_true_iff.mpr (Or.inl (areDigits.areDigits _ member))
  | @pointed whole fraction areDigits =>
      obtain ⟨wholeDigits, fractionDigits⟩ := List.forall_mem_append.mp areDigits.areDigits
      rcases List.mem_append.mp member with inWhole | inPointed
      · exact Bool.or_eq_true_iff.mpr (Or.inl (wholeDigits _ inWhole))
      · rcases List.mem_cons.mp inPointed with rfl | inFraction
        · rfl
        · exact Bool.or_eq_true_iff.mpr (Or.inl (fractionDigits _ inFraction))

/-! ## What is found -/

namespace Mention

variable {text : Text}

private theorem isDigits_takeWhile {digits : Text}
    (taken : text.takeWhile Char.isDigit = digits) (nonempty : digits ≠ []) :
    IsDigits digits :=
  ⟨nonempty, fun _ member => List.mem_takeWhile_imp (taken ▸ member)⟩

theorem spellsMagnitude_of_readMagnitude?
    {magnitude : Text} (read : readMagnitude? text = some magnitude) :
    SpellsMagnitude magnitude := by
  unfold readMagnitude? at read
  split at read
  · split at read
    · cases read
    · rename_i nonempty
      cases read
      exact @SpellsMagnitude.pointed [] _ (isDigits_takeWhile rfl nonempty)
  · cases read
  · rename_i nonempty
    cases read
    refine .pointed ⟨List.append_ne_nil_of_left_ne_nil nonempty _, ?_⟩
    intro character member
    rcases List.mem_append.mp member with inWhole | inFraction
    · exact List.mem_takeWhile_imp inWhole
    · exact List.mem_takeWhile_imp inFraction
  · rename_i nonempty _ _
    cases read
    exact .whole (isDigits_takeWhile rfl nonempty)

theorem spellsExponent_readExponent (text : Text) :
    ∃ parts, SpellsExponent (readExponent text) parts := by
  unfold readExponent
  split
  · exact ⟨_, .none⟩
  · rename_i marker rest
    split
    · rename_i isMarker
      split
      · exact ⟨_, .none⟩
      · rename_i sign digits
        split
        · rename_i isSign
          split
          · exact ⟨_, .none⟩
          · rename_i nonempty
            rcases isSign with rfl | rfl
            · exact ⟨_, .plus isMarker (isDigits_takeWhile rfl nonempty)⟩
            · exact ⟨_, .minus isMarker (isDigits_takeWhile rfl nonempty)⟩
        · split
          · exact ⟨_, .none⟩
          · rename_i nonempty
            exact ⟨_, .unsigned isMarker (isDigits_takeWhile rfl nonempty)⟩
    · exact ⟨_, .none⟩

theorem spellsAmount_of_readNumber?
    {number : Text} (read : readNumber? text = some number) :
    SpellsAmount number := by
  have unsigned {source unsigned : Text} (found : readUnsigned? source = some unsigned) :
      ∃ magnitude exponent parts,
        unsigned = magnitude ++ exponent ∧
          SpellsMagnitude magnitude ∧ SpellsExponent exponent parts := by
    obtain ⟨magnitude, magnitudeRead, rfl⟩ := Option.map_eq_some_iff.mp found
    obtain ⟨parts, spelled⟩ := spellsExponent_readExponent (source.drop magnitude.length)
    exact ⟨_, _, parts, rfl, spellsMagnitude_of_readMagnitude? magnitudeRead, spelled⟩
  unfold readNumber? at read
  split at read
  · obtain ⟨afterMinus, found, rfl⟩ := Option.map_eq_some_iff.mp read
    obtain ⟨magnitude, exponent, parts, rfl, spelledMagnitude, spelledExponent⟩ := unsigned found
    exact .parts .minus spelledMagnitude spelledExponent
  · obtain ⟨magnitude, exponent, parts, rfl, spelledMagnitude, spelledExponent⟩ := unsigned read
    exact .parts .none spelledMagnitude spelledExponent

end Mention

/-! ## What is read -/

namespace Double

private theorem readExponent?_of_splitSign
    {marker : Char} {rest digits : Text} {negative : Bool}
    (isMarker : marker = 'e' ∨ marker = 'E')
    (split : splitSign rest = (negative, digits)) (areDigits : IsDigits digits) :
    ∃ value, readExponent? (marker :: rest) = some value := by
  have allDigits : digits.all Char.isDigit = true := List.all_eq_true.mpr areDigits.areDigits
  simp only [readExponent?, if_pos isMarker, split]
  rw [if_pos ⟨areDigits.nonempty, allDigits⟩]
  exact ⟨_, rfl⟩

theorem exists_readExponent?
    {exponent : Text} {parts : Option (Bool × Text)} (spelled : SpellsExponent exponent parts) :
    ∃ value, readExponent? exponent = some value := by
  cases spelled with
  | none => exact ⟨0, rfl⟩
  | @unsigned _ digits isMarker areDigits =>
      have split := Json.splitSign_digits_append areDigits []
      rw [List.append_nil] at split
      exact readExponent?_of_splitSign isMarker split areDigits
  | plus isMarker areDigits => exact readExponent?_of_splitSign isMarker rfl areDigits
  | minus isMarker areDigits => exact readExponent?_of_splitSign isMarker rfl areDigits

theorem exists_readMagnitude?
    {magnitude exponent : Text} {parts : Option (Bool × Text)}
    (spelledMagnitude : SpellsMagnitude magnitude)
    (spelledExponent : SpellsExponent exponent parts) (negative : Bool) :
    ∃ digits power,
      readMagnitude? negative (magnitude ++ exponent) =
        some (ofDecimal negative digits power) := by
  have stops : Text.StartsOutside Json.isDigitOrPoint exponent := by
    have stopsBefore := Json.startsOutside_exponent_append spelledExponent Text.startsOutside_nil
    rwa [List.append_nil] at stopsBefore
  have noDigit := Json.startsOutside_isDigit_of_isDigitOrPoint stops
  obtain ⟨value, exponentRead⟩ := exists_readExponent? spelledExponent
  unfold readMagnitude? splitDigits
  cases spelledMagnitude with
  | whole areDigits =>
      have noPoint (rest : Text) : exponent ≠ '.' :: rest := by
        rintro rfl
        exact absurd (Text.startsOutside_cons.mp stops) (by decide)
      rw [Text.takeWhile_append_of_startsOutside areDigits.areDigits noDigit,
        Text.dropWhile_append_of_startsOutside areDigits.areDigits noDigit]
      dsimp only
      split
      · exact absurd rfl (noPoint _)
      · rw [if_neg (by simpa using areDigits.nonempty), exponentRead]
        exact ⟨_, _, rfl⟩
  | @pointed whole fraction areDigits =>
      obtain ⟨wholeDigits, fractionDigits⟩ := List.forall_mem_append.mp areDigits.areDigits
      have pointStops : Text.StartsOutside Char.isDigit ('.' :: (fraction ++ exponent)) :=
        Text.startsOutside_cons.mpr (by decide)
      rw [List.append_assoc, List.cons_append,
        Text.takeWhile_append_of_startsOutside wholeDigits pointStops,
        Text.dropWhile_append_of_startsOutside wholeDigits pointStops]
      dsimp only
      split
      · rename_i afterPoint isPoint
        cases isPoint
        rw [Text.takeWhile_append_of_startsOutside fractionDigits noDigit,
          Text.dropWhile_append_of_startsOutside fractionDigits noDigit,
          if_neg areDigits.nonempty, exponentRead]
        exact ⟨_, _, rfl⟩
      · rename_i noPoint
        exact absurd rfl (noPoint _)

theorem ofDecimal_ne_notANumber (negative : Bool) (digits : Nat) (power : Int) :
    ofDecimal negative digits power ≠ .notANumber := by
  have quotient (numerator denominator : Nat) :
      ofQuotient negative numerator denominator ≠ .notANumber := by
    unfold ofQuotient
    dsimp only
    split <;> nofun
  unfold ofDecimal
  dsimp only
  split_ifs
  · nofun
  · nofun
  · exact quotient _ _
  · exact quotient _ _

end Double

/-- The reader takes every number of the grammar, and as a decimal fraction. -/
theorem SpellsAmount.exists_ofText? {number : Text} (spelled : SpellsAmount number) :
    ∃ negative digits power,
      Double.ofText? number = some (Double.ofDecimal negative digits power) := by
  obtain @⟨sign, magnitude, exponent, negative, _, spelledSign, spelledMagnitude,
    spelledExponent⟩ := spelled
  have read := Double.exists_readMagnitude? spelledMagnitude spelledExponent negative
  obtain ⟨first, rest, starts, rfl⟩ := spelledMagnitude.exists_cons
  have signed := Double.ofText?_signed negative starts (rest ++ exponent)
  have sameText :
      sign ++ (first :: rest ++ exponent) =
        if negative then '-' :: first :: (rest ++ exponent) else first :: (rest ++ exponent) := by
    cases spelledSign <;> rfl
  rw [sameText, signed]
  exact ⟨negative, read⟩

theorem spellsAmount_of_mem_mentions
    {text : Text} {mention : Mention} (mentioned : mention ∈ mentions text) :
    SpellsAmount mention.number := by
  obtain ⟨source, _, read⟩ := Mention.exists_read?_of_mem_collectFrom mentioned
  obtain ⟨number, found, rfl⟩ := Option.map_eq_some_iff.mp read
  exact Mention.spellsAmount_of_readNumber? found

end TitleStamp
