import Mathlib.Data.List.DropRight
import TitleStamp.Proofs.Text.CaseMapping
import TitleStamp.Proofs.Text.Lowercase
import TitleStamp.Proofs.Text.Runs
import TitleStamp.Text.Blank

/-!
# Trimming and changing case twice

Trimming finds no blanks where it has removed them.  The upper case of a character has no other
upper case, and its lower case no other lower case.
-/

namespace TitleStamp

variable {text : Text}

namespace Text

/-! ## Trimming -/

theorem trimLeft_trimLeft (text : Text) : text.trimLeft.trimLeft = text.trimLeft :=
  List.dropWhile_idempotent ..

theorem trimRight_trimRight (text : Text) : text.trimRight.trimRight = text.trimRight :=
  List.rdropWhile_idempotent ..

theorem trimLeft_trim (text : Text) : text.trim.trimLeft = text.trim := by
  refine dropWhile_of_startsOutside ?_
  have startsOutside := startsOutside_dropWhile isBlank text
  obtain ⟨blanks, split⟩ : text.trim <+: text.trimLeft := List.rdropWhile_prefix ..
  intro character isFirst
  refine startsOutside character ?_
  rw [show text.dropWhile isBlank = text.trim ++ blanks from split.symm]
  exact List.mem_head?_append_of_mem_head? isFirst

theorem trim_trim (text : Text) : text.trim.trim = text.trim := by
  rw [trim, trimLeft_trim, trim, trimRight_trimRight]

/-! ## Changes of case -/

theorem uppercase_uppercase (text : Text) : text.uppercase.uppercase = text.uppercase := by
  have settled : ∀ capital ∈ text.uppercase, upperCharacter capital = [capital] := by
    intro capital member
    obtain ⟨character, _, inUpper⟩ := List.mem_flatMap.mp member
    exact upperCharacter_of_mem_upperCharacter inUpper
  rw [uppercase, List.flatMap_congr settled, List.flatMap_singleton']

end Text

theorem upperCharacter_cases (letter : Char) :
    (∃ capital, upperCharacter letter = [capital]) ∨
    ∃ entry ∈ upperExpansions, upperCharacter letter = entry.2.map Char.ofNat := by
  unfold upperCharacter
  split
  · exact Or.inl ⟨_, rfl⟩
  · split
    · rename_i expansion found
      obtain ⟨before, after, parts, _⟩ := List.lookup_eq_some_iff.mp found
      exact Or.inr ⟨(letter.toNat, expansion), by simp [parts], rfl⟩
    · exact Or.inl ⟨_, rfl⟩

theorem upperCharacter_ne_nil (letter : Char) : upperCharacter letter ≠ [] := by
  have nonempty : ∀ entry ∈ upperExpansions, entry.2 ≠ [] := by decide
  rcases upperCharacter_cases letter with ⟨_, single⟩ | ⟨entry, listed, expanded⟩
  · rw [single]
    exact List.cons_ne_nil _ _
  · rw [expanded]
    exact mt List.map_eq_nil_iff.mp (nonempty entry listed)

theorem Text.capitalized_capitalized (text : Text) :
    text.capitalized.capitalized = text.capitalized := by
  cases text with
  | nil => rfl
  | cons first rest =>
      obtain ⟨capital, more, upper_eq⟩ := List.exists_cons_of_ne_nil (upperCharacter_ne_nil first)
      have settled : upperCharacter capital = [capital] :=
        upperCharacter_of_mem_upperCharacter (upper_eq ▸ List.mem_cons_self)
      rw [Text.capitalized, upper_eq, List.cons_append, Text.capitalized, settled,
        List.singleton_append]

/-- No letter of the text has another lower case. -/
def IsSmall (text : Text) : Prop :=
  ∀ letter ∈ text, lowerCharacter letter = [letter]

theorem isSmall_cons {first : Char} {rest : Text} :
    IsSmall (first :: rest) ↔ lowerCharacter first = [first] ∧ IsSmall rest :=
  List.forall_mem_cons

theorem IsSmall.sigma_not_mem (small : IsSmall text) : 'Σ' ∉ text := by
  intro member
  exact absurd (small 'Σ' member) (by decide +kernel)

theorem IsSmall.flatMap_lowerCharacter (small : IsSmall text) :
    text.flatMap lowerCharacter = text := by
  rw [List.flatMap_congr small, List.flatMap_singleton']

theorem length_flatMap_lowerCharacter
    (single : ∀ letter ∈ text, ∃ small, lowerCharacter letter = [small]) :
    (text.flatMap lowerCharacter).length = text.length := by
  induction text with
  | nil => rfl
  | cons letter rest inductionHypothesis =>
      obtain ⟨⟨small, lower_eq⟩, laterSingle⟩ := List.forall_mem_cons.mp single
      rw [List.flatMap_cons, lower_eq, List.singleton_append, List.length_cons,
        inductionHypothesis laterSingle, List.length_cons]

theorem flatMap_lowerCharacter_eq_iff
    (single : ∀ letter ∈ text, ∃ small, lowerCharacter letter = [small]) :
    text.flatMap lowerCharacter = text ↔ IsSmall text := by
  refine ⟨fun same => ?_, IsSmall.flatMap_lowerCharacter⟩
  induction text with
  | nil => exact fun _ member => nomatch member
  | cons letter rest inductionHypothesis =>
      obtain ⟨⟨small, lower_eq⟩, laterSingle⟩ := List.forall_mem_cons.mp single
      rw [List.flatMap_cons, lower_eq, List.singleton_append] at same
      obtain ⟨rfl, later⟩ := List.cons.inj same
      exact List.forall_mem_cons.mpr ⟨lower_eq, inductionHypothesis laterSingle later⟩

theorem isSmall_lowercaseFrom (before text : Text) : IsSmall (lowercaseFrom before text) := by
  induction text generalizing before with
  | nil => exact fun _ member => nomatch member
  | cons character rest inductionHypothesis =>
      rw [lowercaseFrom]
      refine List.forall_mem_append.mpr ⟨?_, inductionHypothesis _⟩
      split
      · have settled : ∀ letter ∈ ['ς', 'σ'], lowerCharacter letter = [letter] := by
          decide +kernel
        intro letter member
        refine settled letter ?_
        rw [List.mem_singleton.mp member]
        split <;> simp
      · exact fun _ => lowerCharacter_of_mem_lowerCharacter

theorem isSmall_lowercase (text : Text) : IsSmall text.lowercase :=
  isSmall_lowercaseFrom [] text

theorem Text.lowercase_lowercase (text : Text) : text.lowercase.lowercase = text.lowercase := by
  have small := isSmall_lowercase text
  rw [lowercase_eq_flatMap small.sigma_not_mem, small.flatMap_lowerCharacter]

theorem eq_of_isLowered_of_isSmall
    {again : Text}
    (small : IsSmall text)
    (lowered : List.Forall₂ IsLowered again text) :
    again = text := by
  rw [eq_flatMap_of_forall₂ small.sigma_not_mem lowered, small.flatMap_lowerCharacter]

/-! ## Capitals that are lowered again -/

namespace HasCapital

variable {letter capital small : Char} {more rest : Text}

theorem single (hasCapital : HasCapital letter capital small more) :
    ∀ other ∈ more, ∃ lowered, lowerCharacter other = [lowered] :=
  fun other member => (hasCapital.more_inWord other member).imp fun _ => And.left

theorem lowered_inWord (hasCapital : HasCapital letter capital small more) :
    ∀ other ∈ more.flatMap lowerCharacter, Headline.isHeadlineCharacter other = true := by
  intro other member
  obtain ⟨source, inMore, inLower⟩ := List.mem_flatMap.mp member
  obtain ⟨lowered, lower_eq, inWord⟩ := hasCapital.more_inWord source inMore
  rw [lower_eq] at inLower
  rwa [List.mem_singleton.mp inLower]

/-- Only the capital in front may be a sigma, so that the letters behind it are lowered one by
one. -/
theorem exists_again
    {again : Text}
    (hasCapital : HasCapital letter capital small more)
    (smallRest : IsSmall rest)
    (lowered : List.Forall₂ IsLowered again (capital :: (more ++ rest))) :
    ∃ form, IsLowered form capital ∧ again = form :: (more.flatMap lowerCharacter ++ rest) := by
  have noSigma : 'Σ' ∉ more ++ rest :=
    fun member => (List.mem_append.mp member).elim hasCapital.sigma_not_mem smallRest.sigma_not_mem
  obtain ⟨form, others, isLowered, loweredOthers, rfl⟩ := List.forall₂_cons_right_iff.mp lowered
  refine ⟨form, isLowered, ?_⟩
  rw [eq_flatMap_of_forall₂ noSigma loweredOthers, List.flatMap_append,
    smallRest.flatMap_lowerCharacter]

end HasCapital

end TitleStamp
