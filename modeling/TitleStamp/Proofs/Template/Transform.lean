import Mathlib.Data.List.SplitBy
import TitleStamp.Proofs.Text.LetterCase
import TitleStamp.Proofs.Text.Runs
import TitleStamp.Template.Transform

/-!
# Transforms add no punctuation

Trimming only removes characters, and a change of case only puts letters and accents into a text.
So a digit, a blank or a punctuation mark of a transformed text was in the text before.
-/

namespace TitleStamp

/-- Whether a character comes before the letters of ASCII.  The null character does not count. -/
def IsMark (character : Char) : Prop :=
  0 < character.toNat ∧ character.toNat < 0x41

variable {mark : Char}

private theorem eq_of_ofNat_eq_mark
    {codePoint : Nat}
    (isMark : IsMark mark)
    (same : Char.ofNat codePoint = mark) :
    codePoint = mark.toNat := by
  by_cases valid : codePoint.isValidChar
  · rw [← same, Char.ofNat, dif_pos valid]
    rfl
  · have null : mark.toNat = 0 := by
      rw [← same, Char.ofNat, dif_neg valid]
      rfl
    have positive := isMark.1
    omega

private theorem eq_of_apply_eq_mark
    {runs : List CaseRun} {character : Char}
    (isMark : IsMark mark)
    (letters : ∀ run ∈ runs, 0x41 ≤ run.first + run.distance)
    (same : CaseRun.apply runs character = mark) :
    character = mark := by
  unfold CaseRun.apply at same
  split at same
  · rename_i run found
    have target := eq_of_ofNat_eq_mark isMark same
    have letter := letters run (List.mem_of_find?_eq_some found)
    have inside := List.find?_some found
    simp only [CaseRun.contains, Bool.and_eq_true, decide_eq_true_eq] at inside
    have small := isMark.2
    omega
  · exact same

theorem mem_upperCharacter
    {character : Char}
    (isMark : IsMark mark)
    (member : mark ∈ upperCharacter character) :
    character = mark := by
  unfold upperCharacter at member
  split at member
  · rename_i ascii
    have unchanged : character.toUpper.toNat < 0x41 → character = character.toUpper :=
      ascii_induction (fun other => other.toUpper.toNat < 0x41 → other = other.toUpper)
        (by decide) ascii
    rw [← List.mem_singleton.mp member] at unchanged
    exact unchanged isMark.2
  · split at member
    · rename_i expansion found
      have letters : ∀ entry ∈ upperExpansions, ∀ codePoint ∈ entry.2, 0x41 ≤ codePoint := by
        decide +kernel
      obtain ⟨before, after, parts, _⟩ := List.lookup_eq_some_iff.mp found
      obtain ⟨codePoint, inExpansion, same⟩ := List.mem_map.mp member
      have listed : (character.toNat, expansion) ∈ upperExpansions := by
        rw [parts]
        simp
      have letter := letters _ listed codePoint inExpansion
      have target := eq_of_ofNat_eq_mark isMark same
      have small := isMark.2
      omega
    · exact eq_of_apply_eq_mark isMark (by decide +kernel) (List.mem_singleton.mp member).symm

theorem mem_lowerCharacter
    {character : Char}
    (isMark : IsMark mark)
    (member : mark ∈ lowerCharacter character) :
    character = mark := by
  unfold lowerCharacter at member
  split at member
  · rename_i ascii
    have unchanged : character.toLower.toNat < 0x41 → character = character.toLower :=
      ascii_induction (fun other => other.toLower.toNat < 0x41 → other = other.toLower)
        (by decide) ascii
    rw [← List.mem_singleton.mp member] at unchanged
    exact unchanged isMark.2
  · split at member
    · have letters : ∀ letter ∈ ['i', '\u0307'], 0x41 ≤ letter.toNat := by
        decide
      have letter := letters mark member
      have small := isMark.2
      omega
    · exact eq_of_apply_eq_mark isMark (by decide +kernel) (List.mem_singleton.mp member).symm

theorem mem_uppercase
    {text : Text}
    (isMark : IsMark mark)
    (member : mark ∈ text.uppercase) :
    mark ∈ text := by
  obtain ⟨character, inText, inUpper⟩ := List.mem_flatMap.mp member
  rwa [← mem_upperCharacter isMark inUpper]

theorem mem_capitalized
    {text : Text}
    (isMark : IsMark mark)
    (member : mark ∈ text.capitalized) :
    mark ∈ text := by
  cases text with
  | nil => exact member
  | cons first rest =>
      rcases List.mem_append.mp member with inFirst | inRest
      · rw [mem_upperCharacter isMark inFirst]
        exact List.mem_cons_self
      · exact List.mem_cons_of_mem _ inRest

private theorem mem_lowercaseFrom
    {before text : Text}
    (isMark : IsMark mark)
    (member : mark ∈ lowercaseFrom before text) :
    mark ∈ text := by
  induction text generalizing before with
  | nil => exact member
  | cons character rest inductionHypothesis =>
      rcases List.mem_append.mp member with inFirst | inRest
      · split at inFirst
        · have letters : ∀ letter ∈ ['ς', 'σ'], 0x41 ≤ letter.toNat := by
            decide
          have small := isMark.2
          have letter : 0x41 ≤ mark.toNat := by
            rw [List.mem_singleton.mp inFirst]
            split <;> decide
          omega
        · rw [mem_lowerCharacter isMark inFirst]
          exact List.mem_cons_self
      · exact List.mem_cons_of_mem _ (inductionHypothesis inRest)

theorem mem_lowercase
    {text : Text}
    (isMark : IsMark mark)
    (member : mark ∈ text.lowercase) :
    mark ∈ text :=
  mem_lowercaseFrom isMark member

theorem Text.trimLeft_subset (text : Text) : text.trimLeft ⊆ text :=
  (List.dropWhile_sublist _).subset

theorem Text.trimRight_subset (text : Text) : text.trimRight ⊆ text := by
  intro character member
  have kept := (List.dropWhile_sublist _).subset (List.mem_reverse.mp member)
  exact List.mem_reverse.mp kept

theorem Text.trim_subset (text : Text) : text.trim ⊆ text :=
  List.Subset.trans (Text.trimRight_subset _) (Text.trimLeft_subset _)

namespace Headline

theorem mem_castWord
    {forced : Bool} {word : Text}
    (isMark : IsMark mark)
    (member : mark ∈ castWord forced word) :
    mark ∈ word := by
  unfold castWord at member
  split at member
  · rename_i special found
    have letters :
        ∀ word ∈ specialWords, ∀ character ∈ word.toList, 0x41 ≤ character.toNat := by
      decide
    have letter := letters special (List.mem_of_find?_eq_some found) mark member
    have small := isMark.2
    omega
  · split at member
    · exact member
    · exact mem_capitalized isMark member

theorem mem_castRuns
    {wordBefore : Bool} {gap : Text} {runs : List Text}
    (isMark : IsMark mark)
    (member : mark ∈ castRuns wordBefore gap runs) :
    mark ∈ runs.flatten := by
  induction runs generalizing wordBefore gap with
  | nil => exact member
  | cons run rest inductionHypothesis =>
      rw [List.flatten_cons, List.mem_append]
      unfold castRuns at member
      split at member
      · rcases List.mem_append.mp member with inWord | inRest
        · exact Or.inl (mem_castWord isMark inWord)
        · exact Or.inr (inductionHypothesis inRest)
      · rcases List.mem_append.mp member with inRun | inRest
        · exact Or.inl inRun
        · exact Or.inr (inductionHypothesis inRest)

theorem mem_cast
    {text : Text}
    (isMark : IsMark mark)
    (member : mark ∈ cast text) :
    mark ∈ text := by
  have inRuns := mem_castRuns isMark member
  rw [runs, List.flatten_splitBy] at inRuns
  exact mem_lowercase isMark inRuns

end Headline

/-- A transform adds no digit, blank or punctuation mark. -/
theorem Transform.mem_of_mem_apply
    {transform : Transform} {text : Text}
    (isMark : IsMark mark)
    (member : mark ∈ transform.apply text) :
    mark ∈ text := by
  cases transform with
  | title => exact Headline.mem_cast isMark member
  | capitalize => exact mem_capitalized isMark member
  | trim => exact Text.trim_subset text member
  | trimLeft => exact Text.trimLeft_subset text member
  | trimRight => exact Text.trimRight_subset text member
  | upper => exact mem_uppercase isMark member
  | lower => exact mem_lowercase isMark member

end TitleStamp
