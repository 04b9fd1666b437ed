import Mathlib.Data.List.Forall2
import TitleStamp.Proofs.Text.LetterCase

/-!
# Lower case character by character

Lowering a text goes character by character, except that a sigma takes one of its two small forms.
A text without a sigma is the sum of its lowered characters, and an ASCII text is lowered in
place.
-/

namespace TitleStamp

variable {text : Text}

private theorem lowercaseFrom_eq_flatMap (before : Text) (noSigma : 'Σ' ∉ text) :
    lowercaseFrom before text = text.flatMap lowerCharacter := by
  induction text generalizing before with
  | nil => rfl
  | cons character rest inductionHypothesis =>
      obtain ⟨notSigma, laterNoSigma⟩ := not_or.mp (List.mem_cons.not.mp noSigma)
      rw [lowercaseFrom, if_neg (Ne.symm notSigma), inductionHypothesis _ laterNoSigma,
        List.flatMap_cons]

theorem lowercase_eq_flatMap (noSigma : 'Σ' ∉ text) :
    text.lowercase = text.flatMap lowerCharacter :=
  lowercaseFrom_eq_flatMap [] noSigma

theorem sigma_not_mem_of_ascii (ascii : ∀ character ∈ text, character.toNat < 0x80) :
    'Σ' ∉ text := by
  intro member
  exact absurd (ascii 'Σ' member) (by decide)

theorem lowercase_of_ascii (ascii : ∀ character ∈ text, character.toNat < 0x80) :
    text.lowercase = text.map Char.toLower := by
  rw [lowercase_eq_flatMap (sigma_not_mem_of_ascii ascii), List.map_eq_flatMap]
  exact List.flatMap_congr fun character member => if_pos (ascii character member)

/-- Texts that agree in the lower case of each character have the same lower case, if one of them
is ASCII. -/
theorem lowercase_congr_of_ascii
    {other : Text}
    (ascii : ∀ character ∈ text, character.toNat < 0x80)
    (sameLowered : other.map lowerCharacter = text.map lowerCharacter) :
    other.lowercase = text.lowercase := by
  have noSigma : 'Σ' ∉ other := by
    intro member
    have lowered : lowerCharacter 'Σ' ∈ text.map lowerCharacter := by
      rw [← sameLowered]
      exact List.mem_map_of_mem member
    obtain ⟨character, inText, same⟩ := List.mem_map.mp lowered
    have notSigma : lowerCharacter character ≠ lowerCharacter 'Σ' :=
      ascii_induction (fun letter => lowerCharacter letter ≠ lowerCharacter 'Σ')
        (by decide +kernel) (ascii character inText)
    exact notSigma same
  rw [lowercase_eq_flatMap noSigma, lowercase_eq_flatMap (sigma_not_mem_of_ascii ascii),
    List.flatMap_def, List.flatMap_def, sameLowered]

/-- The small letter is a lower case of the character: of a sigma either of the two, of any other
character the only one. -/
def IsLowered (small character : Char) : Prop :=
  if character = 'Σ' then small = 'σ' ∨ small = 'ς' else lowerCharacter character = [small]

/-- If no character has several letters for its lower case, a text is lowered letter by letter. -/
theorem forall₂_lowercaseFrom
    (before : Text)
    (single : ∀ character ∈ text, ∃ small, lowerCharacter character = [small]) :
    List.Forall₂ IsLowered (lowercaseFrom before text) text := by
  induction text generalizing before with
  | nil => exact List.Forall₂.nil
  | cons character rest inductionHypothesis =>
      obtain ⟨⟨small, lower_eq⟩, laterSingle⟩ := List.forall_mem_cons.mp single
      have later := inductionHypothesis (character :: before) laterSingle
      rw [lowercaseFrom]
      split
      · rename_i sigma
        refine List.Forall₂.cons ?_ later
        rw [IsLowered, if_pos sigma]
        split
        · exact Or.inr rfl
        · exact Or.inl rfl
      · rename_i notSigma
        rw [lower_eq]
        refine List.Forall₂.cons ?_ later
        rw [IsLowered, if_neg notSigma, lower_eq]

theorem eq_flatMap_of_forall₂
    {small : Text}
    (noSigma : 'Σ' ∉ text)
    (lowered : List.Forall₂ IsLowered small text) :
    small = text.flatMap lowerCharacter := by
  induction lowered with
  | nil => rfl
  | @cons letter character others rest isLowered _ inductionHypothesis =>
      obtain ⟨notSigma, laterNoSigma⟩ := not_or.mp (List.mem_cons.not.mp noSigma)
      rw [IsLowered, if_neg (Ne.symm notSigma)] at isLowered
      rw [inductionHypothesis laterNoSigma, List.flatMap_cons, isLowered, List.singleton_append]

end TitleStamp
