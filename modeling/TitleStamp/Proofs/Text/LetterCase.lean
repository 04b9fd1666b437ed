import TitleStamp.Text.Blank
import TitleStamp.Text.Case.Lower
import TitleStamp.Text.Letter

/-!
# The case of ASCII letters

Lowering the ASCII letters of a text keeps digits, blanks, punctuation and all other characters.
The full lower case of the text stays the same: the small form of a sigma depends on the letters
around it, but not on their case.
-/

namespace TitleStamp

/-- The letters that have a lower case in ASCII. -/
def capitals : Text :=
  "ABCDEFGHIJKLMNOPQRSTUVWXYZ".toList

theorem ascii_induction
    (property : Char → Prop) {character : Char}
    (table : ∀ codePoint < 0x80, property (Char.ofNat codePoint))
    (ascii : character.toNat < 0x80) :
    property character := by
  have holds := table character.toNat ascii
  rwa [Char.ofNat_toNat] at holds

theorem toLower_eq_self_or_mem_capitals (character : Char) :
    character.toLower = character ∨ character ∈ capitals := by
  by_cases ascii : character.toNat < 0x80
  · exact ascii_induction (fun other => other.toLower = other ∨ other ∈ capitals) (by decide) ascii
  · have notUpper : ¬(character.val ≥ 'A'.val ∧ character.val ≤ 'Z'.val) := by
      rintro ⟨_, below⟩
      exact ascii (Nat.lt_of_le_of_lt (UInt32.le_iff_toNat_le.mp below) (by decide))
    exact Or.inl (dif_neg notUpper)

/-- What holds between every character and itself and between the two cases of a letter holds
between a lowered character and the character. -/
theorem toLower_induction
    (relation : Char → Char → Prop)
    (self : ∀ character, relation character character)
    (capital : ∀ character ∈ capitals, relation character.toLower character)
    (character : Char) :
    relation character.toLower character := by
  rcases toLower_eq_self_or_mem_capitals character with unchanged | isCapital
  · rw [unchanged]
    exact self character
  · exact capital character isCapital

@[simp]
theorem isDigit_toLower (character : Char) : character.toLower.isDigit = character.isDigit :=
  toLower_induction (·.isDigit = ·.isDigit) (fun _ => rfl) (by decide) character

theorem toLower_of_isDigit {character : Char} :
    character.isDigit = true → character.toLower = character :=
  toLower_induction (fun lowered letter => letter.isDigit = true → lowered = letter)
    (fun _ _ => rfl) (by decide) character

@[simp]
theorem isBlank_toLower (character : Char) : isBlank character.toLower = isBlank character :=
  toLower_induction (isBlank · = isBlank ·) (fun _ => rfl) (by decide) character

theorem toLower_of_isBlank {character : Char} :
    isBlank character = true → character.toLower = character :=
  toLower_induction (fun lowered letter => isBlank letter = true → lowered = letter)
    (fun _ _ => rfl) (by decide) character

@[simp]
theorem isLetterUpToCase_toLower (character : Char) :
    isLetterUpToCase character.toLower = isLetterUpToCase character :=
  toLower_induction (isLetterUpToCase · = isLetterUpToCase ·) (fun _ => rfl) (by decide) character

private theorem isCased_toLower (character : Char) :
    isCased character.toLower = isCased character :=
  toLower_induction (isCased · = isCased ·) (fun _ => rfl) (by decide) character

private theorem isCaseIgnorable_toLower (character : Char) :
    isCaseIgnorable character.toLower = isCaseIgnorable character :=
  toLower_induction (isCaseIgnorable · = isCaseIgnorable ·) (fun _ => rfl) (by decide +kernel)
    character

private theorem lowerCharacter_toLower (character : Char) :
    lowerCharacter character.toLower = lowerCharacter character :=
  toLower_induction (lowerCharacter · = lowerCharacter ·) (fun _ => rfl) (by decide) character

/-- A character that is no letter of ASCII is lowered from nothing but itself. -/
theorem toLower_eq_iff
    {mark : Char}
    (apart : ∀ character ∈ capitals, character.toLower ≠ mark ∧ character ≠ mark)
    (character : Char) :
    character.toLower = mark ↔ character = mark :=
  toLower_induction (· = mark ↔ · = mark) (fun _ => Iff.rfl)
    (fun letter isCapital => iff_of_false (apart letter isCapital).1 (apart letter isCapital).2)
    character

theorem toLower_toLower (character : Char) : character.toLower.toLower = character.toLower := by
  rcases toLower_eq_self_or_mem_capitals character with unchanged | isCapital
  · rw [unchanged, unchanged]
  · have once : ∀ letter ∈ capitals, letter.toLower.toLower = letter.toLower := by decide
    exact once character isCapital

namespace Text

/-- Two texts that differ at most in the case of ASCII letters. -/
def SameUpToCase (left right : Text) : Prop :=
  left.map Char.toLower = right.map Char.toLower

instance (left right : Text) : Decidable (SameUpToCase left right) :=
  inferInstanceAs (Decidable (left.map Char.toLower = right.map Char.toLower))

variable {inClass : Char → Bool}

theorem takeWhile_map_toLower
    (invariant : ∀ character, inClass character.toLower = inClass character) (text : Text) :
    (text.map Char.toLower).takeWhile inClass = (text.takeWhile inClass).map Char.toLower := by
  rw [List.takeWhile_map, show inClass ∘ Char.toLower = inClass from funext invariant]

theorem dropWhile_map_toLower
    (invariant : ∀ character, inClass character.toLower = inClass character) (text : Text) :
    (text.map Char.toLower).dropWhile inClass = (text.dropWhile inClass).map Char.toLower := by
  rw [List.dropWhile_map, show inClass ∘ Char.toLower = inClass from funext invariant]

theorem map_toLower_eq_self
    {text : Text} (unchanged : ∀ character ∈ text, character.toLower = character) :
    text.map Char.toLower = text := by
  rw [List.map_congr_left (g := id) unchanged, List.map_id]

end Text

private theorem startsCased_map_toLower (text : Text) :
    startsCased (text.map Char.toLower) = startsCased text := by
  unfold startsCased
  rw [Text.dropWhile_map_toLower isCaseIgnorable_toLower]
  cases text.dropWhile isCaseIgnorable with
  | nil => rfl
  | cons character rest => exact isCased_toLower character

private theorem lowercaseFrom_map_toLower (before text : Text) :
    lowercaseFrom (before.map Char.toLower) (text.map Char.toLower) =
      lowercaseFrom before text := by
  have isSigma (character : Char) : character.toLower = 'Σ' ↔ character = 'Σ' :=
    toLower_eq_iff (by decide) character
  induction text generalizing before with
  | nil => rfl
  | cons character rest inductionHypothesis =>
      rw [List.map_cons, lowercaseFrom, lowercaseFrom, ← List.map_cons, inductionHypothesis,
        lowerCharacter_toLower, endsWord, endsWord, startsCased_map_toLower,
        startsCased_map_toLower]
      simp only [isSigma]

/-- The lower case of a text does not depend on the case of its ASCII letters. -/
theorem lowercase_map_toLower (text : Text) :
    Text.lowercase (text.map Char.toLower) = text.lowercase :=
  lowercaseFrom_map_toLower [] text

end TitleStamp
