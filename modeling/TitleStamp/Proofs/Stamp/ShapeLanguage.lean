import TitleStamp.Proofs.Stamp.Shape
import TitleStamp.Proofs.Text.Replace

/-!
# The language of a shape

The shape of a text can be written in one pass or by two rewrites of the escaped text: every digit
becomes a class of digits, and then every run of such classes becomes one.  The brackets of the
text are escaped and its digits are gone by the second rewrite, so that the classes it finds are
those that the first one inserted, also where the text itself spells a class.  As an expression the
shape accepts exactly the texts with the skeleton of the text it is made from.
-/

namespace TitleStamp

/-- Finds one digit. -/
def anyDigit : Finder
  | [] => none
  | character :: rest => if character.isDigit then some rest else none

/-- What follows the classes of digits at the start of a text. -/
def afterDigitClasses : Text → Text
  | '[' :: '0' :: '-' :: '9' :: ']' :: '+' :: rest => afterDigitClasses rest
  | text => text

/-- Finds two or more classes of digits, one after another. -/
def repeatedDigitClasses : Finder := fun text => do
  let afterFirst ← Text.after? Regex.digitsText text
  let afterSecond ← Text.after? Regex.digitsText afterFirst
  return afterDigitClasses afterSecond

/-- The escaped text with a class of digits for every digit. -/
def generalized (text : Text) : Text :=
  Text.replaceAll anyDigit Regex.digitsText (Regex.escape text)

section Generalized

variable {character : Char} {rest : Text}

theorem generalized_cons_of_digit (digit : character.isDigit = true) :
    generalized (character :: rest) = Regex.digitsText ++ generalized rest := by
  have plain : Regex.isSpecial character = false :=
    Regex.isSpecial_eq_false (by decide) digit
  have written : Regex.escapeCharacter character = [character] := by
    rw [Regex.escapeCharacter, plain]
    rfl
  have found : anyDigit ([character] ++ Regex.escape rest) = some (Regex.escape rest) :=
    if_pos digit
  rw [generalized, Regex.escape_cons, written,
    Text.replaceAll_of_find (List.cons_ne_nil _ _) found, ← generalized]

theorem generalized_cons_of_not_digit (notDigit : character.isDigit = false) :
    generalized (character :: rest) =
      Regex.escapeCharacter character ++ generalized rest := by
  have absent :
      ∀ other ∈ Regex.escapeCharacter character, other.isDigit = false := by
    intro other member
    unfold Regex.escapeCharacter at member
    split at member
    · rcases List.mem_pair.mp member with rfl | rfl
      · decide
      · exact notDigit
    · rwa [List.mem_singleton.mp member]
  have missed :
      anyDigit.Misses (Regex.escapeCharacter character) (Regex.escape rest) := by
    intro skipped remaining split nonempty
    cases remaining with
    | nil => exact absurd rfl nonempty
    | cons first others =>
        have outside : first.isDigit = false := absent first (by rw [split]; simp)
        simp [anyDigit, outside]
  rw [generalized, Regex.escape_cons, Text.replaceAll_append missed, ← generalized]

/-- A generalized text starts with a class, with an escape or with a character that is not
special and no digit. -/
theorem head?_generalized (text : Text) :
    ∀ first ∈ (generalized text).head?,
      first.isDigit = false ∧ (Text.StartsOutside Char.isDigit text → first ≠ '[') := by
  intro first isFirst
  cases text with
  | nil => cases isFirst
  | cons character rest =>
      cases digit : character.isDigit with
      | true =>
          rw [generalized_cons_of_digit digit] at isFirst
          cases isFirst
          refine ⟨by decide, fun stops => ?_⟩
          rw [Text.startsOutside_cons.mp stops] at digit
          cases digit
      | false =>
          rw [generalized_cons_of_not_digit digit, List.head?_append,
            Regex.head?_escapeCharacter, Option.some_or, Option.mem_some_iff] at isFirst
          split at isFirst
          · subst isFirst
            exact ⟨by decide, fun _ => by decide⟩
          · rename_i notSpecial
            subst isFirst
            refine ⟨digit, ?_⟩
            rintro _ rfl
            exact notSpecial (by decide)

end Generalized

section Classes

variable {text : Text}

theorem head?_of_repeatedDigitClasses
    {rest : Text}
    (found : repeatedDigitClasses text = some rest) :
    text.head? = some '[' := by
  obtain ⟨afterFirst, first, _⟩ := Option.bind_eq_some_iff.mp found
  rw [Text.after?_eq_some_iff.mp first]
  rfl

theorem afterDigitClasses_eq_self
    (missed : text.head? ≠ some '[') :
    afterDigitClasses text = text := by
  unfold afterDigitClasses
  split
  · exact absurd rfl missed
  · rfl

theorem afterDigitClasses_class (rest : Text) :
    afterDigitClasses (Regex.digitsText ++ rest) = afterDigitClasses rest :=
  rfl

theorem afterDigitClasses_suffix (text : Text) : afterDigitClasses text <:+ text := by
  induction text using afterDigitClasses.induct with
  | case1 rest inductionHypothesis =>
      exact inductionHypothesis.trans (List.suffix_append Regex.digitsText rest)
  | case2 text other =>
      rw [afterDigitClasses]
      exact other

/-- Where no digit follows, one class is passed over. -/
theorem repeatedDigitClasses_misses_class
    (stops : Text.StartsOutside Char.isDigit text) :
    repeatedDigitClasses.Misses Regex.digitsText (generalized text) := by
  have noBracket : (generalized text).head? ≠ some '[' :=
    fun isFirst => (head?_generalized text '[' isFirst).2 stops rfl
  have noSecond : Text.after? Regex.digitsText (generalized text) = none :=
    Text.after?_eq_none_of_head?_ne noBracket
  have here : repeatedDigitClasses (Regex.digitsText ++ generalized text) = none := by
    rw [repeatedDigitClasses, Text.after?_append]
    simp [noSecond]
  exact Finder.misses_cons_iff.mpr
    ⟨here, Finder.misses_of_not_mem head?_of_repeatedDigitClasses (by decide)⟩

/-- An escaped character is passed over, also an escaped bracket. -/
theorem repeatedDigitClasses_misses_escape
    {character : Char} :
    repeatedDigitClasses.Misses (Regex.escapeCharacter character) (generalized text) := by
  by_cases bracket : character = '['
  · subst bracket
    have parts : Regex.digitsText = '[' :: '0' :: "-9]+".toList := rfl
    have noZero : (generalized text).head? ≠ some '0' :=
      fun isFirst => absurd (head?_generalized text '0' isFirst).1 (by decide)
    have noClass : Text.after? Regex.digitsText ('[' :: generalized text) = none := by
      rw [parts, Text.after?, if_pos rfl]
      exact Text.after?_eq_none_of_head?_ne noZero
    have atBracket : repeatedDigitClasses ('[' :: generalized text) = none := by
      rw [repeatedDigitClasses, noClass]
      rfl
    change repeatedDigitClasses.Misses ['\\', '['] (generalized text)
    exact Finder.misses_cons_iff.mpr
      ⟨rfl, Finder.misses_cons_iff.mpr ⟨atBracket, Finder.misses_nil⟩⟩
  · have absent : '[' ∉ Regex.escapeCharacter character := by
      unfold Regex.escapeCharacter
      split <;> simp [Ne.symm bracket]
    exact Finder.misses_of_not_mem head?_of_repeatedDigitClasses absent

/-- A run of classes becomes one class, whatever its length is. -/
theorem replaceAll_class (rest : Text) :
    Text.replaceAll repeatedDigitClasses Regex.digitsText (Regex.digitsText ++ generalized rest) =
      Regex.digitsText ++
        Text.replaceAll repeatedDigitClasses Regex.digitsText
          (afterDigitClasses (generalized rest)) := by
  by_cases stops : Text.StartsOutside Char.isDigit rest
  · have noBracket : (generalized rest).head? ≠ some '[' :=
      fun isFirst => (head?_generalized rest '[' isFirst).2 stops rfl
    rw [Text.replaceAll_append (repeatedDigitClasses_misses_class stops),
      afterDigitClasses_eq_self noBracket]
  · -- Behind another digit the run of classes is replaced as a whole.
    obtain ⟨skipped, split⟩ := afterDigitClasses_suffix (generalized rest)
    have found :
        repeatedDigitClasses
            ((Regex.digitsText ++ skipped) ++ afterDigitClasses (generalized rest)) =
          some (afterDigitClasses (generalized rest)) := by
      rw [List.append_assoc, split]
      cases rest with
      | nil => exact absurd Text.startsOutside_nil stops
      | cons second others =>
          have secondDigit : second.isDigit = true := by
            simpa [Text.startsOutside_cons] using stops
          rw [generalized_cons_of_digit secondDigit, afterDigitClasses_class]
          rfl
    have nonempty : Regex.digitsText ++ skipped ≠ [] :=
      List.append_ne_nil_of_left_ne_nil (by decide) skipped
    conv => lhs; rw [← split, ← List.append_assoc]
    exact Text.replaceAll_of_find nonempty found

/-- The second rewrite of a generalized text gives its shape, also behind a digit. -/
theorem replaceAll_repeatedDigitClasses (text : Text) :
    Text.replaceAll repeatedDigitClasses Regex.digitsText (generalized text) =
        shapeFrom false text ∧
      Text.replaceAll repeatedDigitClasses Regex.digitsText
          (afterDigitClasses (generalized text)) =
        shapeFrom true text := by
  induction text with
  | nil => exact ⟨rfl, rfl⟩
  | cons character rest inductionHypothesis =>
      obtain ⟨fresh, running⟩ := inductionHypothesis
      cases digit : character.isDigit with
      | true =>
          have continued : shapeFrom true (character :: rest) = shapeFrom true rest := by
            rw [shapeFrom, if_pos digit]
            rfl
          have started :
              shapeFrom false (character :: rest) =
                Regex.digitsText ++ shapeFrom true rest := by
            rw [shapeFrom, if_pos digit]
            rfl
          rw [generalized_cons_of_digit digit, replaceAll_class, afterDigitClasses_class, running,
            started, continued]
          exact ⟨rfl, rfl⟩
      | false =>
          have written (afterDigit : Bool) :
              shapeFrom afterDigit (character :: rest) =
                Regex.escapeCharacter character ++ shapeFrom false rest := by
            rw [shapeFrom, digit]
            rfl
          have stops : Text.StartsOutside Char.isDigit (character :: rest) :=
            Text.startsOutside_cons.mpr digit
          have noBracket : (generalized (character :: rest)).head? ≠ some '[' :=
            fun isFirst => (head?_generalized _ '[' isFirst).2 stops rfl
          rw [afterDigitClasses_eq_self noBracket, generalized_cons_of_not_digit digit,
            Text.replaceAll_append repeatedDigitClasses_misses_escape, fresh, written, written]
          exact ⟨rfl, rfl⟩

end Classes

/-- The shape accepts the texts with the skeleton of the text it is made from. -/
theorem accepts_shapeRegex_iff {sample text : Text} :
    (∃ captured, Regex.Accepts (shapeRegex sample) text captured) ↔
      skeleton text = skeleton sample := by
  constructor
  · rintro ⟨captured, accepted⟩
    exact skeleton_eq_of_accepts accepted
  · intro same
    have found := matchAt_shapeRegex text Text.startsOutside_nil
    obtain ⟨matched, split, accepted⟩ := Regex.accepts_of_matchAt found
    rw [List.append_nil, List.append_nil] at split
    have sameRegex : shapeRegex sample = shapeRegex text := by
      rw [shapeRegex, shapeRegex, same]
    rw [sameRegex]
    exact ⟨none, split ▸ accepted⟩

/-- A search for the shape finds the whole of a text exactly if the text has the skeleton. -/
theorem search_shapeRegex_whole_iff {sample text : Text} :
    (shapeRegex sample).search text = some ⟨[], text, none, []⟩ ↔
      skeleton text = skeleton sample := by
  constructor
  · intro searched
    exact skeleton_eq_of_accepts (Regex.accepts_of_search searched).2
  · intro same
    have found :
        (shapeRegex text).search ([] ++ (text ++ [])) = some ⟨[], text, none, []⟩ :=
      search_shapeRegex Text.startsOutside_nil (noEarlierLookAlike_zero _ text)
    have sameRegex : shapeRegex sample = shapeRegex text := by
      rw [shapeRegex, shapeRegex, same]
    rw [List.nil_append, List.append_nil] at found
    rwa [sameRegex]

/-- The two rewrites of the escaped text give its shape, and the shape is read as an expression
that matches the whole of exactly the texts with the same skeleton. -/
theorem shape_matches_whole_iff (sample text : Text) :
    shape sample =
        Text.replaceAll repeatedDigitClasses Regex.digitsText
          (Text.replaceAll anyDigit Regex.digitsText (Regex.escape sample)) ∧
      ∃ regex : Regex, Regex.ofText? (shape sample) = some regex ∧
        ((∃ captured, regex.Accepts text captured) ↔ skeleton text = skeleton sample) ∧
        (regex.search text = some ⟨[], text, none, []⟩ ↔
          skeleton text = skeleton sample) := by
  refine ⟨(replaceAll_repeatedDigitClasses sample).1.symm, shapeRegex sample, ?_,
    accepts_shapeRegex_iff, search_shapeRegex_whole_iff⟩
  rw [shape_eq_written, Regex.ofText?_written]

end TitleStamp
