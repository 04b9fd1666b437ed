import Mathlib.Data.List.Forall2
import TitleStamp.Proofs.Duration.Mentions
import TitleStamp.Proofs.Text.LetterCase

/-!
# Mentions in either case

Lowering the ASCII letters of a text lowers them in its mentions and changes nothing else: every
reader looks at classes of characters that do not depend on case, at punctuation, or at the marker
of an exponent in both its cases.  So two texts that differ in the case of such letters mention the
same durations.
-/

namespace TitleStamp

open Text (takeWhile_map_toLower dropWhile_map_toLower map_toLower_eq_self)

private theorem isExponentMarker_toLower (character : Char) :
    character.toLower = 'e' ∨ character.toLower = 'E' ↔ character = 'e' ∨ character = 'E' :=
  toLower_induction
    (fun lowered letter => lowered = 'e' ∨ lowered = 'E' ↔ letter = 'e' ∨ letter = 'E')
    (fun _ => Iff.rfl) (by decide) character

private theorem isSign_toLower (character : Char) :
    character.toLower = '+' ∨ character.toLower = '-' ↔ character = '+' ∨ character = '-' :=
  or_congr (toLower_eq_iff (by decide) character) (toLower_eq_iff (by decide) character)

private theorem head?_of_map_toLower
    {mark : Char} {text : Text}
    (apart : ∀ character ∈ capitals, character.toLower ≠ mark ∧ character ≠ mark)
    (isFirst : (text.map Char.toLower).head? = some mark) :
    text.head? = some mark := by
  rw [List.head?_map] at isFirst
  obtain ⟨first, found, lower⟩ := Option.map_eq_some_iff.mp isFirst
  rwa [(toLower_eq_iff apart first).mp lower] at found

theorem dropSeparators_map_toLower (text : Text) :
    dropSeparators (text.map Char.toLower) = (dropSeparators text).map Char.toLower := by
  have isSeparator (character : Char) :
      character.toLower = ',' ∨ character.toLower = '_' ↔ character = ',' ∨ character = '_' :=
    or_congr (toLower_eq_iff (by decide) character) (toLower_eq_iff (by decide) character)
  fun_induction dropSeparators text with
  | case1 left separator right rest separated inductionHypothesis =>
      simp only [List.map_cons, dropSeparators, isDigit_toLower, isSeparator, if_pos separated,
        inductionHypothesis]
  | case2 left separator right rest notSeparated inductionHypothesis =>
      simp only [List.map_cons, dropSeparators, isDigit_toLower, isSeparator, if_neg notSeparated]
      exact congrArg _ inductionHypothesis
  | case3 text short =>
      rw [dropSeparators]
      intro left separator right rest isMap
      obtain ⟨first, others, rfl, _, isOthers⟩ := List.map_eq_cons_iff.mp isMap
      obtain ⟨second, others, rfl, _, isOthers⟩ := List.map_eq_cons_iff.mp isOthers
      obtain ⟨third, others, rfl, _, _⟩ := List.map_eq_cons_iff.mp isOthers
      exact short first second third others rfl

namespace Mention

/-- The mention with its ASCII letters in lower case. -/
def lowered (mention : Mention) : Mention :=
  ⟨mention.number.map Char.toLower, mention.blanks, mention.word.map Char.toLower⟩

theorem readMagnitude?_map_toLower (text : Text) :
    readMagnitude? (text.map Char.toLower) = (readMagnitude? text).map (List.map Char.toLower) := by
  have whole := takeWhile_map_toLower isDigit_toLower text
  have afterWhole := dropWhile_map_toLower isDigit_toLower text
  by_cases isPoint : (text.dropWhile Char.isDigit).head? = some '.'
  · obtain ⟨rest, split⟩ := List.head?_eq_some_iff.mp isPoint
    rw [split, List.map_cons, show '.'.toLower = '.' from rfl] at afterWhole
    rw [readMagnitude?_of_point split, readMagnitude?_of_point afterWhole, whole,
      takeWhile_map_toLower isDigit_toLower]
    simp only [List.map_eq_nil_iff]
    split
    · rfl
    · rw [Option.map_some, List.map_append]
      rfl
  · have lowerNoPoint : ((text.map Char.toLower).dropWhile Char.isDigit).head? ≠ some '.' := by
      rw [afterWhole]
      exact fun lower => isPoint (head?_of_map_toLower (by decide) lower)
    rw [readMagnitude?_of_noPoint isPoint, readMagnitude?_of_noPoint lowerNoPoint, whole]
    simp only [List.map_eq_nil_iff]
    split <;> rfl

theorem readExponent_map_toLower (text : Text) :
    readExponent (text.map Char.toLower) = (readExponent text).map Char.toLower := by
  cases text with
  | nil => rfl
  | cons marker rest =>
      simp only [List.map_cons, readExponent, isExponentMarker_toLower]
      split
      · cases rest with
        | nil => rfl
        | cons sign digits =>
            simp only [List.map_cons, isSign_toLower]
            split
            · rw [takeWhile_map_toLower isDigit_toLower]
              cases digits.takeWhile Char.isDigit <;> rfl
            · rw [← List.map_cons, takeWhile_map_toLower isDigit_toLower]
              cases (sign :: digits).takeWhile Char.isDigit <;> rfl
      · rfl

theorem readNumber?_map_toLower (text : Text) :
    readNumber? (text.map Char.toLower) = (readNumber? text).map (List.map Char.toLower) := by
  have unsigned (source : Text) :
      readUnsigned? (source.map Char.toLower) =
        (readUnsigned? source).map (List.map Char.toLower) := by
    rw [readUnsigned?, readUnsigned?, readMagnitude?_map_toLower]
    cases readMagnitude? source with
    | none => rfl
    | some magnitude =>
        simp only [Option.map_some, List.length_map, ← List.map_drop, readExponent_map_toLower,
          List.map_append]
  by_cases isMinus : text.head? = some '-'
  · obtain ⟨rest, rfl⟩ := List.head?_eq_some_iff.mp isMinus
    rw [List.map_cons, show '-'.toLower = '-' from rfl, readNumber?_minus, readNumber?_minus,
      unsigned]
    cases readUnsigned? rest <;> rfl
  · have lowerNoMinus : (text.map Char.toLower).head? ≠ some '-' :=
      fun lower => isMinus (head?_of_map_toLower (by decide) lower)
    rw [readNumber?_of_noMinus isMinus, readNumber?_of_noMinus lowerNoMinus, unsigned]

theorem read?_map_toLower (text : Text) :
    read? (text.map Char.toLower) = (read? text).map lowered := by
  rw [read?, read?, readNumber?_map_toLower]
  cases readNumber? text with
  | none => rfl
  | some number =>
      have areBlanks :
          ∀ character ∈ (text.drop number.length).takeWhile isBlank,
            character.toLower = character :=
        fun character member =>
          toLower_of_isBlank (List.all_eq_true.mp List.all_takeWhile character member)
      simp only [Option.map_some, List.length_map, ← List.map_drop,
        takeWhile_map_toLower isBlank_toLower, dropWhile_map_toLower isBlank_toLower,
        takeWhile_map_toLower isLetterUpToCase_toLower, map_toLower_eq_self areBlanks]
      rfl

private theorem length_source_lowered (mention : Mention) :
    mention.lowered.source.length = mention.source.length := by
  simp [lowered, source]

theorem collectFrom_map_toLower (covered : Nat) (text : Text) :
    collectFrom covered (text.map Char.toLower) = (collectFrom covered text).map lowered := by
  induction text generalizing covered with
  | nil => cases covered <;> rfl
  | cons character rest inductionHypothesis =>
      cases covered with
      | succ covered => exact inductionHypothesis covered
      | zero =>
          rw [List.map_cons, collectFrom, ← List.map_cons, read?_map_toLower, collectFrom]
          cases read? (character :: rest) with
          | none => exact inductionHypothesis 0
          | some mention =>
              simp only [Option.map_some, length_source_lowered, inductionHypothesis,
                List.map_cons]

end Mention

/-! ## Numbers and units -/

namespace Double

private theorem splitSign_map_toLower (text : Text) :
    splitSign (text.map Char.toLower) = (splitSign text).map id (List.map Char.toLower) := by
  cases text with
  | nil => rfl
  | cons first rest =>
      by_cases isMinus : first = '-'
      · rw [isMinus]
        rfl
      by_cases isPlus : first = '+'
      · rw [isPlus]
        rfl
      have notMinus : first.toLower ≠ '-' :=
        fun lower => isMinus ((toLower_eq_iff (by decide) first).mp lower)
      have notPlus : first.toLower ≠ '+' :=
        fun lower => isPlus ((toLower_eq_iff (by decide) first).mp lower)
      rw [List.map_cons, splitSign_cons notMinus notPlus, splitSign_cons isMinus isPlus]
      rfl

private theorem readExponent?_map_toLower (text : Text) :
    readExponent? (text.map Char.toLower) = readExponent? text := by
  cases text with
  | nil => rfl
  | cons marker rest =>
      rw [List.map_cons, readExponent?, readExponent?, splitSign_map_toLower]
      obtain ⟨negative, digits⟩ := splitSign rest
      simp only [isExponentMarker_toLower, Prod.map_apply, id, ne_eq, List.map_eq_nil_iff,
        List.all_map, Function.comp_def, isDigit_toLower]
      by_cases areDigits : digits.all Char.isDigit = true
      · have unchanged := fun character member =>
          toLower_of_isDigit (List.all_eq_true.mp areDigits character member)
        rw [map_toLower_eq_self unchanged]
      · simp [areDigits]

private theorem splitDigits_map_toLower (text : Text) :
    splitDigits (text.map Char.toLower) = (splitDigits text).map id (List.map Char.toLower) := by
  have unchanged : ∀ character ∈ text.takeWhile Char.isDigit, character.toLower = character :=
    fun character member =>
      toLower_of_isDigit (List.all_eq_true.mp List.all_takeWhile character member)
  rw [splitDigits, takeWhile_map_toLower isDigit_toLower, dropWhile_map_toLower isDigit_toLower,
    map_toLower_eq_self unchanged]
  rfl

private theorem readMagnitude?_map_toLower (negative : Bool) (text : Text) :
    readMagnitude? negative (text.map Char.toLower) = readMagnitude? negative text := by
  rw [readMagnitude?, readMagnitude?, splitDigits_map_toLower]
  obtain ⟨whole, afterWhole⟩ := splitDigits text
  simp only [Prod.map_apply, id]
  by_cases isPoint : afterWhole.head? = some '.'
  · obtain ⟨rest, rfl⟩ := List.head?_eq_some_iff.mp isPoint
    simp only [List.map_cons, show '.'.toLower = '.' from rfl, splitDigits_map_toLower,
      Prod.map_fst, Prod.map_snd, id, readExponent?_map_toLower]
  · have lowerNoPoint : (afterWhole.map Char.toLower).head? ≠ some '.' :=
      fun lower => isPoint (head?_of_map_toLower (by decide) lower)
    split
    · rename_i lowerPoint
      rw [lowerPoint] at lowerNoPoint
      exact absurd rfl lowerNoPoint
    · symm
      split
      · exact absurd rfl isPoint
      · rw [readExponent?_map_toLower]

/-- A numeral denotes the same number in either case. -/
theorem ofText?_map_toLower (text : Text) : ofText? (text.map Char.toLower) = ofText? text := by
  rw [ofText?, ofText?, splitSign_map_toLower]
  obtain ⟨negative, magnitude⟩ := splitSign text
  have lowerTwice : (magnitude.map Char.toLower).map Char.toLower = magnitude.map Char.toLower := by
    rw [List.map_map, show Char.toLower ∘ Char.toLower = Char.toLower from funext toLower_toLower]
  simp only [Prod.map_apply, id, lowerTwice, readMagnitude?_map_toLower]

end Double

theorem unitLength?_map_toLower (word : Text) :
    unitLength? (word.map Char.toLower) = unitLength? word := by
  rw [unitLength?, unitLength?, lowercase_map_toLower]

theorem Mention.millis?_lowered (mention : Mention) :
    mention.lowered.millis? = mention.millis? := by
  rw [millis?, millis?, lowered, unitLength?_map_toLower, Double.ofText?_map_toLower]

theorem mentions_map_toLower (text : Text) :
    mentions (dropSeparators (text.map Char.toLower)) =
      (mentions (dropSeparators text)).map Mention.lowered := by
  rw [dropSeparators_map_toLower, mentions, Mention.collectFrom_map_toLower, mentions]

theorem parse?_map_toLower (text : Text) :
    Duration.parse? (text.map Char.toLower) = Duration.parse? text := by
  have amounts : Mention.millis? ∘ Mention.lowered = Mention.millis? :=
    funext Mention.millis?_lowered
  rw [Duration.parse?, Duration.parse?, mentions_map_toLower, List.filterMap_map, amounts]

/-! ## Texts that differ in case -/

/-- Two mentions that differ at most in the case of ASCII letters and count the same. -/
structure Mention.SameUpToCase (left right : Mention) : Prop where
  number : left.number.SameUpToCase right.number
  blanks : left.blanks = right.blanks
  word : left.word.SameUpToCase right.word
  amount : Double.ofText? left.number = Double.ofText? right.number
  unit : unitLength? left.word = unitLength? right.word

private theorem sameUpToCase_of_lowered
    {left right : Mention} (same : left.lowered = right.lowered) :
    left.SameUpToCase right := by
  obtain ⟨number, blanks, word⟩ := Mention.mk.inj same
  exact
    { number, blanks, word
      amount := by
        rw [← Double.ofText?_map_toLower, number, Double.ofText?_map_toLower]
      unit := by
        rw [← unitLength?_map_toLower, word, unitLength?_map_toLower] }

/-- Texts that differ in the case of ASCII letters mention the same durations one by one, and so
they have the same sum. -/
theorem parse?_of_sameUpToCase {left right : Text} (same : left.SameUpToCase right) :
    List.Forall₂ Mention.SameUpToCase
        (mentions (dropSeparators left)) (mentions (dropSeparators right)) ∧
      Duration.parse? left = Duration.parse? right := by
  constructor
  · have lowered :
        (mentions (dropSeparators left)).map Mention.lowered =
          (mentions (dropSeparators right)).map Mention.lowered := by
      rw [← mentions_map_toLower, same, mentions_map_toLower]
    rw [← List.forall₂_eq_eq_eq, List.forall₂_map_left_iff, List.forall₂_map_right_iff] at lowered
    exact lowered.imp fun _ _ => sameUpToCase_of_lowered
  · rw [← parse?_map_toLower left, same, parse?_map_toLower]

/-- Markers of exponents, a capital mu, a sigma that ends a word and the Kelvin sign, among letters
of ASCII in both cases. -/
theorem parse?_mixed_case :
    let left : Text := "1E3ΜS, 2 dAYΣ, -.5e1Hrs, 3W\u212A".toList
    let right : Text := "1e3Μs, 2 DayΣ, -.5E1hRS, 3w\u212A".toList
    left.SameUpToCase right ∧
      List.Forall₂ Mention.SameUpToCase
        (mentions (dropSeparators left)) (mentions (dropSeparators right)) ∧
      Duration.parse? left = Duration.parse? right := by
  intro left right
  have same : left.SameUpToCase right := by decide
  exact ⟨same, parse?_of_sameUpToCase same⟩

end TitleStamp
