import Mathlib.Algebra.Order.BigOperators.Group.List
import Mathlib.Algebra.Order.Group.Nat
import TitleStamp.Proofs.Duration.LetterCase
import TitleStamp.Proofs.Duration.NamedFields
import TitleStamp.Proofs.Duration.Surroundings
import TitleStamp.Proofs.Json.Numbers
import TitleStamp.Proofs.Number.Numeral

/-!
# Plain terms

A plain term is a whole numeral, spaces and a word for a unit of at least a millisecond.  A text of
such terms mentions them one by one, and as long as their magnitudes sum up to at most 2^53
milliseconds, the sum of the text is exact.
-/

namespace TitleStamp

open Json (IsDigits)
open NamedFields (gap)

/-- The names of the units of at least a millisecond with their lengths.  A year has 365.25 days and
a month is a twelfth of a year. -/
def plainUnits : List (List String × Nat) :=
  [(["ms", "millisecond", "msec"], 1),
   (["s", "sec", "second"], 1000),
   (["m", "min", "minute"], 60 * 1000),
   (["h", "hr", "hour"], 60 * 60 * 1000),
   (["d", "day"], 24 * 60 * 60 * 1000),
   (["w", "wk", "week"], 7 * 24 * 60 * 60 * 1000),
   (["b", "month"], 36525 * 24 * 60 * 60 * 10 / 12),
   (["y", "yr", "year"], 36525 * 24 * 60 * 60 * 10)]

/-- The words for these units: their names and, where it is no name itself, each name with a
plural s. -/
def plainWords : List (Text × Nat) :=
  let names := plainUnits.flatMap fun entry => entry.1.map fun name => (name.toList, entry.2)
  let plurals := names.map fun entry => (entry.1 ++ ['s'], entry.2)
  names ++ plurals.filter fun plural => plural.1 ∉ names.map Prod.fst

/-- A term with the length of its unit in milliseconds. -/
structure PlainTerm where
  negative : Bool
  digits : Text
  spaces : Nat
  word : Text
  millis : Nat
  isDigits : IsDigits digits
  named : (word.map Char.toLower, millis) ∈ plainWords

namespace PlainTerm

def numeral (term : PlainTerm) : Text :=
  if term.negative then '-' :: term.digits else term.digits

def written (term : PlainTerm) : Text :=
  term.numeral ++ (List.replicate term.spaces ' ' ++ term.word)

def mention (term : PlainTerm) : Mention :=
  ⟨term.numeral, List.replicate term.spaces ' ', term.word⟩

/-- The milliseconds of a term without its sign. -/
def magnitude (term : PlainTerm) : Nat :=
  digitsValue term.digits * term.millis

def amount (term : PlainTerm) : Int :=
  Double.signed term.negative term.magnitude

/-- Terms of which some have a space in front. -/
def joined (first : PlainTerm) (rest : List (Bool × PlainTerm)) : Text :=
  first.written ++ rest.flatMap fun entry => gap entry.1 ++ entry.2.written

/-! ## The parts of a term -/

variable (term : PlainTerm)

theorem unitLength?_word : unitLength? term.word = some (.whole term.millis) := by
  have named : ∀ entry ∈ plainWords, unitLength? entry.1 = some (wholeMillis entry.2) := by
    decide +kernel
  have small : ∀ entry ∈ plainWords, (entry.2 : Int).natAbs ≤ 2 ^ 53 := by decide +kernel
  rw [← unitLength?_map_toLower, named _ term.named, wholeMillis,
    Double.ofInt_eq_whole (small _ term.named)]

theorem millis_pos : 0 < term.millis := by
  have positive : ∀ entry ∈ plainWords, 0 < entry.2 := by decide +kernel
  exact positive _ term.named

private theorem isLetterUpToCase_of_mem_word :
    ∀ character ∈ term.word, isLetterUpToCase character = true := by
  have letters :
      ∀ entry ∈ plainWords, ∀ character ∈ entry.1, isLetterUpToCase character = true := by
    decide +kernel
  intro character member
  rw [← isLetterUpToCase_toLower]
  exact letters _ term.named _ (List.mem_map_of_mem member)

/-- A word starts with a letter that is no marker of an exponent. -/
private theorem exists_word_eq_cons :
    ∃ first others, term.word = first :: others ∧
      Text.continuesNumeral first = false ∧ isBlank first = false := by
  have sameClass (character : Char) :
      Text.continuesNumeral character.toLower = Text.continuesNumeral character :=
    toLower_induction (Text.continuesNumeral · = Text.continuesNumeral ·) (fun _ => rfl) (by decide)
      character
  have starts : ∀ entry ∈ plainWords, entry.1 ≠ [] ∧
      Text.StartsOutside Text.continuesNumeral entry.1 ∧ Text.StartsOutside isBlank entry.1 := by
    decide +kernel
  obtain ⟨nonempty, noNumeral, noBlank⟩ := starts _ term.named
  obtain ⟨first, others, isWord⟩ := List.exists_cons_of_ne_nil (mt List.map_eq_nil_iff.mpr nonempty)
  rw [isWord, List.map_cons, Text.startsOutside_cons] at noNumeral noBlank
  rw [sameClass] at noNumeral
  rw [isBlank_toLower] at noBlank
  exact ⟨first, others, isWord, noNumeral, noBlank⟩

theorem numeral_ne_nil : term.numeral ≠ [] := by
  rw [numeral]
  split
  · exact List.cons_ne_nil _ _
  · exact term.isDigits.nonempty

theorem startsOutside_written : Text.StartsOutside isLetterUpToCase term.written := by
  rw [written, numeral]
  split
  · exact Text.startsOutside_cons.mpr (by decide)
  · obtain ⟨first, others, isDigits⟩ := List.exists_cons_of_ne_nil term.isDigits.nonempty
    have isDigit := term.isDigits.areDigits first (by simp [isDigits])
    rw [isDigits]
    exact Text.startsOutside_cons.mpr (not_isLetterUpToCase_of_isDigit isDigit)

private theorem mem_written {character : Char} (member : character ∈ term.written) :
    character = '-' ∨ character.isDigit = true ∨ character = ' ' ∨
      isLetterUpToCase character = true := by
  rcases List.mem_append.mp member with inNumeral | behind
  · rw [numeral] at inNumeral
    split at inNumeral
    · rcases List.mem_cons.mp inNumeral with isMinus | inDigits
      · exact Or.inl isMinus
      · exact Or.inr (Or.inl (term.isDigits.areDigits character inDigits))
    · exact Or.inr (Or.inl (term.isDigits.areDigits character inNumeral))
  · rcases List.mem_append.mp behind with inSpaces | inWord
    · exact Or.inr (Or.inr (Or.inl (List.eq_of_mem_replicate inSpaces)))
    · exact Or.inr (Or.inr (Or.inr (term.isLetterUpToCase_of_mem_word character inWord)))

theorem read?_written_append
    {rest : Text} (stops : Text.StartsOutside isLetterUpToCase rest) :
    Mention.read? (term.written ++ rest) = some term.mention := by
  obtain ⟨first, others, isWord, noNumeral, noBlank⟩ := term.exists_word_eq_cons
  have numeralStops :
      Text.StartsOutside Text.continuesNumeral
        (List.replicate term.spaces ' ' ++ (term.word ++ rest)) := by
    cases term.spaces with
    | zero =>
        rw [List.replicate_zero, List.nil_append, isWord]
        exact Text.startsOutside_cons.mpr noNumeral
    | succ more => exact Text.startsOutside_cons.mpr (by decide)
  have blanksStop : Text.StartsOutside isBlank (term.word ++ rest) := by
    rw [isWord]
    exact Text.startsOutside_cons.mpr noBlank
  have areBlanks : ∀ character ∈ List.replicate term.spaces ' ', isBlank character = true := by
    intro character member
    rw [List.eq_of_mem_replicate member]
    decide
  rw [written, List.append_assoc, List.append_assoc]
  exact Mention.read?_append term.negative term.isDigits.nonempty term.isDigits.areDigits
    numeralStops areBlanks blanksStop term.isLetterUpToCase_of_mem_word stops

theorem collectFrom_written_append
    {rest : Text} (stops : Text.StartsOutside isLetterUpToCase rest) :
    Mention.collectFrom 0 (term.written ++ rest) =
      term.mention :: Mention.collectFrom 0 rest := by
  have nonempty : term.mention.source ≠ [] := by
    rw [Mention.source, mention, List.append_assoc]
    exact List.append_ne_nil_of_left_ne_nil term.numeral_ne_nil _
  have found := term.read?_written_append stops
  have source : term.mention.source = term.written := by
    rw [Mention.source, mention, written, List.append_assoc]
  rw [← source] at found ⊢
  exact Mention.collectFrom_append nonempty found

theorem millis?_mention (small : term.magnitude ≤ 2 ^ 53) :
    term.mention.millis? = some (.whole term.amount) := by
  have valueSmall : digitsValue term.digits ≤ 2 ^ 53 :=
    Nat.le_trans (Nat.le_mul_of_pos_right _ term.millis_pos) small
  have number := Double.ofText?_digits term.negative term.isDigits.nonempty term.isDigits.areDigits
    valueSmall
  have product :
      Double.signed term.negative (digitsValue term.digits) * (term.millis : Int) =
        term.amount := by
    rw [amount, magnitude, Double.signed, Double.signed]
    cases term.negative <;> simp
  have productSmall : term.amount.natAbs ≤ 2 ^ 53 := by
    rw [amount, Double.signed]
    cases term.negative <;> simpa using small
  rw [← product] at productSmall
  rw [Mention.millis?, mention, term.unitLength?_word, numeral, number]
  exact congrArg some ((Double.mul_whole productSmall).trans (congrArg Double.whole product))

/-! ## Texts of terms -/

section Joined

variable (first : PlainTerm) (rest : List (Bool × PlainTerm))

private theorem startsOutside_rest :
    Text.StartsOutside isLetterUpToCase
      (rest.flatMap fun entry => gap entry.1 ++ entry.2.written) := by
  induction rest with
  | nil => exact Text.startsOutside_nil
  | cons entry rest inductionHypothesis =>
      refine Text.startsOutside_append (Text.startsOutside_append ?_ ?_) inductionHypothesis
      · cases entry.1 <;> decide
      · exact entry.2.startsOutside_written

private theorem collectFrom_gap_append (spaced : Bool) (text : Text) :
    Mention.collectFrom 0 (gap spaced ++ text) = Mention.collectFrom 0 text := by
  cases spaced with
  | false => rfl
  | true =>
      exact @Mention.collectFrom_digitFree_append [' '] (by decide) (by decide) (by decide) text

/-- A text of terms mentions each of them and nothing else. -/
theorem mentions_joined :
    mentions (joined first rest) = (first :: rest.map Prod.snd).map mention := by
  have restMentions :
      Mention.collectFrom 0 (rest.flatMap fun entry => gap entry.1 ++ entry.2.written) =
        (rest.map Prod.snd).map mention := by
    induction rest with
    | nil => rfl
    | cons entry rest inductionHypothesis =>
        rw [List.flatMap_cons, List.append_assoc, collectFrom_gap_append,
          entry.2.collectFrom_written_append (startsOutside_rest rest), inductionHypothesis,
          List.map_cons, List.map_cons]
  rw [mentions, joined, first.collectFrom_written_append (startsOutside_rest rest), restMentions,
    List.map_cons]

theorem dropSeparators_joined : dropSeparators (joined first rest) = joined first rest := by
  have inTerm (term : PlainTerm) :
      ∀ character ∈ term.written, character ≠ ',' ∧ character ≠ '_' := by
    intro character member
    rcases term.mem_written member with rfl | isDigit | rfl | isLetter
    · decide
    · constructor <;> rintro rfl <;> exact absurd isDigit (by decide)
    · decide
    · constructor <;> rintro rfl <;> exact absurd isLetter (by decide)
  have inGap (spaced : Bool) : ∀ character ∈ gap spaced, character ≠ ',' ∧ character ≠ '_' := by
    cases spaced <;> decide
  refine dropSeparators_eq_self fun character member => ?_
  rcases List.mem_append.mp member with inFirst | inRest
  · exact inTerm first character inFirst
  · obtain ⟨entry, _, inEntry⟩ := List.mem_flatMap.mp inRest
    rcases List.mem_append.mp inEntry with inSpace | inWritten
    · exact inGap entry.1 character inSpace
    · exact inTerm entry.2 character inWritten

end Joined

end PlainTerm

/-! ## Exact sums -/

private theorem natAbs_sum_le (numbers : List Int) :
    numbers.sum.natAbs ≤ (numbers.map Int.natAbs).sum := by
  induction numbers with
  | nil => rfl
  | cons number rest inductionHypothesis =>
      have magnitude := Int.natAbs_add_le number rest.sum
      rw [List.sum_cons, List.map_cons, List.sum_cons]
      omega

/-- A text whose mentions contribute whole numbers of milliseconds has exactly their sum, as long as
no partial sum can leave the exact range. -/
theorem parse?_eq_sum
    {text : Text} {numbers : List Int} (nonempty : numbers ≠ [])
    (amounts :
      (mentions (dropSeparators text)).filterMap Mention.millis? = numbers.map Double.whole)
    (small : (numbers.map Int.natAbs).sum ≤ 2 ^ 53) :
    (Duration.parse? text).map Duration.millis = some numbers.sum := by
  have total : (numbers.map Double.whole).foldl Double.add (.finite 0) = .whole numbers.sum := by
    rw [← Double.whole_zero, Double.foldl_add_whole (by rwa [Int.natAbs_zero, Nat.zero_add]),
      Int.zero_add]
  have sumSmall : numbers.sum.natAbs ≤ 2 ^ 53 := Nat.le_trans (natAbs_sum_le numbers) small
  have inRange : -longestMillis ≤ numbers.sum ∧ numbers.sum ≤ longestMillis := by
    rw [longestMillis]
    omega
  obtain ⟨first, others, rfl⟩ := List.exists_cons_of_ne_nil nonempty
  rw [Duration.parse?, amounts]
  rw [List.map_cons] at total ⊢
  dsimp only
  rw [total, Double.toWord_whole sumSmall, Duration.ofMillis?, dif_pos inRange]
  rfl

namespace PlainTerm

variable (first : PlainTerm) (rest : List (Bool × PlainTerm))

theorem parse?_joined
    (small : ((first :: rest.map Prod.snd).map magnitude).sum ≤ 2 ^ 53) :
    (Duration.parse? (joined first rest)).map Duration.millis =
      some ((first :: rest.map Prod.snd).map amount).sum := by
  have sameMagnitudes (terms : List PlainTerm) :
      (terms.map amount).map Int.natAbs = terms.map magnitude := by
    rw [List.map_map]
    refine List.map_congr_left fun term _ => ?_
    rw [Function.comp_apply, amount, Double.signed]
    cases term.negative <;> simp
  have amounts (terms : List PlainTerm) (termsSmall : (terms.map magnitude).sum ≤ 2 ^ 53) :
      (terms.map mention).filterMap Mention.millis? = (terms.map amount).map Double.whole := by
    rw [List.filterMap_map, List.map_map, ← List.filterMap_eq_map]
    refine List.filterMap_congr fun term member => millis?_mention term ?_
    exact Nat.le_trans
      (List.single_le_sum (fun _ _ => Nat.zero_le _) _ (List.mem_map_of_mem member)) termsSmall
  refine parse?_eq_sum (List.cons_ne_nil _ _) ?_ ?_
  · rw [dropSeparators_joined, mentions_joined, amounts _ small]
  · rwa [sameMagnitudes]

/-- Terms with one space between neighbours. -/
def spaced (first : PlainTerm) (rest : List PlainTerm) : Text :=
  first.written ++ rest.flatMap fun term => ' ' :: term.written

/-- A text of plain terms mentions them one by one, each with its own sign, and has exactly their
sum. -/
theorem parse?_spaced
    (first : PlainTerm) (rest : List PlainTerm)
    (small : ((first :: rest).map magnitude).sum ≤ 2 ^ 53) :
    mentions (dropSeparators (spaced first rest)) = (first :: rest).map mention ∧
      (Duration.parse? (spaced first rest)).map Duration.millis =
        some ((first :: rest).map amount).sum := by
  have isJoined : spaced first rest = joined first (rest.map fun term => (true, term)) := by
    rw [spaced, joined, List.flatMap_map]
    rfl
  have sameTerms : (rest.map fun term => (true, term)).map Prod.snd = rest := by
    rw [List.map_map]
    exact List.map_id rest
  have spacedMentions := mentions_joined first (rest.map fun term => (true, term))
  have spacedSum := parse?_joined first (rest.map fun term => (true, term))
  rw [sameTerms] at spacedMentions spacedSum
  rw [isJoined, dropSeparators_joined]
  exact ⟨spacedMentions, spacedSum small⟩

/-- Signs, leading zeros, several spaces, letters of both cases and plurals; `MS` names milliseconds
and not minutes. -/
theorem parse?_spaced_mixed :
    let first : PlainTerm :=
      { negative := true, digits := "0012".toList, spaces := 2, word := "HouRs".toList
        millis := 3600000, isDigits := ⟨by decide, by decide⟩, named := by decide }
    let rest : List PlainTerm :=
      [{ negative := false, digits := "3".toList, spaces := 0, word := "MS".toList
         millis := 1, isDigits := ⟨by decide, by decide⟩, named := by decide },
       { negative := false, digits := "1".toList, spaces := 1, word := "month".toList
         millis := 2629800000, isDigits := ⟨by decide, by decide⟩, named := by decide },
       { negative := true, digits := "2".toList, spaces := 1, word := "mSs".toList
         millis := 1, isDigits := ⟨by decide, by decide⟩, named := by decide }]
    spaced first rest = "-0012  HouRs 3MS 1 month -2 mSs".toList ∧
      ((first :: rest).map magnitude).sum ≤ 2 ^ 53 ∧
      mentions (dropSeparators (spaced first rest)) = (first :: rest).map mention ∧
      (Duration.parse? (spaced first rest)).map Duration.millis = some 2586600001 := by
  intro first rest
  have small : ((first :: rest).map magnitude).sum ≤ 2 ^ 53 := by decide
  have total : ((first :: rest).map amount).sum = 2586600001 := by decide
  obtain ⟨sameMentions, sum⟩ := parse?_spaced first rest small
  rw [total] at sum
  exact ⟨by decide, small, sameMentions, sum⟩

end PlainTerm

end TitleStamp
