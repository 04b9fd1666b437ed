import Mathlib.Data.List.SplitBy
import TitleStamp.Proofs.Text.Lowercase
import TitleStamp.Proofs.Text.Runs
import TitleStamp.Template.Transform

/-!
# Headlines

A headline is the sum of its runs, each cast in its place.  Casting an ASCII text changes letters
only in their case, and does not ask for the case that they had.  The words at both ends take a
capital, unless they have a casing of their own.
-/

namespace TitleStamp.Headline

/-! ## Runs in their places -/

/-- A run of a headline, and whether it is a word that may not stay small. -/
structure PlacedRun where
  forced : Bool
  run : Text
  deriving DecidableEq, Repr

/-- What a run becomes in its place. -/
def PlacedRun.cast (placed : PlacedRun) : Text :=
  if isWord placed.run then castWord placed.forced placed.run else placed.run

/-- The runs of a headline in their places; the gap is what stands directly before them. -/
def placeRuns (wordBefore : Bool) (gap : Text) : List Text → List PlacedRun
  | [] => []
  | run :: rest =>
      if isWord run then
        ⟨!wordBefore || !rest.any isWord || startsSentence gap, run⟩ :: placeRuns true [] rest
      else
        ⟨false, run⟩ :: placeRuns wordBefore run rest

theorem placeRuns_cons_of_isWord
    {wordBefore : Bool} {gap run : Text} {rest : List Text} (word : isWord run = true) :
    placeRuns wordBefore gap (run :: rest) =
      ⟨!wordBefore || !rest.any isWord || startsSentence gap, run⟩ :: placeRuns true [] rest := by
  rw [placeRuns, if_pos word]

theorem placeRuns_cons_of_not_isWord
    {wordBefore : Bool} {gap run : Text} {rest : List Text} (noWord : isWord run = false) :
    placeRuns wordBefore gap (run :: rest) = ⟨false, run⟩ :: placeRuns wordBefore run rest := by
  rw [placeRuns, if_neg (Bool.eq_false_iff.mp noWord)]

theorem castRuns_eq_flatMap (wordBefore : Bool) (gap : Text) (runs : List Text) :
    castRuns wordBefore gap runs = (placeRuns wordBefore gap runs).flatMap PlacedRun.cast := by
  induction runs generalizing wordBefore gap with
  | nil => rfl
  | cons run rest inductionHypothesis =>
      rw [castRuns]
      split
      · rename_i word
        rw [placeRuns_cons_of_isWord word, List.flatMap_cons, PlacedRun.cast, if_pos word,
          inductionHypothesis]
      · rename_i noWord
        rw [placeRuns_cons_of_not_isWord (Bool.eq_false_iff.mpr noWord), List.flatMap_cons,
          PlacedRun.cast, if_neg noWord, inductionHypothesis]

theorem map_run_placeRuns (wordBefore : Bool) (gap : Text) (runs : List Text) :
    (placeRuns wordBefore gap runs).map PlacedRun.run = runs := by
  induction runs generalizing wordBefore gap with
  | nil => rfl
  | cons run rest inductionHypothesis =>
      rw [placeRuns]
      split <;> rw [List.map_cons, inductionHypothesis]

/-- The runs behind a start are placed as if the start were gone, but for the words in it. -/
theorem placeRuns_append (wordBefore : Bool) (gap : Text) (start rest : List Text) :
    ∃ front before,
      front.map PlacedRun.run = start ∧
      placeRuns wordBefore gap (start ++ rest) =
        front ++ placeRuns (wordBefore || start.any isWord) before rest := by
  induction start generalizing wordBefore gap with
  | nil => exact ⟨[], gap, rfl, by rw [List.any_nil, Bool.or_false]; rfl⟩
  | cons run start inductionHypothesis =>
      cases word : isWord run with
      | true =>
          obtain ⟨front, before, same, placed⟩ := inductionHypothesis true []
          refine ⟨⟨!wordBefore || !(start ++ rest).any isWord || startsSentence gap, run⟩ :: front,
            before, by rw [List.map_cons, same], ?_⟩
          rw [List.cons_append, placeRuns_cons_of_isWord word, placed, List.any_cons, word,
            Bool.true_or, Bool.or_true, List.cons_append]
      | false =>
          obtain ⟨front, before, same, placed⟩ := inductionHypothesis wordBefore run
          refine ⟨⟨false, run⟩ :: front, before, by rw [List.map_cons, same], ?_⟩
          rw [List.cons_append, placeRuns_cons_of_not_isWord word, placed, List.any_cons, word,
            Bool.false_or, List.cons_append]

theorem any_isWord_runs (text : Text) :
    (runs text).any isWord = text.any isHeadlineCharacter := by
  have flattened := List.any_flatten (l := runs text) (f := isHeadlineCharacter)
  rw [runs, List.flatten_splitBy] at flattened
  exact flattened.symm

/-- A text is cut where the class of its characters changes. -/
theorem runs_append
    {left right : Text}
    (apart : ∀ last ∈ left.getLast?, ∀ first ∈ right.head?,
      isHeadlineCharacter last ≠ isHeadlineCharacter first) :
    runs (left ++ right) = runs left ++ runs right := by
  refine List.splitBy_append ?_
  intro last isLast first isFirst
  exact beq_eq_false_iff_ne.mpr (apart last isLast first isFirst)

theorem runs_of_word
    {word : Text}
    (nonempty : word ≠ [])
    (inWord : ∀ character ∈ word, isHeadlineCharacter character = true) :
    runs word = [word] := by
  refine List.splitBy_of_isChain nonempty ?_
  refine (List.pairwise_of_forall_mem_list ?_).isChain
  intro left inLeft right inRight
  rw [inWord left inLeft, inWord right inRight]
  rfl

/-! ## Casting a word -/

/-- Whether a word takes a capital: it has no casing of its own, and is no minor word that may
stay small. -/
def isCapitalized (forced : Bool) (word : Text) : Bool :=
  !specialWords.any (Text.lowercase ·.toList = word) &&
    (forced || !minorWords.any (·.toList = word))

theorem castWord_cases (forced : Bool) (word : Text) :
    (∃ special ∈ specialWords, Text.lowercase special.toList = word ∧
      isCapitalized forced word = false ∧ castWord forced word = special.toList) ∨
    ((∃ minor ∈ minorWords, minor.toList = word) ∧ forced = false ∧
      isCapitalized forced word = false ∧ castWord forced word = word) ∨
    ((∀ special ∈ specialWords, Text.lowercase special.toList ≠ word) ∧
      isCapitalized forced word = true ∧ castWord forced word = word.capitalized) := by
  cases found : specialWords.find? fun special => Text.lowercase special.toList = word with
  | some special =>
      have member := List.mem_of_find?_eq_some found
      have lowered : Text.lowercase special.toList = word := by
        simpa using List.find?_some found
      refine Or.inl ⟨special, member, lowered, ?_, by rw [castWord, found]⟩
      have listed : specialWords.any (Text.lowercase ·.toList = word) = true :=
        List.any_eq_true.mpr ⟨special, member, decide_eq_true lowered⟩
      rw [isCapitalized, listed]
      rfl
  | none =>
      have noSpecial : ∀ special ∈ specialWords, Text.lowercase special.toList ≠ word := by
        simpa using List.find?_eq_none.mp found
      have unlisted : specialWords.any (Text.lowercase ·.toList = word) = false := by
        simpa using noSpecial
      cases small : !forced && minorWords.any (·.toList = word) with
      | true =>
          obtain ⟨notForced, minor⟩ := Bool.and_eq_true_iff.mp small
          rw [Bool.not_eq_true'] at notForced
          refine Or.inr (Or.inl ⟨by simpa using minor, notForced, ?_, ?_⟩)
          · rw [isCapitalized, unlisted, minor, notForced]
            rfl
          · rw [castWord, found]
            exact if_pos small
      | false =>
          refine Or.inr (Or.inr ⟨noSpecial, ?_, ?_⟩)
          · cases forced <;> simp_all [isCapitalized]
          · rw [castWord, found]
            exact if_neg (Bool.eq_false_iff.mp small)

/-! ## ASCII texts -/

/-- A letter, a digit, an underscore or an apostrophe. -/
def isPlainWordCharacter (character : Char) : Bool :=
  character.isAlphanum || character = '_' || character = '\''

theorem isHeadlineCharacter_of_ascii
    {character : Char} (ascii : character.toNat < 0x80) :
    isHeadlineCharacter character = isPlainWordCharacter character :=
  ascii_induction (fun other => isHeadlineCharacter other = isPlainWordCharacter other)
    (by decide) ascii

theorem isPlainWordCharacter_toLower (character : Char) :
    isPlainWordCharacter character.toLower = isPlainWordCharacter character :=
  toLower_induction (isPlainWordCharacter · = isPlainWordCharacter ·) (fun _ => rfl) (by decide)
    character

theorem toNat_toLower_lt {character : Char} (ascii : character.toNat < 0x80) :
    character.toLower.toNat < 0x80 :=
  ascii_induction (fun other => other.toLower.toNat < 0x80) (by decide) ascii

theorem ascii_map_toLower
    {text : Text} (ascii : ∀ character ∈ text, character.toNat < 0x80) :
    ∀ character ∈ text.map Char.toLower, character.toNat < 0x80 :=
  List.forall_mem_map.mpr fun character member => toNat_toLower_lt (ascii character member)

theorem length_eq_of_sameUpToCase
    {left right : Text} (same : Text.SameUpToCase left right) :
    left.length = right.length := by
  simpa only [List.length_map] using congrArg List.length same

theorem isHeadlineCharacter_toLower_of_ascii
    {character : Char} (ascii : character.toNat < 0x80) :
    isHeadlineCharacter character.toLower = isPlainWordCharacter character := by
  rw [isHeadlineCharacter_of_ascii (toNat_toLower_lt ascii), isPlainWordCharacter_toLower]

theorem startsOutside_map_toLower_of_ascii
    {text : Text}
    (ascii : ∀ character ∈ text, character.toNat < 0x80)
    (outside : Text.StartsOutside isPlainWordCharacter text) :
    Text.StartsOutside isHeadlineCharacter (text.map Char.toLower) := by
  cases text with
  | nil => exact Text.startsOutside_nil
  | cons first rest =>
      rw [List.map_cons, Text.startsOutside_cons,
        isHeadlineCharacter_toLower_of_ascii (ascii first List.mem_cons_self)]
      exact Text.startsOutside_cons.mp outside

theorem any_isHeadlineCharacter_map_toLower_of_ascii
    {text : Text}
    (ascii : ∀ character ∈ text, character.toNat < 0x80)
    (outside : ∀ character ∈ text, isPlainWordCharacter character = false) :
    (text.map Char.toLower).any isHeadlineCharacter = false := by
  rw [List.any_map, List.any_eq_false]
  intro character member
  rw [Function.comp_apply, isHeadlineCharacter_toLower_of_ascii (ascii character member),
    outside character member]
  exact Bool.false_ne_true

theorem ascii_special :
    ∀ special ∈ specialWords, ∀ character ∈ special.toList, character.toNat < 0x80 := by
  decide

theorem capitalized_cons_of_ascii
    {first : Char} {rest : Text} (ascii : first.toNat < 0x80) :
    Text.capitalized (first :: rest) = first.toUpper :: rest := by
  rw [Text.capitalized, upperCharacter, if_pos ascii, List.singleton_append]

theorem sameUpToCase_castWord
    {word : Text}
    (forced : Bool)
    (ascii : ∀ character ∈ word, character.toNat < 0x80) :
    Text.SameUpToCase (castWord forced word) word := by
  rcases castWord_cases forced word with
    ⟨special, isSpecial, rfl, _, cast⟩ | ⟨_, _, _, cast⟩ | ⟨_, _, cast⟩
  · rw [cast, Text.SameUpToCase, lowercase_of_ascii (ascii_special special isSpecial),
      List.map_map]
    exact List.map_congr_left fun character _ => (toLower_toLower character).symm
  · rw [cast]
    rfl
  · rw [cast]
    cases word with
    | nil => rfl
    | cons first rest =>
        have isAscii := ascii first List.mem_cons_self
        have lowered : first.toUpper.toLower = first.toLower :=
          ascii_induction (fun other => other.toUpper.toLower = other.toLower) (by decide) isAscii
        rw [capitalized_cons_of_ascii isAscii, Text.SameUpToCase, List.map_cons, List.map_cons,
          lowered]

theorem sameUpToCase_flatMap_cast
    (placed : List PlacedRun)
    (ascii : ∀ character ∈ (placed.map PlacedRun.run).flatten, character.toNat < 0x80) :
    Text.SameUpToCase (placed.flatMap PlacedRun.cast) (placed.map PlacedRun.run).flatten := by
  induction placed with
  | nil => rfl
  | cons first rest inductionHypothesis =>
      rw [List.map_cons, List.flatten_cons, List.forall_mem_append] at ascii
      have here : Text.SameUpToCase first.cast first.run := by
        unfold PlacedRun.cast
        split
        · exact sameUpToCase_castWord first.forced ascii.1
        · rfl
      have later := inductionHypothesis ascii.2
      rw [Text.SameUpToCase] at here later ⊢
      rw [List.flatMap_cons, List.map_cons, List.flatten_cons, List.map_append, List.map_append,
        here, later]

/-- The text splits at a word: a longest run of word characters. -/
structure SplitsAtWord (before word after : Text) : Prop where
  nonempty : word ≠ []
  inWord : ∀ character ∈ word, isPlainWordCharacter character = true
  opened : Text.StartsOutside isPlainWordCharacter before.reverse
  closed : Text.StartsOutside isPlainWordCharacter after

/-- What stands at either end of a headline: a special word in its own casing, or a word in small
letters with a capital in front. -/
def IsEdgeCast (word shown : Text) : Prop :=
  (∃ special ∈ specialWords, Text.SameUpToCase special.toList word ∧ shown = special.toList) ∨
  ((∀ special ∈ specialWords, ¬Text.SameUpToCase special.toList word) ∧
    ∃ first rest, word = first :: rest ∧ shown = first.toUpper :: rest.map Char.toLower)

theorem isEdgeCast_castWord
    {word : Text}
    (nonempty : word ≠ [])
    (ascii : ∀ character ∈ word, character.toNat < 0x80) :
    IsEdgeCast word (castWord true (word.map Char.toLower)) := by
  have lowered_iff {special : String} (isSpecial : special ∈ specialWords) :
      Text.lowercase special.toList = word.map Char.toLower ↔
        Text.SameUpToCase special.toList word := by
    rw [lowercase_of_ascii (ascii_special special isSpecial)]
    rfl
  rcases castWord_cases true (word.map Char.toLower) with
    ⟨special, isSpecial, lowered, _, cast⟩ | ⟨_, notForced, _⟩ | ⟨noSpecial, _, cast⟩
  · exact Or.inl ⟨special, isSpecial, (lowered_iff isSpecial).mp lowered, cast⟩
  · cases notForced
  · refine Or.inr ⟨?_, ?_⟩
    · intro special isSpecial same
      exact noSpecial special isSpecial ((lowered_iff isSpecial).mpr same)
    · cases word with
      | nil => exact absurd rfl nonempty
      | cons first rest =>
          have isAscii := ascii first List.mem_cons_self
          have capital : first.toLower.toUpper = first.toUpper :=
            ascii_induction (fun other => other.toLower.toUpper = other.toUpper) (by decide)
              isAscii
          refine ⟨first, rest, rfl, ?_⟩
          rw [cast, List.map_cons, capitalized_cons_of_ascii (toNat_toLower_lt isAscii), capital]

/-- A word behind which or before which no other word stands is forced. -/
theorem exists_castRuns_edge
    {before word after : Text}
    (nonempty : word ≠ [])
    (inWord : ∀ character ∈ word, isHeadlineCharacter character = true)
    (opened : Text.StartsOutside isHeadlineCharacter before.reverse)
    (closed : Text.StartsOutside isHeadlineCharacter after)
    (edge : before.any isHeadlineCharacter = false ∨ after.any isHeadlineCharacter = false) :
    ∃ (front : List PlacedRun) (back : Text),
      (front.map PlacedRun.run).flatten = before ∧
      castRuns false [] (runs (before ++ (word ++ after))) =
        front.flatMap PlacedRun.cast ++ (castWord true word ++ back) := by
  have isWordRun : isWord word = true := by
    obtain ⟨first, member⟩ := List.exists_mem_of_ne_nil word nonempty
    exact List.any_eq_true.mpr ⟨first, member, inWord first member⟩
  have cutAfter : runs (word ++ after) = word :: runs after := by
    rw [runs_append, runs_of_word nonempty inWord, List.singleton_append]
    intro last isLast first isFirst
    rw [inWord last (List.mem_of_mem_getLast? isLast), closed first isFirst]
    exact Bool.noConfusion
  have cutBefore : runs (before ++ (word ++ after)) = runs before ++ (word :: runs after) := by
    rw [runs_append, cutAfter]
    intro last isLast first isFirst
    rw [List.head?_append_of_ne_nil _ nonempty] at isFirst
    rw [← List.head?_reverse] at isLast
    rw [opened last isLast, inWord first (List.mem_of_mem_head? isFirst)]
    exact Bool.noConfusion
  obtain ⟨front, gap, same, placed⟩ := placeRuns_append false [] (runs before) (word :: runs after)
  refine ⟨front, (placeRuns true [] (runs after)).flatMap PlacedRun.cast, ?_, ?_⟩
  · rw [same, runs, List.flatten_splitBy]
  · have forced :
        (!(false || (runs before).any isWord) || !(runs after).any isWord ||
          startsSentence gap) = true := by
      rw [any_isWord_runs, any_isWord_runs]
      rcases edge with noneBefore | noneAfter
      · rw [noneBefore]
        rfl
      · rw [noneAfter, Bool.not_false, Bool.or_true, Bool.true_or]
    rw [castRuns_eq_flatMap, cutBefore, placed, List.flatMap_append, placeRuns, if_pos isWordRun,
      forced, List.flatMap_cons, PlacedRun.cast, if_pos isWordRun]

theorem cast_of_ascii
    {text : Text} (ascii : ∀ character ∈ text, character.toNat < 0x80) :
    cast text = castRuns false [] (runs (text.map Char.toLower)) := by
  rw [cast, lowercase_of_ascii ascii]

theorem sameUpToCase_cast
    {text : Text} (ascii : ∀ character ∈ text, character.toNat < 0x80) :
    Text.SameUpToCase (cast text) text := by
  have lowered : (placeRuns false [] (runs (text.map Char.toLower))).map PlacedRun.run =
      runs (text.map Char.toLower) := map_run_placeRuns ..
  have same := sameUpToCase_flatMap_cast (placeRuns false [] (runs (text.map Char.toLower))) (by
    rw [lowered, runs, List.flatten_splitBy]
    exact ascii_map_toLower ascii)
  rw [lowered, runs, List.flatten_splitBy, ← runs, ← castRuns_eq_flatMap,
    ← cast_of_ascii ascii] at same
  refine same.trans ?_
  rw [List.map_map]
  exact List.map_congr_left fun character _ => toLower_toLower character

theorem exists_cast_edge
    {before word after : Text}
    (ascii : ∀ character ∈ before ++ (word ++ after), character.toNat < 0x80)
    (splits : SplitsAtWord before word after)
    (edge : (∀ character ∈ before, isPlainWordCharacter character = false) ∨
      ∀ character ∈ after, isPlainWordCharacter character = false) :
    ∃ front shown back, cast (before ++ (word ++ after)) = front ++ (shown ++ back) ∧
      front.length = before.length ∧ shown.length = word.length ∧ IsEdgeCast word shown := by
  obtain ⟨asciiBefore, asciiWord, asciiAfter⟩ :
      (∀ character ∈ before, character.toNat < 0x80) ∧
        (∀ character ∈ word, character.toNat < 0x80) ∧
          ∀ character ∈ after, character.toNat < 0x80 := by
    simpa only [List.forall_mem_append] using ascii
  have inWord : ∀ character ∈ word.map Char.toLower, isHeadlineCharacter character = true := by
    refine List.forall_mem_map.mpr fun character member => ?_
    rw [isHeadlineCharacter_toLower_of_ascii (asciiWord character member)]
    exact splits.inWord character member
  have opened : Text.StartsOutside isHeadlineCharacter (before.map Char.toLower).reverse := by
    rw [← List.map_reverse]
    refine startsOutside_map_toLower_of_ascii (fun character member => ?_) splits.opened
    exact asciiBefore character (List.mem_reverse.mp member)
  have closed := startsOutside_map_toLower_of_ascii asciiAfter splits.closed
  obtain ⟨front, back, front_eq, cast_eq⟩ :=
    exists_castRuns_edge (mt List.map_eq_nil_iff.mp splits.nonempty) inWord opened closed
      (edge.imp (any_isHeadlineCharacter_map_toLower_of_ascii asciiBefore)
        (any_isHeadlineCharacter_map_toLower_of_ascii asciiAfter))
  have shown_edge := isEdgeCast_castWord splits.nonempty asciiWord
  refine ⟨front.flatMap PlacedRun.cast, castWord true (word.map Char.toLower), back, ?_, ?_, ?_,
    shown_edge⟩
  · rw [cast_of_ascii ascii, List.map_append, List.map_append, cast_eq]
  · have same := sameUpToCase_flatMap_cast front (by
      rw [front_eq]
      exact ascii_map_toLower asciiBefore)
    rw [length_eq_of_sameUpToCase same, front_eq, List.length_map]
  · have same := sameUpToCase_castWord true (ascii_map_toLower asciiWord)
    rw [length_eq_of_sameUpToCase same, List.length_map]

/-- Casting an ASCII text keeps its length and all but the case of its letters, whose case makes
no difference.  The first and the last word take a capital or the casing that is their own. -/
theorem title_ascii
    {text : Text}
    (ascii : ∀ character ∈ text, character.toNat < 0x80) :
    let headline := Transform.title.apply text
    headline.length = text.length ∧
    Text.SameUpToCase headline text ∧
    (∀ other : Text, other.map lowerCharacter = text.map lowerCharacter →
      Transform.title.apply other = headline) ∧
    ∀ before word after, text = before ++ (word ++ after) → SplitsAtWord before word after →
      ((∀ character ∈ before, isPlainWordCharacter character = false) ∨
        ∀ character ∈ after, isPlainWordCharacter character = false) →
      ∃ front shown back, headline = front ++ (shown ++ back) ∧
        front.length = before.length ∧ shown.length = word.length ∧ IsEdgeCast word shown := by
  intro headline
  have same : Text.SameUpToCase headline text := sameUpToCase_cast ascii
  refine ⟨length_eq_of_sameUpToCase same, same, ?_, ?_⟩
  · intro other sameLetters
    exact congrArg (fun lowered => castRuns false [] (runs lowered))
      (lowercase_congr_of_ascii ascii sameLetters)
  · rintro before word after rfl splits edge
    exact exists_cast_edge ascii splits edge

theorem title_ascii_of_shouted_words :
    let text := "it's a DATE: the json of MACOS!".toList
    (∀ character ∈ text, character.toNat < 0x80) ∧
    Transform.title.apply text = "It's a Date: The JSON of macOS!".toList ∧
    Transform.title.apply "IT'S A date: THE JSON OF macos!".toList =
      Transform.title.apply text ∧
    ∃ front shown back, Transform.title.apply text = front ++ (shown ++ back) ∧
      front.length = 25 ∧ shown.length = 5 ∧ IsEdgeCast "MACOS".toList shown := by
  intro text
  have ascii : ∀ character ∈ text, character.toNat < 0x80 := by decide
  obtain ⟨_, _, sameLetters, edges⟩ := title_ascii ascii
  have splits : SplitsAtWord "it's a DATE: the json of ".toList "MACOS".toList "!".toList :=
    ⟨by decide, by decide, by decide, by decide⟩
  exact ⟨ascii, by decide +kernel, sameLetters _ (by decide +kernel),
    edges _ _ _ rfl splits (Or.inr (by decide))⟩

end TitleStamp.Headline
