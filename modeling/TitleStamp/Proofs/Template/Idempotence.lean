import TitleStamp.Proofs.Template.Headline
import TitleStamp.Proofs.Text.Idempotence

/-!
# Transforms applied twice

Trimming and the changes of case leave alone what they have made.  Casting a headline again reads
the same words, but the capital of a word may have become several letters, or its small form may
be another letter than the word had.  What the second casting makes of such a word decides
whether the headline stays.
-/

namespace TitleStamp

variable {text : Text}

namespace Headline

/-! ## Casting a word again -/

/-- Whether the capital of a word stays as it is when the word is cast again: the letters behind
its first one have no other lower case, and the word is capitalized with the small form of the
capital, too. -/
def KeepsCapital (forced : Bool) : Text → Prop
  | [] => True
  | first :: rest =>
      IsSmall (upperCharacter first).tail ∧
        isCapitalized forced ((upperCharacter first).flatMap lowerCharacter ++ rest) = true

theorem lowerCharacter_of_mem_special
    {special : String} {letter : Char}
    (isSpecial : special ∈ specialWords)
    (member : letter ∈ special.toList) :
    lowerCharacter letter = [letter.toLower] := by
  rw [lowerCharacter, if_pos (ascii_special special isSpecial letter member)]

theorem eq_of_isLowered_special
    {special : String} {again : Text}
    (isSpecial : special ∈ specialWords)
    (lowered : List.Forall₂ IsLowered again special.toList) :
    again = Text.lowercase special.toList := by
  have noSigma := sigma_not_mem_of_ascii (ascii_special special isSpecial)
  rw [eq_flatMap_of_forall₂ noSigma lowered, lowercase_eq_flatMap noSigma]

theorem eq_of_isLowered_castWord
    {forced : Bool} {word again : Text}
    (small : IsSmall word)
    (notCapitalized : isCapitalized forced word = false)
    (lowered : List.Forall₂ IsLowered again (castWord forced word)) :
    again = word := by
  rcases castWord_cases forced word with
    ⟨special, isSpecial, same, _, cast⟩ | ⟨_, _, _, cast⟩ | ⟨_, capitalized, _⟩
  · rw [cast] at lowered
    rw [eq_of_isLowered_special isSpecial lowered, same]
  · rw [cast] at lowered
    exact eq_of_isLowered_of_isSmall small lowered
  · rw [capitalized] at notCapitalized
    cases notCapitalized

theorem castWord_of_isCapitalized
    {forced : Bool} {word : Text} (capitalized : isCapitalized forced word = true) :
    castWord forced word = word.capitalized := by
  rcases castWord_cases forced word with
    ⟨_, _, _, notCapitalized, _⟩ | ⟨_, _, notCapitalized, _⟩ | ⟨_, _, cast⟩
  · rw [capitalized] at notCapitalized
    cases notCapitalized
  · rw [capitalized] at notCapitalized
    cases notCapitalized
  · exact cast

/-- No special word is a capital and small letters behind it. -/
theorem special_ne_capital_append
    {special : String} {first capital : Char} {more rest : Text}
    (isSpecial : special ∈ specialWords)
    (upper_eq : upperCharacter first = capital :: more)
    (small : IsSmall rest) :
    special.toList ≠ capital :: (more ++ rest) := by
  have otherCapital : ∀ special ∈ specialWords,
      (special.toList.tail.any fun letter => lowerCharacter letter != [letter]) = true := by
    decide +kernel
  have noExpansion : ∀ entry ∈ upperExpansions, ∀ special ∈ specialWords,
      (entry.2.map Char.ofNat).isPrefixOf special.toList = false := by
    decide +kernel
  intro same
  rcases upperCharacter_cases first with ⟨_, single⟩ | ⟨entry, listed, expanded⟩
  · obtain ⟨rfl, rfl⟩ := List.cons.inj (upper_eq.symm.trans single)
    obtain ⟨letter, inTail, another⟩ := List.any_eq_true.mp (otherCapital special isSpecial)
    rw [same] at inTail
    exact bne_iff_ne.mp another (small letter inTail)
  · have starts : (entry.2.map Char.ofNat).isPrefixOf special.toList = true := by
      rw [← expanded, upper_eq, same, List.isPrefixOf_iff_prefix]
      exact ⟨rest, rfl⟩
    rw [noExpansion entry listed special isSpecial] at starts
    cases starts

/-- A word that has been capitalized, with a small form of the capital in front. -/
theorem castWord_reread
    (forced : Bool) {first capital letter : Char} {more rest : Text}
    (upper_eq : upperCharacter first = capital :: more)
    (upper_letter : upperCharacter letter = [capital])
    (single : ∀ other ∈ more, ∃ small, lowerCharacter other = [small])
    (small : IsSmall rest) :
    let again := letter :: (more.flatMap lowerCharacter ++ rest)
    (castWord forced again).length = (capital :: (more ++ rest)).length ∧
      (castWord forced again = capital :: (more ++ rest) ↔
        IsSmall more ∧ isCapitalized forced again = true) := by
  intro again
  have sameLength : again.length = (capital :: (more ++ rest)).length := by
    rw [List.length_cons, List.length_append, length_flatMap_lowerCharacter single,
      List.length_cons, List.length_append]
  rcases castWord_cases forced again with
    ⟨special, isSpecial, lowered, notCapitalized, cast⟩ |
      ⟨⟨minor, isMinor, same⟩, _, notCapitalized, cast⟩ | ⟨_, capitalized, cast⟩
  -- A special word has a capital behind its first letter where the capitalized word has none, and
  -- a minor word starts with a small letter, so neither restores the capitalized word.
  · rw [cast, notCapitalized]
    refine ⟨?_, iff_of_false (special_ne_capital_append isSpecial upper_eq small) (nomatch ·.2)⟩
    rw [← sameLength, ← lowered, lowercase_of_ascii (ascii_special special isSpecial),
      List.length_map]
  · rw [cast, notCapitalized]
    refine ⟨sameLength, iff_of_false ?_ (nomatch ·.2)⟩
    have noCapital : ∀ minor ∈ minorWords, ∀ first ∈ minor.toList.head?,
        upperCharacter first ≠ [first] := by
      decide +kernel
    intro capital_eq
    have isFirst : letter ∈ minor.toList.head? := by
      rw [same]
      exact Option.mem_some_self letter
    obtain ⟨rfl, _⟩ := List.cons.inj capital_eq
    exact noCapital minor isMinor letter isFirst upper_letter
  · have castAgain : castWord forced again =
        capital :: (more.flatMap lowerCharacter ++ rest) := by
      rw [cast, Text.capitalized, upper_letter, List.singleton_append]
    rw [castAgain, capitalized, ← flatMap_lowerCharacter_eq_iff single]
    refine ⟨sameLength, ?_⟩
    rw [List.cons_inj_right, List.append_cancel_right_eq, and_iff_left rfl]

theorem isCapitalized_of_sigma
    {forced : Bool} {letter : Char} {rest : Text}
    (sigma : letter = 'σ' ∨ letter = 'ς') :
    isCapitalized forced (letter :: rest) = true := by
  have apart : ∀ word ∈ specialWords.map (Text.lowercase ·.toList) ++ minorWords.map (·.toList),
      ∀ first ∈ word.head?, first ≠ 'σ' ∧ first ≠ 'ς' := by
    decide +kernel
  have unlisted : ∀ word ∈ specialWords.map (Text.lowercase ·.toList) ++
      minorWords.map (·.toList), word ≠ letter :: rest := by
    rintro _ listed rfl
    obtain ⟨notSigma, notFinal⟩ := apart _ listed letter (Option.mem_some_self letter)
    exact sigma.elim notSigma notFinal
  obtain ⟨noSpecial, noMinor⟩ := List.forall_mem_append.mp unlisted
  rw [List.forall_mem_map] at noSpecial noMinor
  simp only [isCapitalized, Bool.and_eq_true, Bool.not_eq_true', Bool.or_eq_true]
  exact ⟨by simpa using noSpecial, Or.inr (by simpa using noMinor)⟩

/-- The letter that a capital is lowered to.  A capital sigma has two of them, and neither starts
a word that is not capitalized. -/
theorem letter_of_isLowered_capital
    (forced : Bool) (rest : Text) {first capital small letter : Char} {more : Text}
    (hasCapital : HasCapital first capital small more)
    (inWord : isHeadlineCharacter first = true)
    (lowered : IsLowered letter capital) :
    upperCharacter letter = [capital] ∧ isHeadlineCharacter letter = true ∧
      isCapitalized forced (letter :: rest) = isCapitalized forced (small :: rest) := by
  by_cases sigma : capital = 'Σ'
  · subst sigma
    rw [IsLowered, if_pos rfl] at lowered
    have settled : ∀ form ∈ ['σ', 'ς'],
        upperCharacter form = ['Σ'] ∧ isHeadlineCharacter form = true := by
      decide +kernel
    obtain ⟨upper_letter, letter_inWord⟩ := settled letter (by simpa using lowered)
    have isSigma : small = 'σ' :=
      List.singleton_injective (hasCapital.lower_eq.symm.trans (by decide +kernel))
    exact ⟨upper_letter, letter_inWord, (isCapitalized_of_sigma lowered).trans
      (isCapitalized_of_sigma (Or.inl isSigma)).symm⟩
  · rw [IsLowered, if_neg sigma] at lowered
    obtain rfl := List.singleton_injective (hasCapital.lower_eq.symm.trans lowered)
    exact ⟨hasCapital.upper_small, hasCapital.small_inWord inWord, rfl⟩

theorem keepsCapital_iff
    {forced : Bool} {first capital small : Char} {more rest : Text}
    (hasCapital : HasCapital first capital small more) :
    KeepsCapital forced (first :: rest) ↔
      IsSmall more ∧
        isCapitalized forced (small :: (more.flatMap lowerCharacter ++ rest)) = true := by
  rw [KeepsCapital, hasCapital.upper_eq, List.flatMap_cons, hasCapital.lower_eq,
    List.singleton_append, List.cons_append, List.tail_cons]

/-- What stands where a run has been cast, when the headline is lowered again: a run of the same
class and, cast in the same place, of the same length.  What stands between words is unchanged,
so that the words keep their places. -/
structure Reread (placed : PlacedRun) (again : Text) : Prop where
  nonempty : again ≠ []
  sameClass : ∀ character ∈ again, isHeadlineCharacter character = isWord placed.run
  sameGap : isWord placed.run = false → again = placed.run
  sameLength : (PlacedRun.cast ⟨placed.forced, again⟩).length = placed.cast.length
  cast_eq_iff : PlacedRun.cast ⟨placed.forced, again⟩ = placed.cast ↔
    (isWord placed.run = true → isCapitalized placed.forced placed.run = true →
      KeepsCapital placed.forced placed.run)

theorem isWord_eq_of_sameClass
    {run : Text} {inWord : Bool}
    (nonempty : run ≠ [])
    (sameClass : ∀ character ∈ run, isHeadlineCharacter character = inWord) :
    isWord run = inWord := by
  obtain ⟨first, member⟩ := List.exists_mem_of_ne_nil run nonempty
  cases inWord with
  | true => exact List.any_eq_true.mpr ⟨first, member, sameClass first member⟩
  | false => exact List.any_eq_false.mpr fun other isOther => by simp [sameClass other isOther]

theorem Reread.isWord_eq
    {placed : PlacedRun} {again : Text}
    (reread : Reread placed again) :
    isWord again = isWord placed.run :=
  isWord_eq_of_sameClass reread.nonempty reread.sameClass

theorem reread_self
    {placed : PlacedRun}
    (nonempty : placed.run ≠ [])
    (sameClass : ∀ character ∈ placed.run, isHeadlineCharacter character = isWord placed.run)
    (notCapitalized : isWord placed.run = true →
      isCapitalized placed.forced placed.run = false) :
    Reread placed placed.run where
  nonempty := nonempty
  sameClass := sameClass
  sameGap := fun _ => rfl
  sameLength := rfl
  cast_eq_iff := by
    refine iff_of_true rfl fun word capitalized => ?_
    rw [notCapitalized word] at capitalized
    cases capitalized

theorem reread_of_isCapitalized
    {placed : PlacedRun} {again : Text}
    (small : IsSmall placed.run)
    (inWord : ∀ character ∈ placed.run, isHeadlineCharacter character = true)
    (word : isWord placed.run = true)
    (capitalized : isCapitalized placed.forced placed.run = true)
    (lowered : List.Forall₂ IsLowered again placed.cast) :
    Reread placed again := by
  obtain ⟨forced, _ | ⟨first, rest⟩⟩ := placed
  · cases word
  obtain ⟨smallFirst, smallRest⟩ := isSmall_cons.mp small
  obtain ⟨firstInWord, restInWord⟩ := List.forall_mem_cons.mp inWord
  obtain ⟨capital, smallForm, more, hasCapital⟩ := exists_hasCapital smallFirst
  have cast_eq : PlacedRun.cast ⟨forced, first :: rest⟩ = capital :: (more ++ rest) := by
    rw [PlacedRun.cast, if_pos word, castWord_of_isCapitalized capitalized, Text.capitalized,
      hasCapital.upper_eq, List.cons_append]
  rw [cast_eq] at lowered
  obtain ⟨form, loweredForm, rfl⟩ := hasCapital.exists_again smallRest lowered
  obtain ⟨upper_form, formInWord, sameDecision⟩ :=
    letter_of_isLowered_capital forced (more.flatMap lowerCharacter ++ rest) hasCapital
      firstInWord loweredForm
  obtain ⟨sameLength, cast_eq_iff⟩ :=
    castWord_reread forced hasCapital.upper_eq upper_form hasCapital.single smallRest
  have againInWord : ∀ character ∈ form :: (more.flatMap lowerCharacter ++ rest),
      isHeadlineCharacter character = true :=
    List.forall_mem_cons.mpr
      ⟨formInWord, List.forall_mem_append.mpr ⟨hasCapital.lowered_inWord, restInWord⟩⟩
  have wordAgain := isWord_eq_of_sameClass (List.cons_ne_nil _ _) againInWord
  refine ⟨List.cons_ne_nil _ _, ?_, ?_, ?_, ?_⟩
  · rwa [word]
  · rw [word]
    exact Bool.noConfusion
  · rw [cast_eq, PlacedRun.cast, if_pos wordAgain]
    exact sameLength
  · rw [cast_eq, PlacedRun.cast, if_pos wordAgain, cast_eq_iff, sameDecision,
      ← keepsCapital_iff hasCapital]
    exact ⟨fun keeps _ _ => keeps, fun keeps => keeps word capitalized⟩

theorem reread_of_isLowered
    {placed : PlacedRun} {again : Text}
    (small : IsSmall placed.run)
    (nonempty : placed.run ≠ [])
    (sameClass : ∀ character ∈ placed.run, isHeadlineCharacter character = isWord placed.run)
    (lowered : List.Forall₂ IsLowered again placed.cast) :
    Reread placed again := by
  cases word : isWord placed.run with
  | false =>
      rw [PlacedRun.cast, word] at lowered
      obtain rfl := eq_of_isLowered_of_isSmall small lowered
      refine reread_self nonempty sameClass fun isWordRun => ?_
      rw [word] at isWordRun
      cases isWordRun
  | true =>
      cases capitalized : isCapitalized placed.forced placed.run with
      | false =>
          rw [PlacedRun.cast, if_pos word] at lowered
          obtain rfl := eq_of_isLowered_castWord small capitalized lowered
          exact reread_self nonempty sameClass fun _ => capitalized
      | true =>
          rw [word] at sameClass
          exact reread_of_isCapitalized small sameClass word capitalized lowered

/-! ## Casting a headline again -/

/-- A text that is cut where the class of its characters changes. -/
structure IsCut (pieces : List Text) : Prop where
  nonempty : ∀ piece ∈ pieces, piece ≠ []
  sameClass : ∀ piece ∈ pieces, ∀ character ∈ piece,
    isHeadlineCharacter character = isWord piece
  apart : (pieces.map isWord).IsChain (· ≠ ·)

theorem sameClass_of_isChain
    {first : Char} {rest : Text}
    (chain : (first :: rest).IsChain fun left right =>
      (isHeadlineCharacter left == isHeadlineCharacter right) = true) :
    ∀ character ∈ first :: rest, isHeadlineCharacter character = isHeadlineCharacter first := by
  induction rest generalizing first with
  | nil =>
      intro character member
      rw [List.mem_singleton.mp member]
  | cons next others inductionHypothesis =>
      obtain ⟨same, later⟩ := List.isChain_cons_cons.mp chain
      refine List.forall_mem_cons.mpr ⟨rfl, fun character member => ?_⟩
      rw [inductionHypothesis later character member, eq_of_beq same]

theorem isCut_runs (text : Text) : IsCut (runs text) := by
  have nonempty : ∀ piece ∈ runs text, piece ≠ [] := fun _ => List.ne_nil_of_mem_splitBy
  have sameClass : ∀ piece ∈ runs text, ∀ character ∈ piece,
      isHeadlineCharacter character = isWord piece := by
    intro piece isPiece
    obtain ⟨first, rest, rfl⟩ := List.exists_cons_of_ne_nil (nonempty piece isPiece)
    have same := sameClass_of_isChain (List.isChain_of_mem_splitBy isPiece)
    rwa [isWord_eq_of_sameClass (List.cons_ne_nil first rest) same]
  refine ⟨nonempty, sameClass, (List.isChain_map isWord).mpr ?_⟩
  refine List.IsChain.imp_of_mem_imp ?_ (List.isChain_getLast_head_splitBy _ text)
  rintro left right isLeft isRight ⟨leftNonempty, rightNonempty, apart⟩
  rw [sameClass left isLeft _ (List.getLast_mem leftNonempty),
    sameClass right isRight _ (List.head_mem rightNonempty)] at apart
  exact beq_eq_false_iff_ne.mp apart

theorem runs_flatten {pieces : List Text} (cut : IsCut pieces) : runs pieces.flatten = pieces := by
  refine List.splitBy_flatten (fun member => cut.nonempty [] member rfl) ?_ ?_
  · intro piece isPiece
    refine (List.pairwise_of_forall_mem_list fun left isLeft right isRight => ?_).isChain
    rw [cut.sameClass piece isPiece left isLeft, cut.sameClass piece isPiece right isRight]
    exact beq_self_eq_true _
  · refine List.IsChain.imp_of_mem_imp ?_ ((List.isChain_map isWord).mp cut.apart)
    intro left right isLeft isRight apart
    refine ⟨cut.nonempty left isLeft, cut.nonempty right isRight, ?_⟩
    rw [cut.sameClass left isLeft _ (List.getLast_mem _),
      cut.sameClass right isRight _ (List.head_mem _)]
    exact beq_eq_false_iff_ne.mpr apart

theorem map_isWord_of_reread
    {placed : List PlacedRun} {again : List Text}
    (reread : List.Forall₂ Reread placed again) :
    again.map isWord = (placed.map PlacedRun.run).map isWord := by
  induction reread with
  | nil => rfl
  | cons here _ inductionHypothesis =>
      rw [List.map_cons, List.map_cons, List.map_cons, inductionHypothesis, here.isWord_eq]

theorem isCut_of_reread
    {placed : List PlacedRun} {again : List Text}
    (cut : IsCut (placed.map PlacedRun.run))
    (reread : List.Forall₂ Reread placed again) :
    IsCut again := by
  have apart := cut.apart
  rw [← map_isWord_of_reread reread] at apart
  have pieces : ∀ piece ∈ again, piece ≠ [] ∧
      ∀ character ∈ piece, isHeadlineCharacter character = isWord piece := by
    clear cut apart
    induction reread with
    | nil => exact fun _ member => nomatch member
    | cons here _ inductionHypothesis =>
        refine List.forall_mem_cons.mpr ⟨⟨here.nonempty, ?_⟩, inductionHypothesis⟩
        rw [here.isWord_eq]
        exact here.sameClass
  exact ⟨fun piece member => (pieces piece member).1, fun piece member => (pieces piece member).2,
    apart⟩

/-- The runs that are read again stand in the places of the runs that have been cast. -/
theorem placeRuns_reread
    {wordBefore : Bool} {gap : Text} {pieces again : List Text}
    (reread : List.Forall₂ Reread (placeRuns wordBefore gap pieces) again) :
    List.Forall₂ (fun placed later => later.forced = placed.forced ∧ Reread placed later.run)
      (placeRuns wordBefore gap pieces) (placeRuns wordBefore gap again) := by
  induction pieces generalizing wordBefore gap again with
  | nil =>
      cases reread
      exact List.Forall₂.nil
  | cons run rest inductionHypothesis =>
      cases word : isWord run with
      | true =>
          rw [placeRuns_cons_of_isWord word] at reread ⊢
          obtain ⟨runAgain, restAgain, here, later, rfl⟩ := List.forall₂_cons_left_iff.mp reread
          have sameAny : restAgain.any isWord = rest.any isWord := by
            have sameWords := congrArg (List.any · id) (map_isWord_of_reread later)
            rw [map_run_placeRuns] at sameWords
            simpa only [List.any_map, Function.id_comp] using sameWords
          rw [placeRuns_cons_of_isWord (here.isWord_eq.trans word), sameAny]
          exact List.Forall₂.cons ⟨rfl, here⟩ (inductionHypothesis later)
      | false =>
          rw [placeRuns_cons_of_not_isWord word] at reread ⊢
          obtain ⟨runAgain, restAgain, here, later, rfl⟩ := List.forall₂_cons_left_iff.mp reread
          obtain rfl := here.sameGap word
          rw [placeRuns_cons_of_not_isWord word]
          exact List.Forall₂.cons ⟨rfl, here⟩ (inductionHypothesis later)

/-- Every run keeps its length, so that the headline stays if and only if every run stays. -/
theorem flatMap_cast_eq_iff
    {placed later : List PlacedRun}
    (reread : List.Forall₂ (fun placed later =>
      later.forced = placed.forced ∧ Reread placed later.run) placed later) :
    later.flatMap PlacedRun.cast = placed.flatMap PlacedRun.cast ↔
      ∀ each ∈ placed, isWord each.run = true → isCapitalized each.forced each.run = true →
        KeepsCapital each.forced each.run := by
  induction reread with
  | nil => exact iff_of_true rfl fun _ member => nomatch member
  | @cons first firstLater rest restLater here _ inductionHypothesis =>
      obtain ⟨forced, run⟩ := firstLater
      obtain ⟨rfl, here⟩ := here
      rw [List.forall_mem_cons, ← inductionHypothesis, ← here.cast_eq_iff, List.flatMap_cons,
        List.flatMap_cons]
      refine ⟨fun same => List.append_inj same here.sameLength, ?_⟩
      rintro ⟨sameHere, sameLater⟩
      rw [sameHere, sameLater]

theorem exists_lowerCharacter_of_mem_cast
    {placed : PlacedRun} {character : Char}
    (small : IsSmall placed.run)
    (member : character ∈ placed.cast) :
    ∃ lowered, lowerCharacter character = [lowered] := by
  unfold PlacedRun.cast at member
  split at member
  · rcases castWord_cases placed.forced placed.run with
      ⟨special, isSpecial, _, _, cast⟩ | ⟨_, _, _, cast⟩ | ⟨_, _, cast⟩
    · rw [cast] at member
      exact ⟨_, lowerCharacter_of_mem_special isSpecial member⟩
    · rw [cast] at member
      exact ⟨character, small character member⟩
    · rw [cast] at member
      cases word : placed.run with
      | nil =>
          rw [word] at member
          cases member
      | cons first rest =>
          rw [word] at member small
          obtain ⟨smallFirst, smallRest⟩ := isSmall_cons.mp small
          obtain ⟨capital, smallForm, more, hasCapital⟩ := exists_hasCapital smallFirst
          rw [Text.capitalized, hasCapital.upper_eq, List.cons_append, List.mem_cons,
            List.mem_append] at member
          rcases member with rfl | inMore | inRest
          · exact ⟨smallForm, hasCapital.lower_eq⟩
          · exact (hasCapital.more_inWord character inMore).imp fun _ => And.left
          · exact ⟨character, smallRest character inRest⟩
  · exact ⟨character, small character member⟩

theorem exists_flatten_of_isLowered
    {whole : Text} {placed : List PlacedRun}
    (lowered : List.Forall₂ IsLowered whole (placed.flatMap PlacedRun.cast)) :
    ∃ again : List Text, whole = again.flatten ∧
      List.Forall₂ (fun each piece => List.Forall₂ IsLowered piece each.cast) placed again := by
  induction placed generalizing whole with
  | nil =>
      cases lowered
      exact ⟨[], rfl, List.Forall₂.nil⟩
  | cons first rest inductionHypothesis =>
      rw [List.flatMap_cons] at lowered
      obtain ⟨again, restWhole, restLowered⟩ :=
        inductionHypothesis (List.forall₂_drop_append _ _ _ lowered)
      refine ⟨whole.take first.cast.length :: again, ?_,
        List.Forall₂.cons (List.forall₂_take_append _ _ _ lowered) restLowered⟩
      rw [List.flatten_cons, ← restWhole, List.take_append_drop]

theorem isSmall_of_mem_runs
    {run : Text} (isRun : run ∈ runs text.lowercase) :
    IsSmall run := by
  intro letter inRun
  refine isSmall_lowercase text letter ?_
  rw [← List.flatten_splitBy _ text.lowercase]
  exact List.mem_flatten_of_mem isRun inRun

/-- The runs of a headline before they are cast. -/
def placedRuns (text : Text) : List PlacedRun :=
  placeRuns false [] (runs text.lowercase)

theorem cast_eq_flatMap (text : Text) :
    cast text = (placedRuns text).flatMap PlacedRun.cast :=
  castRuns_eq_flatMap ..

theorem map_run_placedRuns (text : Text) :
    (placedRuns text).map PlacedRun.run = runs text.lowercase :=
  map_run_placeRuns ..

theorem exists_reread (text : Text) :
    ∃ again : List Text, (cast text).lowercase = again.flatten ∧
      List.Forall₂ Reread (placedRuns text) again := by
  have cut := isCut_runs text.lowercase
  have mem_runs {placed : PlacedRun} (isPlaced : placed ∈ placedRuns text) :
      placed.run ∈ runs text.lowercase := by
    rw [← map_run_placedRuns]
    exact List.mem_map_of_mem isPlaced
  have lowered : List.Forall₂ IsLowered (cast text).lowercase
      ((placedRuns text).flatMap PlacedRun.cast) := by
    rw [← cast_eq_flatMap]
    refine forall₂_lowercaseFrom [] fun character member => ?_
    rw [cast_eq_flatMap, List.mem_flatMap] at member
    obtain ⟨placed, isPlaced, inCast⟩ := member
    exact exists_lowerCharacter_of_mem_cast (isSmall_of_mem_runs (mem_runs isPlaced)) inCast
  have facts : ∀ placed ∈ placedRuns text,
      IsSmall placed.run ∧ placed.run ≠ [] ∧
        ∀ character ∈ placed.run, isHeadlineCharacter character = isWord placed.run :=
    fun placed isPlaced => ⟨isSmall_of_mem_runs (mem_runs isPlaced),
      cut.nonempty _ (mem_runs isPlaced), cut.sameClass _ (mem_runs isPlaced)⟩
  obtain ⟨again, lowered_eq, loweredPieces⟩ := exists_flatten_of_isLowered lowered
  refine ⟨again, lowered_eq, ((List.forall₂_and_left _ _).mpr ⟨facts, loweredPieces⟩).imp ?_⟩
  rintro placed piece ⟨⟨isSmall, nonempty, sameClass⟩, loweredPiece⟩
  exact reread_of_isLowered isSmall nonempty sameClass loweredPiece

/-- The words of a headline before they are cast, each with whether it may not stay small. -/
def words (text : Text) : List PlacedRun :=
  (placedRuns text).filter (isWord ·.run)

theorem cast_cast_eq_iff (text : Text) :
    cast (cast text) = cast text ↔
      ∀ placed ∈ words text, isCapitalized placed.forced placed.run = true →
        KeepsCapital placed.forced placed.run := by
  obtain ⟨again, lowered_eq, reread⟩ := exists_reread text
  have cutAgain : IsCut again := by
    refine isCut_of_reread ?_ reread
    rw [map_run_placedRuns]
    exact isCut_runs text.lowercase
  have cast_again : cast (cast text) = (placeRuns false [] again).flatMap PlacedRun.cast := by
    rw [cast, castRuns_eq_flatMap, lowered_eq, runs_flatten cutAgain]
  rw [cast_again, cast_eq_flatMap]
  refine (flatMap_cast_eq_iff (placeRuns_reread reread)).trans ?_
  simp only [words, List.mem_filter, and_imp]
  rfl

/-- A word keeps its capital if the small form of the capital is the letter that it had. -/
theorem keepsCapital_of_lowerCharacter_eq
    {forced : Bool} {first capital : Char} {rest : Text}
    (upper_eq : upperCharacter first = [capital])
    (lower_eq : lowerCharacter capital = [first])
    (capitalized : isCapitalized forced (first :: rest) = true) :
    KeepsCapital forced (first :: rest) := by
  rw [KeepsCapital, upper_eq]
  refine ⟨fun _ member => (nomatch member), ?_⟩
  rwa [List.flatMap_singleton, lower_eq]

theorem cast_cast_of_ascii (ascii : ∀ character ∈ text, character.toNat < 0x80) :
    cast (cast text) = cast text := by
  refine (cast_cast_eq_iff text).mpr ?_
  rintro ⟨forced, run⟩ isPlaced capitalized
  have isRun : run ∈ runs (text.map Char.toLower) := by
    rw [← lowercase_of_ascii ascii, ← map_run_placedRuns]
    exact List.mem_map_of_mem (List.mem_of_mem_filter isPlaced)
  cases run with
  | nil => trivial
  | cons first rest =>
      have inLowered : first ∈ text.map Char.toLower := by
        rw [← List.flatten_splitBy _ (text.map Char.toLower)]
        exact List.mem_flatten_of_mem isRun List.mem_cons_self
      obtain ⟨letter, inText, rfl⟩ := List.mem_map.mp inLowered
      have mirrored : upperCharacter letter.toLower = [letter.toUpper] ∧
          lowerCharacter letter.toUpper = [letter.toLower] :=
        ascii_induction
          (fun other => upperCharacter other.toLower = [other.toUpper] ∧
            lowerCharacter other.toUpper = [other.toLower])
          (by decide +kernel) (ascii letter inText)
      exact keepsCapital_of_lowerCharacter_eq mirrored.1 mirrored.2 capitalized

end Headline

/-- Every transform but the headline leaves alone what it has made.  The headline does so exactly
if every word that takes a capital keeps it. -/
theorem Transform.apply_apply_eq_iff (transform : Transform) (text : Text) :
    transform.apply (transform.apply text) = transform.apply text ↔
      (transform = .title →
        ∀ placed ∈ Headline.words text,
          Headline.isCapitalized placed.forced placed.run = true →
            Headline.KeepsCapital placed.forced placed.run) := by
  cases transform with
  | title =>
      refine (Headline.cast_cast_eq_iff text).trans ⟨fun keeps _ => keeps, fun keeps => ?_⟩
      exact keeps rfl
  | capitalize => exact iff_of_true (Text.capitalized_capitalized text) (nomatch ·)
  | trim => exact iff_of_true (Text.trim_trim text) (nomatch ·)
  | trimLeft => exact iff_of_true (Text.trimLeft_trimLeft text) (nomatch ·)
  | trimRight => exact iff_of_true (Text.trimRight_trimRight text) (nomatch ·)
  | upper => exact iff_of_true (Text.uppercase_uppercase text) (nomatch ·)
  | lower => exact iff_of_true (Text.lowercase_lowercase text) (nomatch ·)

-- The long small `s` hides a special word from the first casting only.
example :
    Transform.title.apply "ſql".toList = "Sql".toList ∧
      Transform.title.apply (Transform.title.apply "ſql".toList) = "SQL".toList := by
  decide +kernel

/-- The capital of the ligature of `f` and `i` is two letters, and the second of them is lowered
when the headline is cast again. -/
theorem Transform.title_title_ligature :
    Transform.title.apply "ﬁx the bug".toList = "FIx the Bug".toList ∧
      Transform.title.apply (Transform.title.apply "ﬁx the bug".toList) =
        "Fix the Bug".toList := by
  decide +kernel

end TitleStamp
