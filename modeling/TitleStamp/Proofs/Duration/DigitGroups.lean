import TitleStamp.Proofs.Duration.Surroundings
import TitleStamp.Proofs.Json.Numbers
import TitleStamp.Proofs.Text.Replace

/-!
# Digits in groups

Separators may divide the digits of a number into groups.  One pass drops them, and a digit that it
has used up behind one separator does not count in front of the next.  So behind a group of a single
digit a separator can stay, and the number then begins anew.
-/

namespace TitleStamp

open Json (IsDigits)

def isDigitSeparator (character : Char) : Bool :=
  character = ',' || character = '_'

theorem isDigitSeparator_iff {character : Char} :
    isDigitSeparator character = true ↔ character = ',' ∨ character = '_' := by
  simp [isDigitSeparator]

theorem not_isDigitSeparator_of_isDigit {character : Char} (isDigit : character.isDigit = true) :
    isDigitSeparator character = false := by
  refine Bool.eq_false_iff.mpr fun isSeparator => ?_
  rcases isDigitSeparator_iff.mp isSeparator with rfl | rfl <;> exact absurd isDigit (by decide)

/-- A group of digits behind a separator. -/
structure SeparatedGroup where
  separator : Char
  digits : Text
  isSeparator : separator = ',' ∨ separator = '_'
  isDigits : IsDigits digits

/-- A whole numeral whose digits are divided into groups. -/
structure GroupedNumeral where
  first : Text
  rest : List SeparatedGroup
  isDigits : IsDigits first

namespace SeparatedGroup

def written (group : SeparatedGroup) : Text :=
  group.separator :: group.digits

/-- The digits in front of a unit, given the digits before the groups and whether the last of them
has been used up. -/
def countedFrom (run : Text) (used : Bool) : List SeparatedGroup → Text
  | [] => run
  | group :: rest =>
      if used then
        countedFrom group.digits false rest
      else
        countedFrom (run ++ group.digits) (group.digits.length = 1) rest

end SeparatedGroup

namespace GroupedNumeral

def written (numeral : GroupedNumeral) : Text :=
  numeral.first ++ numeral.rest.flatMap SeparatedGroup.written

def digits (numeral : GroupedNumeral) : Text :=
  numeral.first ++ numeral.rest.flatMap SeparatedGroup.digits

/-- The digits behind the last separator that is not dropped. -/
def counted (numeral : GroupedNumeral) : Text :=
  SeparatedGroup.countedFrom numeral.first false numeral.rest

end GroupedNumeral

/-! ## Names of units -/

private theorem exactUnitLength?_eq_none
    {first : Char} {rest : Text}
    (noName : ∀ entry ∈ unitNames, ∀ name ∈ entry.1, name.toList.head? ≠ some first) :
    exactUnitLength? (first :: rest) = none := by
  rw [exactUnitLength?, Option.map_eq_none_iff, List.find?_eq_none]
  intro entry listed found
  obtain ⟨name, isName, same⟩ := List.any_eq_true.mp found
  exact noName entry listed name isName (congrArg List.head? (of_decide_eq_true same))

private theorem unitLength?_of_separator
    {separator : Char} (isSeparator : separator = ',' ∨ separator = '_') (rest : Text) :
    unitLength? (separator :: rest) = none := by
  have noName {others : Text} : exactUnitLength? (separator :: others) = none := by
    rcases isSeparator with rfl | rfl <;> exact exactUnitLength?_eq_none (by decide +kernel)
  have lower :
      Text.lowercase (separator :: rest) = separator :: lowercaseFrom [separator] rest := by
    rcases isSeparator with rfl | rfl <;> rfl
  rw [unitLength?, lower]
  simp only [noName, Option.bind_eq_none_iff]
  intro singular found
  have split := Text.before?_eq_some_iff.mp found
  cases singular with
  | nil => rfl
  | cons first others =>
      rw [← (List.cons.inj split).1]
      exact noName

theorem startsOutside_isDigitSeparator_of_unit
    {word : Text} (named : unitLength? word ≠ none) :
    Text.StartsOutside isDigitSeparator word := by
  cases word with
  | nil => exact Text.startsOutside_nil
  | cons first rest =>
      refine Text.startsOutside_cons.mpr (Bool.eq_false_iff.mpr fun isSeparator => named ?_)
      exact unitLength?_of_separator (isDigitSeparator_iff.mp isSeparator) rest

/-! ## What one pass drops -/

variable {run : Text}

/-- A run of digits is kept up to its last digit, which a separator may follow. -/
theorem dropSeparators_run_append
    (areDigits : ∀ character ∈ run, character.isDigit = true) {rest : Text}
    (stops : Text.StartsOutside isDigitSeparator rest) :
    dropSeparators (run ++ rest) = run ++ dropSeparators rest := by
  induction run with
  | nil => rfl
  | cons left run inductionHypothesis =>
      obtain ⟨_, othersDigits⟩ := List.forall_mem_cons.mp areDigits
      have behind : Text.StartsOutside isDigitSeparator (run ++ rest) :=
        Text.startsOutside_append (Text.startsOutside_of_forall fun character member =>
          not_isDigitSeparator_of_isDigit (othersDigits character member)) stops
      rw [List.cons_append, dropSeparators_cons, inductionHypothesis othersDigits, List.cons_append]
      rintro separator right others isRest ⟨_, isSeparator, _⟩
      have outside := behind separator (by rw [isRest]; rfl)
      rw [isDigitSeparator_iff.mpr isSeparator] at outside
      cases outside

namespace SeparatedGroup

/-- A separator that a free digit precedes is dropped together with the digits around it. -/
theorem dropSeparators_run_written_append
    (isRun : IsDigits run) (group : SeparatedGroup) (rest : Text) :
    ∃ first others, group.digits = first :: others ∧
      dropSeparators (run ++ (group.written ++ rest)) =
        run ++ first :: dropSeparators (others ++ rest) := by
  obtain ⟨first, others, isGroup⟩ := List.exists_cons_of_ne_nil group.isDigits.nonempty
  refine ⟨first, others, isGroup, ?_⟩
  have firstDigit : first.isDigit = true := group.isDigits.areDigits first (by simp [isGroup])
  obtain ⟨front, last, rfl⟩ : ∃ front last, run = front ++ [last] :=
    ⟨_, _, (List.dropLast_concat_getLast isRun.nonempty).symm⟩
  obtain ⟨frontDigits, lastDigit⟩ := List.forall_mem_append.mp isRun.areDigits
  have lastIsDigit := lastDigit last List.mem_cons_self
  have stops : Text.StartsOutside isDigitSeparator ([last] ++ (group.written ++ rest)) :=
    Text.startsOutside_cons.mpr (not_isDigitSeparator_of_isDigit lastIsDigit)
  rw [List.append_assoc, dropSeparators_run_append frontDigits stops, written, isGroup,
    List.append_assoc]
  exact congrArg _ (dropSeparators_separated lastIsDigit group.isSeparator firstDigit _)

end SeparatedGroup

/-! ## What is counted -/

/-- The durations that the mentions of a text contribute. -/
def contributions (text : Text) : List Double :=
  (mentions text).filterMap Mention.millis?

/-- A numeral in front of a separator has no unit. -/
theorem contributions_run_separator
    (isRun : IsDigits run) {separator : Char} (isSeparator : separator = ',' ∨ separator = '_')
    (rest : Text) :
    contributions (run ++ separator :: rest) = contributions rest := by
  have outside {inClass : Char → Bool}
      (comma : inClass ',' = false) (underscore : inClass '_' = false) :
      Text.StartsOutside inClass (separator :: rest) := by
    rcases isSeparator with rfl | rfl
    · exact Text.startsOutside_cons.mpr comma
    · exact Text.startsOutside_cons.mpr underscore
  have found := @Mention.read?_append run (separator :: rest) [] [] false isRun.nonempty
    isRun.areDigits (outside rfl rfl) (by simp) (outside (by decide) (by decide)) (by simp)
    (outside (by decide) (by decide))
  have source : (Mention.mk run [] []).source = run := by
    simp [Mention.source]
  have passed : Mention.collectFrom 0 (separator :: rest) = Mention.collectFrom 0 rest := by
    refine @Mention.collectFrom_digitFree_append [separator] ?_ ?_ ?_ rest <;>
      rcases isSeparator with rfl | rfl <;> decide
  have collected :=
    @Mention.collectFrom_append (separator :: rest) ⟨run, [], []⟩
      (by rw [source]; exact isRun.nonempty) (by rw [source]; exact found)
  rw [source, passed] at collected
  have noUnit : (Mention.mk run [] []).millis? = none := by
    have unnamed : unitLength? [] = none := by decide +kernel
    rw [Mention.millis?, unnamed]
  rw [contributions, mentions, collected, List.filterMap_cons_none noUnit, contributions, mentions]

namespace SeparatedGroup

/-- The pass along the groups, either before it has taken up the last digit of the run in front of
them or behind it. -/
private theorem contributions_groups
    {word : Text} (stops : Text.StartsOutside isDigitSeparator word)
    (isRun : IsDigits run) (used : Bool) (groups : List SeparatedGroup) :
    contributions
        (if used then run ++ dropSeparators (groups.flatMap written ++ word)
        else dropSeparators (run ++ (groups.flatMap written ++ word))) =
      contributions (countedFrom run used groups ++ dropSeparators word) := by
  induction groups generalizing run used with
  | nil =>
      cases used with
      | true => rfl
      | false =>
          rw [if_neg Bool.false_ne_true, List.flatMap_nil, List.nil_append,
            dropSeparators_run_append isRun.areDigits stops, countedFrom]
  | cons group rest inductionHypothesis =>
      rw [List.flatMap_cons, List.append_assoc]
      generalize isBehind : rest.flatMap written ++ word = behind at inductionHypothesis ⊢
      cases used with
      | true =>
          have kept :
              dropSeparators (group.written ++ behind) =
                group.separator :: dropSeparators (group.digits ++ behind) := by
            refine dropSeparators_cons ?_
            rintro _ _ _ _ ⟨isDigit, _⟩
            rcases group.isSeparator with same | same <;> rw [same] at isDigit <;> cases isDigit
          have later := inductionHypothesis group.isDigits false
          rw [if_neg Bool.false_ne_true] at later
          rw [if_pos rfl, kept, contributions_run_separator isRun group.isSeparator, later,
            countedFrom, if_pos rfl]
      | false =>
          obtain ⟨first, others, isGroup, dropped⟩ :=
            dropSeparators_run_written_append isRun group behind
          have isLonger : IsDigits (run ++ group.digits) :=
            ⟨List.append_ne_nil_of_left_ne_nil isRun.nonempty _,
              List.forall_mem_append.mpr ⟨isRun.areDigits, group.isDigits.areDigits⟩⟩
          have later := inductionHypothesis isLonger (group.digits.length = 1)
          rw [if_neg Bool.false_ne_true, dropped, countedFrom, if_neg Bool.false_ne_true, ← later]
          have groupDigits := group.isDigits.areDigits
          rw [isGroup] at groupDigits ⊢
          cases others with
          | nil =>
              have single : decide ([first].length = 1) = true := rfl
              rw [if_pos single, List.append_assoc, List.singleton_append, List.nil_append]
          | cons second more =>
              obtain ⟨firstDigit, moreDigits⟩ := List.forall_mem_cons.mp groupDigits
              have usedDigits : ∀ character ∈ run ++ [first], character.isDigit = true :=
                List.forall_mem_append.mpr ⟨isRun.areDigits, by simpa using firstDigit⟩
              have stopsBehind : Text.StartsOutside isDigitSeparator (second :: more ++ behind) :=
                Text.startsOutside_cons.mpr
                  (not_isDigitSeparator_of_isDigit (moreDigits second List.mem_cons_self))
              have split :
                  run ++ first :: second :: more ++ behind =
                    (run ++ [first]) ++ (second :: more ++ behind) := by
                simp
              rw [if_neg (by simp), split, dropSeparators_run_append usedDigits stopsBehind,
                List.append_assoc, List.singleton_append]

private theorem length_countedFrom_le (run : Text) (used : Bool) (groups : List SeparatedGroup) :
    (countedFrom run used groups).length ≤ (run ++ groups.flatMap digits).length := by
  induction groups generalizing run used with
  | nil => simp [countedFrom]
  | cons group rest inductionHypothesis =>
      rw [countedFrom, List.flatMap_cons]
      split
      · have later := inductionHypothesis group.digits false
        rw [List.length_append]
        omega
      · rw [← List.append_assoc]
        exact inductionHypothesis _ _

/-- No digit is lost exactly if every group in front of the last one has another digit behind the
one that is used up. -/
private theorem countedFrom_eq_iff
    (nonempty : run ≠ []) (used : Bool) (groups : List SeparatedGroup) :
    countedFrom run used groups = run ++ groups.flatMap digits ↔
      (used = true → groups = []) ∧ ∀ group ∈ groups.dropLast, 2 ≤ group.digits.length := by
  induction groups generalizing run used with
  | nil => simp [countedFrom]
  | cons group rest inductionHypothesis =>
      have groupNonempty := List.length_pos_iff.mpr group.isDigits.nonempty
      cases used with
      | true =>
          rw [countedFrom, if_pos rfl]
          refine iff_of_false (fun same => ?_) (fun both => List.cons_ne_nil _ _ (both.1 rfl))
          have shorter := length_countedFrom_le group.digits false rest
          have positive := List.length_pos_iff.mpr nonempty
          rw [same, List.flatMap_cons, List.length_append, List.length_append] at shorter
          omega
      | false =>
          have longer := @inductionHypothesis (run ++ group.digits)
            (List.append_ne_nil_of_left_ne_nil nonempty _) (group.digits.length = 1)
          rw [countedFrom, if_neg Bool.false_ne_true, List.flatMap_cons, ← List.append_assoc,
            longer]
          cases rest with
          | nil => simp
          | cons next others =>
              rw [List.dropLast_cons_cons, List.forall_mem_cons]
              simp only [decide_eq_true_eq, reduceCtorEq, imp_false, Bool.false_eq_true,
                not_false_eq_true, true_and]
              exact and_congr_left fun _ => by omega

private theorem isDigits_countedFrom
    (isRun : IsDigits run) (used : Bool) (groups : List SeparatedGroup) :
    IsDigits (countedFrom run used groups) := by
  induction groups generalizing run used with
  | nil => exact isRun
  | cons group rest inductionHypothesis =>
      rw [countedFrom]
      split
      · exact inductionHypothesis group.isDigits false
      · exact inductionHypothesis
          ⟨List.append_ne_nil_of_left_ne_nil isRun.nonempty _,
            List.forall_mem_append.mpr ⟨isRun.areDigits, group.isDigits.areDigits⟩⟩ _

end SeparatedGroup

/-- A numeral in groups counts from the last separator on that stays.  None stays exactly if every
group between the first and the last has at least two digits. -/
theorem parse?_groupedNumeral
    (numeral : GroupedNumeral) {word : Text} (named : unitLength? word ≠ none) :
    Duration.parse? (numeral.written ++ word) = Duration.parse? (numeral.counted ++ word) ∧
      (numeral.counted = numeral.digits ↔
        ∀ group ∈ numeral.rest.dropLast, 2 ≤ group.digits.length) := by
  have stops := startsOutside_isDigitSeparator_of_unit named
  have areCounted : IsDigits numeral.counted :=
    SeparatedGroup.isDigits_countedFrom numeral.isDigits false numeral.rest
  constructor
  · have sameContributions :
        contributions (dropSeparators (numeral.written ++ word)) =
          contributions (dropSeparators (numeral.counted ++ word)) := by
      have groups := SeparatedGroup.contributions_groups stops numeral.isDigits false numeral.rest
      rw [if_neg Bool.false_ne_true] at groups
      rw [GroupedNumeral.written, List.append_assoc, groups,
        dropSeparators_run_append areCounted.areDigits stops, GroupedNumeral.counted]
    unfold contributions at sameContributions
    rw [Duration.parse?, Duration.parse?, sameContributions]
  · rw [GroupedNumeral.counted, GroupedNumeral.digits,
      SeparatedGroup.countedFrom_eq_iff numeral.isDigits.nonempty]
    exact and_iff_right fun isUsed => absurd isUsed Bool.false_ne_true

/-- A lone zero between two separators cuts off the digits in front of it. -/
theorem parse?_groupedNumeral_lone_digit :
    let numeral : GroupedNumeral :=
      { first := "20".toList
        rest :=
          [⟨',', "0".toList, Or.inl rfl, ⟨by decide, by decide⟩⟩,
            ⟨'_', "05".toList, Or.inr rfl, ⟨by decide, by decide⟩⟩,
            ⟨',', "670".toList, Or.inl rfl, ⟨by decide, by decide⟩⟩]
        isDigits := ⟨by decide, by decide⟩ }
    let word : Text := "Mins".toList
    numeral.written ++ word = "20,0_05,670Mins".toList ∧ numeral.counted = "05670".toList ∧
      unitLength? word ≠ none ∧
      Duration.parse? (numeral.written ++ word) = Duration.parse? (numeral.counted ++ word) ∧
      (numeral.counted = numeral.digits ↔
        ∀ group ∈ numeral.rest.dropLast, 2 ≤ group.digits.length) := by
  intro numeral word
  have named : unitLength? word ≠ none := by decide +kernel
  exact ⟨rfl, rfl, named, parse?_groupedNumeral numeral named⟩

/-- Of three groups of one digit only the last counts. -/
theorem parse?_lone_digits :
    (Duration.parse? "1,2,3h".toList).map Duration.millis = some (3 * 3600000) ∧
      (Duration.parse? "123h".toList).map Duration.millis = some (123 * 3600000) := by
  decide +kernel

end TitleStamp
