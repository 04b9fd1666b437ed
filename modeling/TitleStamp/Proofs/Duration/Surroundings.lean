import TitleStamp.Proofs.Duration.Mentions

/-!
# Prose around a text

A number cannot begin in front of a text whose surroundings have no digits, unless a minus sign or
a point stands directly before the text.  Behind the text, only blanks, a point and letters could
go on with the last mention.  Other surroundings change none of the mentions.
-/

namespace TitleStamp

/-- Whether a character can go on with a mention that needs no more digits. -/
def continuesMention (character : Char) : Bool :=
  isBlank character || character = '.' || isLetterUpToCase character

/-! ## Separators -/

section Separators

variable {before after : Text}

theorem dropSeparators_digitFree_append
    (digitFree : ∀ character ∈ before, character.isDigit = false) (rest : Text) :
    dropSeparators (before ++ rest) = before ++ dropSeparators rest := by
  induction before with
  | nil => rfl
  | cons character before inductionHypothesis =>
      obtain ⟨notDigit, others⟩ := List.forall_mem_cons.mp digitFree
      rw [List.cons_append, dropSeparators_cons, inductionHypothesis others, List.cons_append]
      rintro _ _ _ _ ⟨isDigit, _⟩
      rw [notDigit] at isDigit
      cases isDigit

theorem dropSeparators_append_digitFree
    (digitFree : ∀ character ∈ after, character.isDigit = false) (text : Text) :
    dropSeparators (text ++ after) = dropSeparators text ++ after := by
  have afterKept : dropSeparators after = after := by
    simpa [dropSeparators] using dropSeparators_digitFree_append digitFree []
  have firstKept {left : Char} {rest : Text}
      (rightBehind : ∀ separator right others,
        rest = separator :: right :: others → right ∈ after) :
      dropSeparators (left :: rest) = left :: dropSeparators rest := by
    refine dropSeparators_cons ?_
    rintro separator right others isRest ⟨_, _, rightDigit⟩
    rw [digitFree right (rightBehind separator right others isRest)] at rightDigit
    cases rightDigit
  fun_induction dropSeparators text with
  | case1 left separator right rest separated inductionHypothesis =>
      obtain ⟨leftDigit, isSeparator, rightDigit⟩ := separated
      rw [List.cons_append, List.cons_append, List.cons_append,
        dropSeparators_separated leftDigit isSeparator rightDigit, inductionHypothesis]
      rfl
  | case2 left separator right rest notSeparated inductionHypothesis =>
      rw [List.cons_append, dropSeparators_cons, inductionHypothesis, List.cons_append]
      rintro _ _ _ ⟨rfl, rfl, rfl⟩
      exact notSeparated
  | case3 text short =>
      -- Fewer than three characters: a third one stands behind the text.
      rcases text with _ | ⟨left, _ | ⟨second, _ | ⟨right, rest⟩⟩⟩
      · exact afterKept
      · rw [List.singleton_append, firstKept, afterKept]
        rintro separator right others rfl
        simp
      · rw [List.cons_append, List.singleton_append, firstKept, firstKept, afterKept]
        · rintro separator right others rfl
          simp
        · rintro separator right others isRest
          simp [(List.cons.inj isRest).2]
      · exact absurd rfl (short left second right rest)

end Separators

namespace Mention

variable {before after text : Text}

theorem readUnsigned?_eq_none
    (noWhole : Text.StartsOutside Char.isDigit text)
    (noFraction : ∀ rest, text = '.' :: rest → Text.StartsOutside Char.isDigit rest) :
    readUnsigned? text = none := by
  have allLeft := Text.dropWhile_of_startsOutside noWhole
  suffices noMagnitude : readMagnitude? text = none by
    rw [readUnsigned?, noMagnitude, Option.map_none]
  by_cases isPoint : text.head? = some '.'
  · obtain ⟨rest, rfl⟩ := List.head?_eq_some_iff.mp isPoint
    rw [readMagnitude?_of_point allLeft, Text.takeWhile_of_startsOutside noWhole,
      Text.takeWhile_of_startsOutside (noFraction rest rfl), if_pos ⟨rfl, rfl⟩]
  · have noPoint : (text.dropWhile Char.isDigit).head? ≠ some '.' := by rwa [allLeft]
    rw [readMagnitude?_of_noPoint noPoint, Text.takeWhile_of_startsOutside noWhole, if_pos rfl]

/-! ## In front of a text -/

/-- Characters that are no digits start no number, unless a point ends them. -/
theorem readUnsigned?_digitFree_append
    (nonempty : before ≠ [])
    (digitFree : ∀ character ∈ before, character.isDigit = false)
    (noPoint : before.getLast? ≠ some '.') (rest : Text) :
    readUnsigned? (before ++ rest) = none := by
  obtain ⟨first, others, rfl⟩ := List.exists_cons_of_ne_nil nonempty
  obtain ⟨notDigit, othersDigitFree⟩ := List.forall_mem_cons.mp digitFree
  refine readUnsigned?_eq_none (Text.startsOutside_cons.mpr notDigit) ?_
  rintro afterPoint isPoint
  obtain ⟨rfl, rfl⟩ := List.cons.inj isPoint
  obtain ⟨second, more, rfl⟩ : ∃ second more, others = second :: more := by
    refine List.exists_cons_of_ne_nil ?_
    rintro rfl
    exact noPoint rfl
  exact Text.startsOutside_cons.mpr (othersDigitFree second List.mem_cons_self)

theorem readNumber?_digitFree_append
    (nonempty : before ≠ [])
    (digitFree : ∀ character ∈ before, character.isDigit = false)
    (noMinus : before.getLast? ≠ some '-') (noPoint : before.getLast? ≠ some '.')
    (rest : Text) :
    readNumber? (before ++ rest) = none := by
  obtain ⟨first, others, rfl⟩ := List.exists_cons_of_ne_nil nonempty
  by_cases isMinus : first = '-'
  · have othersNonempty : others ≠ [] := by
      rintro rfl
      exact noMinus (congrArg some isMinus)
    have noPointLast : others.getLast? ≠ some '.' := by
      rwa [List.getLast?_cons_of_ne_nil othersNonempty] at noPoint
    have unsigned := readUnsigned?_digitFree_append othersNonempty
      (List.forall_mem_cons.mp digitFree).2 noPointLast rest
    rw [isMinus, List.cons_append, readNumber?_minus, unsigned, Option.map_none]
  · have noMinusHere : (first :: others ++ rest).head? ≠ some '-' :=
      fun isFirst => isMinus (Option.some.inj isFirst)
    rw [readNumber?_of_noMinus noMinusHere,
      readUnsigned?_digitFree_append nonempty digitFree noPoint rest]

/-- The search passes over characters that are no digits, unless a minus sign or a point ends
them. -/
theorem collectFrom_digitFree_append
    (digitFree : ∀ character ∈ before, character.isDigit = false)
    (noMinus : before.getLast? ≠ some '-') (noPoint : before.getLast? ≠ some '.')
    (rest : Text) :
    collectFrom 0 (before ++ rest) = collectFrom 0 rest := by
  induction before with
  | nil => rfl
  | cons character before inductionHypothesis =>
      have nothingRead : read? (character :: before ++ rest) = none := by
        rw [read?, readNumber?_digitFree_append (List.cons_ne_nil _ _) digitFree noMinus noPoint,
          Option.map_none]
      have skipped :
          collectFrom 0 (character :: before ++ rest) = collectFrom 0 (before ++ rest) := by
        rw [List.cons_append] at nothingRead ⊢
        rw [collectFrom, nothingRead]
      rw [skipped]
      by_cases isLast : before = []
      · rw [isLast, List.nil_append]
      · rw [List.getLast?_cons_of_ne_nil isLast] at noMinus noPoint
        exact inductionHypothesis (List.forall_mem_cons.mp digitFree).2 noMinus noPoint

/-! ## Behind a text -/

private theorem readNumber?_of_digitFree
    (digitFree : ∀ character ∈ text, character.isDigit = false) :
    readNumber? text = none := by
  have unsigned {source : Text}
      (sourceDigitFree : ∀ character ∈ source, character.isDigit = false) :
      readUnsigned? source = none := by
    refine readUnsigned?_eq_none (Text.startsOutside_of_forall sourceDigitFree) ?_
    rintro rest rfl
    exact Text.startsOutside_of_forall (List.forall_mem_cons.mp sourceDigitFree).2
  by_cases isMinus : text.head? = some '-'
  · obtain ⟨rest, rfl⟩ := List.head?_eq_some_iff.mp isMinus
    rw [readNumber?_minus, unsigned (List.forall_mem_cons.mp digitFree).2, Option.map_none]
  · rw [readNumber?_of_noMinus isMinus, unsigned digitFree]

/-- A text without digits mentions nothing. -/
theorem collectFrom_of_digitFree
    (digitFree : ∀ character ∈ text, character.isDigit = false) (covered : Nat) :
    collectFrom covered text = [] := by
  induction text generalizing covered with
  | nil => cases covered <;> rfl
  | cons character rest inductionHypothesis =>
      have later := inductionHypothesis (List.forall_mem_cons.mp digitFree).2
      cases covered with
      | succ covered => exact later covered
      | zero => rw [collectFrom, read?, readNumber?_of_digitFree digitFree, Option.map_none, later]

section Behind

variable (digitFree : ∀ character ∈ after, character.isDigit = false)
  (stops : Text.StartsOutside continuesMention after)

include digitFree stops

private theorem startsOutside_continuesNumeral :
    Text.StartsOutside Text.continuesNumeral after := by
  intro character isFirst
  have notDigit := digitFree character (List.mem_of_mem_head? isFirst)
  have outside := stops character isFirst
  have notE : character ≠ 'e' ∧ character ≠ 'E' := by
    constructor <;> rintro rfl <;> exact absurd outside (by decide)
  have notPoint : character ≠ '.' := by
    rintro rfl
    exact absurd outside (by decide)
  simp [Text.continuesNumeral, notDigit, notE, notPoint]

private theorem readMagnitude?_append_stopped (text : Text) :
    readMagnitude? (text ++ after) = readMagnitude? text := by
  have noDigit := Text.startsOutside_of_forall digitFree
  have whole := Text.takeWhile_append_stopped text noDigit
  have afterWhole := Text.dropWhile_append_stopped text noDigit
  by_cases isPoint : (text.dropWhile Char.isDigit).head? = some '.'
  · obtain ⟨rest, split⟩ := List.head?_eq_some_iff.mp isPoint
    rw [split, List.cons_append] at afterWhole
    rw [readMagnitude?_of_point afterWhole, readMagnitude?_of_point split, whole,
      Text.takeWhile_append_stopped rest noDigit]
  · have noPoint : ((text ++ after).dropWhile Char.isDigit).head? ≠ some '.' := by
      rw [afterWhole, List.head?_append]
      intro found
      rcases Option.or_eq_some_iff.mp found with within | ⟨_, behind⟩
      · exact isPoint within
      · exact absurd (stops '.' behind) (by decide)
    rw [readMagnitude?_of_noPoint noPoint, readMagnitude?_of_noPoint isPoint, whole]

private theorem readExponent_append_stopped (text : Text) :
    readExponent (text ++ after) = readExponent text := by
  have noDigit := Text.startsOutside_of_forall digitFree
  match text with
  | [] => exact readExponent_of_startsOutside (startsOutside_continuesNumeral digitFree stops)
  | [marker] =>
      cases after with
      | nil => rfl
      | cons sign digits =>
          have noDigits := Text.startsOutside_of_forall (List.forall_mem_cons.mp digitFree).2
          simp only [List.singleton_append, readExponent, Text.takeWhile_of_startsOutside noDigit,
            Text.takeWhile_of_startsOutside noDigits, ite_self]
  | marker :: sign :: digits =>
      have unsigned := Text.takeWhile_append_stopped (sign :: digits) noDigit
      rw [List.cons_append] at unsigned
      simp only [List.cons_append, readExponent, Text.takeWhile_append_stopped digits noDigit,
        unsigned]

private theorem readNumber?_append_stopped (text : Text) :
    readNumber? (text ++ after) = readNumber? text := by
  have unsigned (source : Text) : readUnsigned? (source ++ after) = readUnsigned? source := by
    rw [readUnsigned?, readUnsigned?, readMagnitude?_append_stopped digitFree stops]
    cases found : readMagnitude? source with
    | none => rfl
    | some magnitude =>
        have within := (readMagnitude?_isPrefix found).length_le
        rw [Option.map_some, Option.map_some, List.drop_append_of_le_length within,
          readExponent_append_stopped digitFree stops]
  cases text with
  | nil => exact readNumber?_of_digitFree digitFree
  | cons first rest =>
      by_cases isMinus : first = '-'
      · rw [isMinus, List.cons_append, readNumber?_minus, readNumber?_minus, unsigned]
      · have noMinus (others : Text) : (first :: others).head? ≠ some '-' :=
          fun isFirst => isMinus (Option.some.inj isFirst)
        rw [readNumber?_of_noMinus (noMinus rest), ← unsigned]
        exact readNumber?_of_noMinus (noMinus (rest ++ after))

private theorem read?_append_stopped (text : Text) : read? (text ++ after) = read? text := by
  have noBlank : Text.StartsOutside isBlank after := fun character isFirst =>
    (Bool.or_eq_false_iff.mp (Bool.or_eq_false_iff.mp (stops character isFirst)).1).1
  have noLetter : Text.StartsOutside isLetterUpToCase after := fun character isFirst =>
    (Bool.or_eq_false_iff.mp (stops character isFirst)).2
  rw [read?, read?, readNumber?_append_stopped digitFree stops]
  cases found : readNumber? text with
  | none => rfl
  | some number =>
      have within := (readNumber?_isPrefix found).length_le
      simp only [Option.map_some, List.drop_append_of_le_length within,
        Text.takeWhile_append_stopped _ noBlank, Text.dropWhile_append_stopped _ noBlank,
        Text.takeWhile_append_stopped _ noLetter]

/-- What neither holds digits nor goes on with a mention adds nothing behind a text. -/
theorem collectFrom_append_stopped (text : Text) (covered : Nat) :
    collectFrom covered (text ++ after) = collectFrom covered text := by
  induction text generalizing covered with
  | nil =>
      rw [List.nil_append, collectFrom_of_digitFree digitFree]
      cases covered <;> rfl
  | cons character rest inductionHypothesis =>
      cases covered with
      | succ covered => exact inductionHypothesis covered
      | zero =>
          have sameMention := read?_append_stopped digitFree stops (character :: rest)
          rw [List.cons_append] at sameMention ⊢
          rw [collectFrom, sameMention, collectFrom]
          cases read? (character :: rest) with
          | none => exact inductionHypothesis 0
          | some mention =>
              dsimp only
              rw [inductionHypothesis]

end Behind

end Mention

/-- Prose without digits around a text does not change its sum, if it neither ends in a minus sign
or a point in front of the text nor goes on with a mention behind the text. -/
theorem parse?_surrounded
    {before after : Text}
    (beforeDigitFree : ∀ character ∈ before, character.isDigit = false)
    (noMinus : before.getLast? ≠ some '-') (noPoint : before.getLast? ≠ some '.')
    (afterDigitFree : ∀ character ∈ after, character.isDigit = false)
    (stops : Text.StartsOutside continuesMention after) (text : Text) :
    Duration.parse? (before ++ text ++ after) = Duration.parse? text := by
  have separators :
      dropSeparators (before ++ text ++ after) = before ++ (dropSeparators text ++ after) := by
    rw [List.append_assoc, dropSeparators_digitFree_append beforeDigitFree,
      dropSeparators_append_digitFree afterDigitFree]
  have sameMentions :
      mentions (dropSeparators (before ++ text ++ after)) = mentions (dropSeparators text) := by
    rw [separators, mentions,
      Mention.collectFrom_digitFree_append beforeDigitFree noMinus noPoint,
      Mention.collectFrom_append_stopped afterDigitFree stops, mentions]
  rw [Duration.parse?, Duration.parse?, sameMentions]

/-- Minus signs, points and markers of exponents on both sides, and a number that ends the text. -/
theorem parse?_surrounded_range :
    let before : Text := "-. re-run (e".toList
    let text : Text := "-1,500ms 2.h 3".toList
    let after : Text := "-e. day)".toList
    (∀ character ∈ before, character.isDigit = false) ∧
      before.getLast? ≠ some '-' ∧ before.getLast? ≠ some '.' ∧
      (∀ character ∈ after, character.isDigit = false) ∧
      Text.StartsOutside continuesMention after ∧
      Duration.parse? (before ++ text ++ after) = Duration.parse? text := by
  intro before text after
  have beforeDigitFree : ∀ character ∈ before, character.isDigit = false := by decide
  have noMinus : before.getLast? ≠ some '-' := by decide
  have noPoint : before.getLast? ≠ some '.' := by decide
  have afterDigitFree : ∀ character ∈ after, character.isDigit = false := by decide
  have stops : Text.StartsOutside continuesMention after := by decide
  exact ⟨beforeDigitFree, noMinus, noPoint, afterDigitFree, stops,
    parse?_surrounded beforeDigitFree noMinus noPoint afterDigitFree stops text⟩

end TitleStamp
