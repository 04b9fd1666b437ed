import TitleStamp.Duration.Mention
import TitleStamp.Proofs.Text.Runs

/-!
# Finding mentions

A whole numeral, blanks and a word are found as one mention, if what follows each of them does not
go on with it.  The text after a mention is then searched as if it stood alone.
-/

namespace TitleStamp

theorem not_isLetterUpToCase_of_isDigit
    {character : Char} (isDigit : character.isDigit = true) :
    isLetterUpToCase character = false := by
  have bounds : '0'.val ≤ character.val ∧ character.val ≤ '9'.val := by
    simpa only [Char.isDigit, Bool.and_eq_true, decide_eq_true_eq] using isDigit
  have below {letter : Char} (above : '9'.val < letter.val) : ¬letter.val ≤ character.val :=
    UInt32.not_le.mpr (UInt32.lt_of_le_of_lt bounds.2 above)
  have notUpper : character.isUpper = false :=
    decide_eq_false fun upper => below (by decide) upper.1
  have notLower : character.isLower = false :=
    Bool.and_eq_false_imp.mpr fun lower => absurd (of_decide_eq_true lower) (below (by decide))
  have notAlpha : character.isAlpha = false :=
    Bool.or_eq_false_iff.mpr ⟨notUpper, notLower⟩
  have ascii : character.toNat < 0x80 :=
    Nat.lt_of_le_of_lt (UInt32.le_iff_toNat_le.mp bounds.2) (by decide)
  have notIota : character ≠ '\u0345' := by
    rintro rfl
    exact absurd ascii (by decide)
  rw [isLetterUpToCase, isLetter, if_pos ascii, notAlpha, decide_eq_false notIota]
  rfl

namespace Mention

variable {digits rest : Text}

theorem readMagnitude?_of_point
    {text : Text} (afterWhole : text.dropWhile Char.isDigit = '.' :: rest) :
    readMagnitude? text =
      if text.takeWhile Char.isDigit = [] ∧ rest.takeWhile Char.isDigit = [] then none
      else some (text.takeWhile Char.isDigit ++ '.' :: rest.takeWhile Char.isDigit) := by
  unfold readMagnitude?
  rw [afterWhole]
  split
  · rename_i isNil isPoint
    cases isPoint
    rw [isNil]
    cases fraction : rest.takeWhile Char.isDigit with
    | nil => rfl
    | cons digit digits => exact (if_neg fun empty => List.cons_ne_nil _ _ empty.2).symm
  · rename_i noPoint
    exact absurd rfl (noPoint rest)
  · rename_i isPoint nonempty
    cases isPoint
    rw [if_neg fun empty => nonempty empty.1]
  · rename_i noPoint _
    exact absurd rfl (noPoint rest)

theorem readMagnitude?_of_noPoint
    {text : Text} (noPoint : (text.dropWhile Char.isDigit).head? ≠ some '.') :
    readMagnitude? text =
      if text.takeWhile Char.isDigit = [] then none else some (text.takeWhile Char.isDigit) := by
  unfold readMagnitude?
  split
  · rename_i isPoint
    rw [isPoint] at noPoint
    exact absurd rfl noPoint
  · rename_i isNil _
    rw [if_pos isNil]
  · rename_i isPoint _
    rw [isPoint] at noPoint
    exact absurd rfl noPoint
  · rename_i nonempty _ _
    rw [if_neg nonempty]

theorem readNumber?_minus (rest : Text) :
    readNumber? ('-' :: rest) = (readUnsigned? rest).map ('-' :: ·) :=
  rfl

theorem readNumber?_of_noMinus {text : Text} (noMinus : text.head? ≠ some '-') :
    readNumber? text = readUnsigned? text := by
  unfold readNumber?
  split
  · exact absurd rfl noMinus
  · rfl

theorem readMagnitude?_isPrefix
    {text magnitude : Text} (read : readMagnitude? text = some magnitude) :
    magnitude <+: text := by
  have whole : text.takeWhile Char.isDigit ++ text.dropWhile Char.isDigit = text :=
    List.takeWhile_append_dropWhile
  by_cases isPoint : (text.dropWhile Char.isDigit).head? = some '.'
  · obtain ⟨rest, afterWhole⟩ := List.head?_eq_some_iff.mp isPoint
    rw [readMagnitude?_of_point afterWhole] at read
    split at read
    · cases read
    · cases read
      rw [afterWhole] at whole
      conv => rhs; rw [← whole]
      exact (List.prefix_append_right_inj _).mpr
        ((List.prefix_cons_inj '.').mpr (List.takeWhile_prefix _))
  · rw [readMagnitude?_of_noPoint isPoint] at read
    split at read
    · cases read
    · cases read
      exact List.takeWhile_prefix _

theorem readExponent_isPrefix (text : Text) : readExponent text <+: text := by
  have digits_isPrefix (digits : Text) : digits.takeWhile Char.isDigit <+: digits :=
    List.takeWhile_prefix _
  unfold readExponent
  split
  · exact List.prefix_rfl
  · rename_i marker rest
    split
    · split
      · exact List.nil_prefix
      · rename_i sign digits
        split
        · split
          · exact List.nil_prefix
          · exact (List.prefix_cons_inj marker).mpr
              ((List.prefix_cons_inj sign).mpr (digits_isPrefix digits))
        · split
          · exact List.nil_prefix
          · exact (List.prefix_cons_inj marker).mpr (digits_isPrefix (sign :: digits))
    · exact List.nil_prefix

theorem readNumber?_isPrefix
    {text number : Text} (read : readNumber? text = some number) :
    number <+: text := by
  have unsigned_isPrefix {source unsigned : Text}
      (found : readUnsigned? source = some unsigned) : unsigned <+: source := by
    obtain ⟨magnitude, magnitudeRead, rfl⟩ := Option.map_eq_some_iff.mp found
    obtain ⟨others, rfl⟩ := readMagnitude?_isPrefix magnitudeRead
    rw [List.drop_left]
    exact (List.prefix_append_right_inj magnitude).mpr (readExponent_isPrefix others)
  by_cases isMinus : text.head? = some '-'
  · obtain ⟨others, rfl⟩ := List.head?_eq_some_iff.mp isMinus
    obtain ⟨unsigned, found, rfl⟩ := Option.map_eq_some_iff.mp read
    exact (List.prefix_cons_inj '-').mpr (unsigned_isPrefix found)
  · rw [readNumber?_of_noMinus isMinus] at read
    exact unsigned_isPrefix read

private theorem readMagnitude?_digits_append
    (nonempty : digits ≠ [])
    (areDigits : ∀ character ∈ digits, character.isDigit = true)
    (stops : Text.StartsOutside Text.continuesNumeral rest) :
    readMagnitude? (digits ++ rest) = some digits := by
  have noDigit := Text.startsOutside_isDigit_of_continuesNumeral stops
  have noPoint : ((digits ++ rest).dropWhile Char.isDigit).head? ≠ some '.' := by
    rw [Text.dropWhile_append_of_startsOutside areDigits noDigit]
    intro isPoint
    exact absurd (stops '.' isPoint) (by decide)
  rw [readMagnitude?_of_noPoint noPoint,
    Text.takeWhile_append_of_startsOutside areDigits noDigit, if_neg nonempty]

theorem readExponent_of_startsOutside
    (stops : Text.StartsOutside Text.continuesNumeral rest) :
    readExponent rest = [] := by
  cases rest with
  | nil => rfl
  | cons marker others =>
      have outside := Text.startsOutside_cons.mp stops
      simp only [Text.continuesNumeral, Bool.or_eq_false_iff, decide_eq_false_iff_not] at outside
      unfold readExponent
      exact if_neg (not_or.mpr ⟨outside.1.2, outside.2⟩)

theorem readNumber?_digits_append
    (negative : Bool)
    (nonempty : digits ≠ [])
    (areDigits : ∀ character ∈ digits, character.isDigit = true)
    (stops : Text.StartsOutside Text.continuesNumeral rest) :
    readNumber? ((if negative then '-' :: digits else digits) ++ rest) =
      some (if negative then '-' :: digits else digits) := by
  have unsigned : readUnsigned? (digits ++ rest) = some digits := by
    rw [readUnsigned?, readMagnitude?_digits_append nonempty areDigits stops, Option.map_some,
      List.drop_left, readExponent_of_startsOutside stops, List.append_nil]
  cases negative with
  | true =>
      simp [readNumber?, unsigned]
  | false =>
      rw [if_neg Bool.false_ne_true]
      unfold readNumber?
      split
      · rename_i afterMinus minus
        obtain ⟨first, others, rfl⟩ := List.exists_cons_of_ne_nil nonempty
        have isMinus : first = '-' := (List.cons.inj minus).1
        exact absurd (areDigits first List.mem_cons_self) (by rw [isMinus]; decide)
      · exact unsigned

/-- A text with the parts of a mention at its start. -/
theorem read?_append
    {blanks word : Text}
    (negative : Bool)
    (nonempty : digits ≠ [])
    (areDigits : ∀ character ∈ digits, character.isDigit = true)
    (numeralStops : Text.StartsOutside Text.continuesNumeral (blanks ++ (word ++ rest)))
    (areBlanks : ∀ character ∈ blanks, isBlank character = true)
    (blanksStop : Text.StartsOutside isBlank (word ++ rest))
    (areLetters : ∀ character ∈ word, isLetterUpToCase character = true)
    (wordStops : Text.StartsOutside isLetterUpToCase rest) :
    read? ((if negative then '-' :: digits else digits) ++ (blanks ++ (word ++ rest))) =
      some ⟨if negative then '-' :: digits else digits, blanks, word⟩ := by
  rw [read?, readNumber?_digits_append negative nonempty areDigits numeralStops, Option.map_some,
    List.drop_left]
  dsimp only
  rw [Text.takeWhile_append_of_startsOutside areBlanks blanksStop,
    Text.dropWhile_append_of_startsOutside areBlanks blanksStop,
    Text.takeWhile_append_of_startsOutside areLetters wordStops]

theorem collectFrom_covered (covered rest : Text) :
    collectFrom covered.length (covered ++ rest) = collectFrom 0 rest := by
  induction covered with
  | nil => rfl
  | cons character covered inductionHypothesis =>
      rw [List.length_cons, List.cons_append, collectFrom, inductionHypothesis]

/-- A mention is collected and the search goes on behind it. -/
theorem collectFrom_append
    {mention : Mention}
    (nonempty : mention.source ≠ [])
    (found : read? (mention.source ++ rest) = some mention) :
    collectFrom 0 (mention.source ++ rest) = mention :: collectFrom 0 rest := by
  obtain ⟨first, others, isSource⟩ := List.exists_cons_of_ne_nil nonempty
  rw [isSource] at found ⊢
  rw [List.cons_append] at found ⊢
  rw [collectFrom, found]
  dsimp only
  rw [isSource, List.length_cons, Nat.add_sub_cancel, collectFrom_covered]

/-- A mention is read somewhere in the text. -/
theorem exists_read?_of_mem_collectFrom
    {covered : Nat} {text : Text} {mention : Mention}
    (member : mention ∈ collectFrom covered text) :
    ∃ source, source <:+ text ∧ read? source = some mention := by
  induction text generalizing covered with
  | nil =>
      cases covered <;> cases member
  | cons character rest inductionHypothesis =>
      have later {covered : Nat} (member : mention ∈ collectFrom covered rest) :
          ∃ source, source <:+ character :: rest ∧ read? source = some mention := by
        obtain ⟨source, isSuffix, read⟩ := inductionHypothesis member
        exact ⟨source, isSuffix.trans (List.suffix_cons character rest), read⟩
      cases covered with
      | succ covered => exact later member
      | zero =>
          unfold collectFrom at member
          split at member
          · rename_i first read
            rcases List.mem_cons.mp member with same | inRest
            · exact ⟨character :: rest, List.suffix_rfl, same ▸ read⟩
            · exact later inRest
          · exact later member

end Mention

/-! ## Separators between digits -/

/-- The first character stays if no separator between two digits follows it. -/
theorem dropSeparators_cons
    {left : Char} {rest : Text}
    (kept : ∀ separator right others, rest = separator :: right :: others →
      ¬(left.isDigit ∧ (separator = ',' ∨ separator = '_') ∧ right.isDigit)) :
    dropSeparators (left :: rest) = left :: dropSeparators rest := by
  match rest with
  | [] => rfl
  | [_] => rfl
  | separator :: right :: others =>
      rw [dropSeparators, if_neg (kept separator right others rfl)]

theorem dropSeparators_separated
    {left separator right : Char} (leftDigit : left.isDigit = true)
    (isSeparator : separator = ',' ∨ separator = '_') (rightDigit : right.isDigit = true)
    (rest : Text) :
    dropSeparators (left :: separator :: right :: rest) = left :: right :: dropSeparators rest := by
  rw [dropSeparators, if_pos ⟨leftDigit, isSeparator, rightDigit⟩]

theorem dropSeparators_subset (text : Text) : dropSeparators text ⊆ text := by
  fun_induction dropSeparators text with
  | case1 left separator right rest _ inductionHypothesis =>
      exact List.cons_subset_cons _ (List.Subset.trans
        (List.cons_subset_cons _ inductionHypothesis) (List.subset_cons_self _ _))
  | case2 left separator right rest _ inductionHypothesis =>
      exact List.cons_subset_cons _ inductionHypothesis
  | case3 => exact List.Subset.refl _

/-- Without separators there is nothing to drop. -/
theorem dropSeparators_eq_self
    {text : Text}
    (noSeparator : ∀ character ∈ text, character ≠ ',' ∧ character ≠ '_') :
    dropSeparators text = text := by
  fun_induction dropSeparators text with
  | case1 left separator right rest separated _ =>
      obtain ⟨notComma, notUnderscore⟩ := noSeparator separator (by simp)
      exact absurd separated.2.1 (not_or.mpr ⟨notComma, notUnderscore⟩)
  | case2 left separator right rest _ inductionHypothesis =>
      rw [inductionHypothesis fun character member => noSeparator character
        (List.mem_cons_of_mem left member)]
  | case3 => rfl

end TitleStamp
