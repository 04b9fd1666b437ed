import TitleStamp.Proofs.Duration.ScannedNumbers

/-!
# The terms of a text

A term is a number, blanks and letters.  The mentions of a text are its terms from left to right,
each as long as it can be.  The number of a term is always read and is a number, so a term whose
word names a unit always contributes.
-/

namespace TitleStamp

open Json (IsDigits SpellsExponent)

/-- The number is the longest one that the text starts with. -/
structure IsLongestAmount (number text : Text) : Prop where
  spelled : SpellsAmount number
  starts : number <+: text
  longest : ∀ other, SpellsAmount other → other <+: text → other <+: number

namespace Mention

/-- The mention is the term at the start of the text that it makes up together with the rest. -/
structure IsTermBefore (mention : Mention) (rest : Text) : Prop where
  isLongest : IsLongestAmount mention.number (mention.source ++ rest)
  areBlanks : ∀ character ∈ mention.blanks, isBlank character = true
  blanksStop : Text.StartsOutside isBlank (mention.word ++ rest)
  areLetters : ∀ character ∈ mention.word, isLetterUpToCase character = true
  wordStops : Text.StartsOutside isLetterUpToCase rest

end Mention

/-- The terms of a text from left to right.  A character is passed over only where no number
starts. -/
inductive HasTerms : Text → List Mention → Prop where
  | nil : HasTerms [] []
  | skip {character : Char} {rest : Text} {terms : List Mention}
      (noAmount : ∀ number, SpellsAmount number → ¬number <+: character :: rest)
      (later : HasTerms rest terms) : HasTerms (character :: rest) terms
  | term {mention : Mention} {rest : Text} {terms : List Mention}
      (isTerm : mention.IsTermBefore rest) (later : HasTerms rest terms) :
      HasTerms (mention.source ++ rest) (mention :: terms)

/-! ## Longest numbers -/

namespace Mention

variable {digits magnitude exponent number rest text : Text}

/-- Of a text that starts with a magnitude, at least that magnitude is read. -/
theorem exists_readMagnitude?_append (spelled : SpellsMagnitude magnitude) (rest : Text) :
    ∃ found, readMagnitude? (magnitude ++ rest) = some found ∧ magnitude <+: found := by
  cases spelled with
  | whole areDigits =>
      have taken :
          (magnitude ++ rest).takeWhile Char.isDigit = magnitude ++ rest.takeWhile Char.isDigit :=
        List.takeWhile_append_of_pos areDigits.areDigits
      have nonempty : magnitude ++ rest.takeWhile Char.isDigit ≠ [] :=
        List.append_ne_nil_of_left_ne_nil areDigits.nonempty _
      by_cases isPoint : ((magnitude ++ rest).dropWhile Char.isDigit).head? = some '.'
      · obtain ⟨fraction, afterWhole⟩ := List.head?_eq_some_iff.mp isPoint
        rw [readMagnitude?_of_point afterWhole, taken, if_neg fun empty => nonempty empty.1,
          List.append_assoc]
        exact ⟨_, rfl, List.prefix_append _ _⟩
      · rw [readMagnitude?_of_noPoint isPoint, taken, if_neg nonempty]
        exact ⟨_, rfl, List.prefix_append _ _⟩
  | @pointed whole fraction areDigits =>
      obtain ⟨wholeDigits, fractionDigits⟩ := List.forall_mem_append.mp areDigits.areDigits
      have pointStops : Text.StartsOutside Char.isDigit ('.' :: (fraction ++ rest)) :=
        Text.startsOutside_cons.mpr (by decide)
      have nonempty : ¬(whole = [] ∧ fraction ++ rest.takeWhile Char.isDigit = []) := by
        rintro ⟨rfl, noFraction⟩
        exact areDigits.nonempty (List.append_eq_nil_iff.mp noFraction).1
      rw [List.append_assoc, List.cons_append,
        readMagnitude?_of_point (Text.dropWhile_append_of_startsOutside wholeDigits pointStops),
        Text.takeWhile_append_of_startsOutside wholeDigits pointStops,
        List.takeWhile_append_of_pos fractionDigits, if_neg nonempty]
      refine ⟨_, rfl, (List.prefix_append_right_inj whole).mpr ?_⟩
      exact (List.prefix_cons_inj '.').mpr (List.prefix_append _ _)

/-- No more than the magnitude is read if neither a digit nor a point follows it. -/
theorem readMagnitude?_append
    (spelled : SpellsMagnitude magnitude)
    (stops : Text.StartsOutside Json.isDigitOrPoint rest) :
    readMagnitude? (magnitude ++ rest) = some magnitude := by
  obtain ⟨found, read, within⟩ := exists_readMagnitude?_append spelled rest
  have inside := (spellsMagnitude_of_readMagnitude? read).isDigitOrPoint
  have notLonger : found <+: magnitude :=
    (Text.isPrefix_append_iff inside stops).mp (readMagnitude?_isPrefix read)
  rw [read, within.eq_of_length_le notLonger.length_le]

theorem readExponent_unsigned
    {marker : Char} (isMarker : marker = 'e' ∨ marker = 'E') (areDigits : IsDigits digits)
    (rest : Text) :
    readExponent (marker :: (digits ++ rest)) =
      marker :: (digits ++ rest.takeWhile Char.isDigit) := by
  have taken :
      (digits ++ rest).takeWhile Char.isDigit = digits ++ rest.takeWhile Char.isDigit :=
    List.takeWhile_append_of_pos areDigits.areDigits
  obtain ⟨first, others, rfl⟩ := List.exists_cons_of_ne_nil areDigits.nonempty
  have noSign : ¬(first = '+' ∨ first = '-') := by
    have isDigit := areDigits.areDigits first List.mem_cons_self
    rintro (rfl | rfl) <;> exact absurd isDigit (by decide)
  rw [List.cons_append] at taken ⊢
  unfold readExponent
  dsimp only
  rw [if_pos isMarker, if_neg noSign, taken]
  rfl

theorem readExponent_signed
    {marker sign : Char} (isMarker : marker = 'e' ∨ marker = 'E')
    (isSign : sign = '+' ∨ sign = '-') (areDigits : IsDigits digits) (rest : Text) :
    readExponent (marker :: sign :: (digits ++ rest)) =
      marker :: sign :: (digits ++ rest.takeWhile Char.isDigit) := by
  obtain ⟨first, others, rfl⟩ := List.exists_cons_of_ne_nil areDigits.nonempty
  unfold readExponent
  dsimp only
  rw [if_pos isMarker, if_pos isSign, List.takeWhile_append_of_pos areDigits.areDigits]
  rfl

theorem isPrefix_readExponent_append
    {parts : Option (Bool × Text)} (spelled : SpellsExponent exponent parts) (rest : Text) :
    exponent <+: readExponent (exponent ++ rest) := by
  cases spelled with
  | none => exact List.nil_prefix
  | unsigned isMarker areDigits =>
      rw [List.cons_append, readExponent_unsigned isMarker areDigits]
      exact ⟨_, rfl⟩
  | plus isMarker areDigits =>
      rw [List.cons_append, List.cons_append, readExponent_signed isMarker (Or.inl rfl) areDigits]
      exact ⟨_, rfl⟩
  | minus isMarker areDigits =>
      rw [List.cons_append, List.cons_append, readExponent_signed isMarker (Or.inr rfl) areDigits]
      exact ⟨_, rfl⟩

theorem exists_readUnsigned?_append
    {parts : Option (Bool × Text)} (spelledMagnitude : SpellsMagnitude magnitude)
    (spelledExponent : SpellsExponent exponent parts) (rest : Text) :
    ∃ found, readUnsigned? (magnitude ++ exponent ++ rest) = some found ∧
      magnitude ++ exponent <+: found := by
  rw [List.append_assoc]
  by_cases noExponent : exponent = []
  · obtain ⟨found, read, within⟩ := exists_readMagnitude?_append spelledMagnitude (exponent ++ rest)
    rw [readUnsigned?, read, noExponent, List.append_nil]
    exact ⟨_, rfl, within.trans (List.prefix_append _ _)⟩
  · -- The mark of the exponent ends the magnitude.
    have stopsAlone := Json.startsOutside_exponent_append spelledExponent Text.startsOutside_nil
    have stops : Text.StartsOutside Json.isDigitOrPoint (exponent ++ rest) := by
      obtain ⟨marker, others, rfl⟩ := List.exists_cons_of_ne_nil noExponent
      exact Text.startsOutside_cons.mpr (Text.startsOutside_cons.mp stopsAlone)
    rw [readUnsigned?, readMagnitude?_append spelledMagnitude stops, Option.map_some,
      List.drop_left]
    refine ⟨_, rfl, (List.prefix_append_right_inj magnitude).mpr ?_⟩
    exact isPrefix_readExponent_append spelledExponent rest

/-- Of a text that starts with a number, at least that number is read. -/
theorem exists_readNumber?_of_starts (spelled : SpellsAmount number) (starts : number <+: text) :
    ∃ found, readNumber? text = some found ∧ number <+: found := by
  obtain ⟨rest, rfl⟩ := starts
  obtain @⟨sign, magnitude, exponent, negative, _, spelledSign, spelledMagnitude,
    spelledExponent⟩ := spelled
  obtain ⟨found, read, within⟩ :=
    exists_readUnsigned?_append spelledMagnitude spelledExponent rest
  cases spelledSign with
  | none =>
      obtain ⟨first, others, starts, rfl⟩ := spelledMagnitude.exists_cons
      have noMinus : (([] ++ (first :: others ++ exponent)) ++ rest).head? ≠ some '-' := by
        rintro ⟨⟩
        exact absurd starts (by decide)
      exact ⟨found, by rw [readNumber?_of_noMinus noMinus]; exact read, within⟩
  | minus =>
      refine ⟨'-' :: found, ?_, (List.prefix_cons_inj '-').mpr within⟩
      rw [List.singleton_append, List.cons_append, readNumber?_minus, read, Option.map_some]

/-- The number that is read is the longest one that the text starts with. -/
theorem readNumber?_eq_some_iff : readNumber? text = some number ↔ IsLongestAmount number text := by
  constructor
  · intro read
    refine ⟨spellsAmount_of_readNumber? read, readNumber?_isPrefix read, ?_⟩
    intro other spelled starts
    obtain ⟨found, foundRead, within⟩ := exists_readNumber?_of_starts spelled starts
    rw [read] at foundRead
    cases foundRead
    exact within
  · intro isLongest
    obtain ⟨found, read, within⟩ := exists_readNumber?_of_starts isLongest.spelled isLongest.starts
    have notLonger :=
      isLongest.longest found (spellsAmount_of_readNumber? read) (readNumber?_isPrefix read)
    rw [read, within.eq_of_length_le notLonger.length_le]

theorem readNumber?_eq_none_iff :
    readNumber? text = none ↔ ∀ number, SpellsAmount number → ¬number <+: text := by
  constructor
  · intro missed number spelled starts
    obtain ⟨found, read, _⟩ := exists_readNumber?_of_starts spelled starts
    rw [missed] at read
    cases read
  · intro noAmount
    cases read : readNumber? text with
    | none => rfl
    | some number =>
        exact absurd (readNumber?_isPrefix read) (noAmount number (spellsAmount_of_readNumber? read))

/-! ## Leftmost terms -/

/-- The mention that is read is the term at the start of the text. -/
theorem read?_eq_some_iff {mention : Mention} :
    read? text = some mention ↔
      ∃ rest, text = mention.source ++ rest ∧ mention.IsTermBefore rest := by
  constructor
  · intro read
    obtain ⟨number, numberRead, rfl⟩ := Option.map_eq_some_iff.mp read
    have isLongest := readNumber?_eq_some_iff.mp numberRead
    obtain ⟨afterNumber, rfl⟩ := isLongest.starts
    rw [List.drop_left]
    have wordSplit :
        (afterNumber.dropWhile isBlank).takeWhile isLetterUpToCase ++
            (afterNumber.dropWhile isBlank).dropWhile isLetterUpToCase =
          afterNumber.dropWhile isBlank :=
      List.takeWhile_append_dropWhile
    have split :
        number ++ afterNumber =
          source ⟨number, afterNumber.takeWhile isBlank,
              (afterNumber.dropWhile isBlank).takeWhile isLetterUpToCase⟩ ++
            (afterNumber.dropWhile isBlank).dropWhile isLetterUpToCase := by
      rw [source, List.append_assoc, wordSplit, List.append_assoc,
        List.takeWhile_append_dropWhile]
    rw [split] at isLongest
    refine ⟨_, split, isLongest, fun _ member => List.mem_takeWhile_imp member, ?_,
      fun _ member => List.mem_takeWhile_imp member, Text.startsOutside_dropWhile _ _⟩
    rw [wordSplit]
    exact Text.startsOutside_dropWhile _ _
  · rintro ⟨rest, rfl, isTerm⟩
    have numberRead := readNumber?_eq_some_iff.mpr isTerm.isLongest
    rw [read?, numberRead, Option.map_some, source, List.append_assoc, List.append_assoc,
      List.drop_left]
    dsimp only
    rw [Text.takeWhile_append_of_startsOutside isTerm.areBlanks isTerm.blanksStop,
      Text.dropWhile_append_of_startsOutside isTerm.areBlanks isTerm.blanksStop,
      Text.takeWhile_append_of_startsOutside isTerm.areLetters isTerm.wordStops]

theorem source_ne_nil_of_read? {mention : Mention} (read : read? text = some mention) :
    mention.source ≠ [] := by
  obtain ⟨rest, _, isTerm⟩ := read?_eq_some_iff.mp read
  have nonempty := isTerm.isLongest.spelled.ne_nil
  exact List.append_ne_nil_of_left_ne_nil (List.append_ne_nil_of_left_ne_nil nonempty _) _

theorem read?_eq_none_iff :
    read? text = none ↔ ∀ number, SpellsAmount number → ¬number <+: text := by
  rw [read?, Option.map_eq_none_iff, readNumber?_eq_none_iff]

end Mention

theorem hasTerms_mentions : ∀ text : Text, HasTerms text (mentions text)
  | [] => .nil
  | character :: rest => by
      cases read : Mention.read? (character :: rest) with
      | none =>
          have passed : mentions (character :: rest) = mentions rest := by
            rw [mentions, Mention.collectFrom, read]
            rfl
          rw [passed]
          exact .skip (Mention.read?_eq_none_iff.mp read) (hasTerms_mentions rest)
      | some mention =>
          obtain ⟨after, split, isTerm⟩ := Mention.read?_eq_some_iff.mp read
          have nonempty := Mention.source_ne_nil_of_read? read
          have shorter : after.length < (character :: rest).length := by
            rw [split, List.length_append]
            exact Nat.lt_add_of_pos_left (List.length_pos_iff.mpr nonempty)
          have collected : mentions (mention.source ++ after) = mention :: mentions after :=
            Mention.collectFrom_append nonempty (split ▸ read)
          rw [split, collected]
          exact .term isTerm (hasTerms_mentions after)
termination_by text => text.length
decreasing_by
  · exact Nat.lt_succ_self _
  · exact shorter

/-- The mentions of a text are its leftmost terms. -/
theorem mentions_eq_iff {text : Text} {terms : List Mention} :
    mentions text = terms ↔ HasTerms text terms := by
  constructor
  · rintro rfl
    exact hasTerms_mentions text
  · intro hasTerms
    induction hasTerms with
    | nil => rfl
    | skip noAmount _ inductionHypothesis =>
        rw [mentions, Mention.collectFrom, Mention.read?_eq_none_iff.mpr noAmount]
        exact inductionHypothesis
    | @term mention rest _ isTerm _ inductionHypothesis =>
        have read := Mention.read?_eq_some_iff.mpr ⟨rest, rfl, isTerm⟩
        rw [mentions, Mention.collectFrom_append (Mention.source_ne_nil_of_read? read) read]
        exact congrArg _ inductionHypothesis

/-! ## Numbers of terms -/

/-- The mentions of a text are its leftmost terms, and the number of each is read and is a number:
a term whose word names a unit is never left out. -/
theorem mentions_convertible (text : Text) :
    HasTerms text (mentions text) ∧
      ∀ mention ∈ mentions text,
        ∃ amount, Double.ofText? mention.number = some amount ∧ amount ≠ .notANumber ∧
          ∀ length, unitLength? mention.word = some length →
            mention.millis? = some (amount.mul length) := by
  refine ⟨mentions_eq_iff.mp rfl, fun mention mentioned => ?_⟩
  obtain ⟨negative, digits, power, read⟩ :=
    (spellsAmount_of_mem_mentions mentioned).exists_ofText?
  refine ⟨_, read, Double.ofDecimal_ne_notANumber negative digits power, fun length named => ?_⟩
  rw [Mention.millis?, named, read]

/-- A sign, a point in front of the digits and a signed exponent, behind a number with a point at
its end and no unit. -/
theorem mentions_convertible_signed_fraction :
    let mention : Mention := ⟨"-.5E+2".toList, [' '], "Hours".toList⟩
    mention ∈ mentions "v2.x -.5E+2 Hours".toList ∧
      unitLength? mention.word = some (wholeMillis 3600000) ∧
      ∃ amount, Double.ofText? mention.number = some amount ∧ amount ≠ .notANumber ∧
        mention.millis? = some (amount.mul (wholeMillis 3600000)) := by
  intro mention
  have mentioned : mention ∈ mentions "v2.x -.5E+2 Hours".toList := by decide
  have named : unitLength? mention.word = some (wholeMillis 3600000) := by
    decide +kernel
  obtain ⟨amount, read, isNumber, contributes⟩ := (mentions_convertible _).2 mention mentioned
  exact ⟨mentioned, named, amount, read, isNumber, contributes _ named⟩

end TitleStamp
