import TitleStamp.Json.StringToken

/-!
# The spelling of JSON strings

What may stand between the quotes of a string and what it denotes.  Any four hexadecimal digits
may follow `\u`; a string with half a surrogate pair is well-formed but denotes no text.  Both
readers of strings are shown to follow this grammar: the one that skips finds the closing quote,
and the one that decodes finds what is denoted.
-/

namespace TitleStamp.Json

/-- Four hexadecimal digits and the unit of 16 bits that they denote. -/
structure SpellsUnit (digits : Text) (unit : Nat) : Prop where
  four : digits.length = 4
  value : ∃ values, digits.mapM hexDigit? = some values ∧
    values.foldl (fun unit value => 16 * unit + value) 0 = unit

/-- What stands between the quotes of a string, and the text that it denotes if it denotes one. -/
inductive SpellsContent : Text → Except Fault Text → Prop where
  | nil : SpellsContent [] (.ok [])
  /-- A character that stands for itself. -/
  | plain {character : Char} {rest : Text} {content : Except Fault Text}
      (notQuote : character ≠ '"') (notBackslash : character ≠ '\\')
      (notControl : 0x20 ≤ character.toNat)
      (others : SpellsContent rest content) :
      SpellsContent (character :: rest) (content.map (character :: ·))
  /-- An escape of one letter. -/
  | short {letter character : Char} {rest : Text} {content : Except Fault Text}
      (escapes : shortEscape? letter = some character)
      (others : SpellsContent rest content) :
      SpellsContent ('\\' :: letter :: rest) (content.map (character :: ·))
  /-- An escape for a character of the basic plane. -/
  | unit {digits rest : Text} {unit : Nat} {content : Except Fault Text}
      (spelled : SpellsUnit digits unit)
      (notHigh : isHighSurrogate unit = false) (notLow : isLowSurrogate unit = false)
      (others : SpellsContent rest content) :
      SpellsContent ('\\' :: 'u' :: (digits ++ rest)) (content.map (Char.ofNat unit :: ·))
  /-- Two escapes for a character of the other planes. -/
  | pair {highDigits lowDigits rest : Text} {high low : Nat} {content : Except Fault Text}
      (spelledHigh : SpellsUnit highDigits high) (isHigh : isHighSurrogate high = true)
      (spelledLow : SpellsUnit lowDigits low) (isLow : isLowSurrogate low = true)
      (others : SpellsContent rest content) :
      SpellsContent ('\\' :: 'u' :: (highDigits ++ '\\' :: 'u' :: (lowDigits ++ rest)))
        (content.map (joinSurrogates high low :: ·))
  /-- The second half of a pair without the first. -/
  | loneLow {digits rest : Text} {unit : Nat} {content : Except Fault Text}
      (spelled : SpellsUnit digits unit) (isLow : isLowSurrogate unit = true)
      (others : SpellsContent rest content) :
      SpellsContent ('\\' :: 'u' :: (digits ++ rest)) (.error .malformed)
  /-- The first half of a pair without the second. -/
  | loneHigh {digits rest : Text} {unit : Nat} {content : Except Fault Text}
      (spelled : SpellsUnit digits unit) (isHigh : isHighSurrogate unit = true)
      (alone : ∀ lowDigits low more, rest = '\\' :: 'u' :: (lowDigits ++ more) →
        SpellsUnit lowDigits low → isLowSurrogate low = false)
      (others : SpellsContent rest content) :
      SpellsContent ('\\' :: 'u' :: (digits ++ rest)) (.error .malformed)

variable {digits source rest : Text} {unit : Nat} {content : Except Fault Text}

/-- Ordinary characters stand for themselves. -/
theorem spellsContent_self {text : Text}
    (ordinary : ∀ character ∈ text,
      character ≠ '"' ∧ character ≠ '\\' ∧ 0x20 ≤ character.toNat) :
    SpellsContent text (.ok text) := by
  induction text with
  | nil => exact .nil
  | cons first others inductionHypothesis =>
      obtain ⟨⟨notQuote, notBackslash, notControl⟩, othersOrdinary⟩ :=
        List.forall_mem_cons.mp ordinary
      exact .plain notQuote notBackslash notControl (inductionHypothesis othersOrdinary)

private theorem length_le_byteLength (text : Text) : text.length ≤ text.byteLength := by
  induction text with
  | nil => exact Nat.le_refl 0
  | cons first others inductionHypothesis =>
      rw [List.length_cons, Text.byteLength]
      have occupied := first.utf8Size_pos
      omega

theorem hexUnit_append (spelled : SpellsUnit digits unit) (rest : Text) :
    hexUnit (digits ++ rest) = .ok unit := by
  obtain ⟨values, areHexadecimal, denoted⟩ := spelled.value
  have taken : (digits ++ rest).take 4 = digits := List.take_left' spelled.four
  have enough : ¬Text.byteLength digits < 4 := by
    have atLeast := length_le_byteLength digits
    rw [spelled.four] at atLeast
    omega
  simp only [hexUnit, taken, if_neg enough, areHexadecimal, denoted]

theorem skipFrom_append (covered : Text) {found : Nat} (finds : skipFrom 0 rest = .ok found) :
    skipFrom covered.length (covered ++ rest) = .ok (found + covered.length) := by
  induction covered with
  | nil => exact finds
  | cons first others inductionHypothesis =>
      rw [List.length_cons, List.cons_append, skipFrom, inductionHypothesis]
      rfl

theorem decodeFrom_append (covered rest : Text) :
    decodeFrom covered.length (covered ++ rest) = decodeFrom 0 rest := by
  induction covered with
  | nil => rfl
  | cons first others inductionHypothesis =>
      rw [List.length_cons, List.cons_append, decodeFrom, inductionHypothesis]

theorem skipFrom_escape {escape : Text} {length found : Nat}
    (measured : escape.length = length)
    (skips : skipEscape (escape ++ rest) = .ok length)
    (finds : skipFrom 0 rest = .ok found) :
    skipFrom 0 ('\\' :: (escape ++ rest)) = .ok (found + (length + 1)) := by
  subst measured
  rw [skipFrom, if_neg (by decide), if_pos rfl, skips]
  simp only [bind, Except.bind, skipFrom_append escape finds]
  rfl

theorem decodeFrom_escape {escape : Text} {character : Char} {length : Nat}
    (measured : escape.length = length)
    (reads : readEscape (escape ++ rest) = .ok (character, length)) :
    decodeFrom 0 ('\\' :: (escape ++ rest)) = (decodeFrom 0 rest).map (character :: ·) := by
  subst measured
  rw [decodeFrom, if_neg (by decide), if_pos rfl, reads]
  simp only [bind, Except.bind, decodeFrom_append]
  cases decodeFrom 0 rest <;> rfl

theorem decodeFrom_of_readEscape_error {escape : Text} {fault : Fault}
    (fails : readEscape escape = .error fault) :
    decodeFrom 0 ('\\' :: escape) = .error fault := by
  rw [decodeFrom, if_neg (by decide), if_pos rfl, fails]
  rfl

section Escapes

variable {letter character : Char}

private theorem ne_u_of_escapes (escapes : shortEscape? letter = some character) :
    letter ≠ 'u' := by
  rintro rfl
  contradiction

theorem skipEscape_short (escapes : shortEscape? letter = some character) (rest : Text) :
    skipEscape (letter :: rest) = .ok 1 := by
  unfold skipEscape
  split
  · contradiction
  · next isU =>
      exact absurd (List.cons.inj isU).1 (ne_u_of_escapes escapes)
  · next same =>
      rw [← (List.cons.inj same).1, escapes, Option.isSome_some, if_pos rfl]

theorem readEscape_short (escapes : shortEscape? letter = some character) (rest : Text) :
    readEscape (letter :: rest) = .ok (character, 1) := by
  unfold readEscape
  split
  · contradiction
  · next isU =>
      exact absurd (List.cons.inj isU).1 (ne_u_of_escapes escapes)
  · next same =>
      rw [← (List.cons.inj same).1, escapes]

theorem skipEscape_unit (spelled : SpellsUnit digits unit) (rest : Text) :
    skipEscape ('u' :: (digits ++ rest)) = .ok 5 := by
  rw [skipEscape, hexUnit_append spelled]
  rfl

theorem readEscape_unit (spelled : SpellsUnit digits unit) (rest : Text)
    (notHigh : isHighSurrogate unit = false) (notLow : isLowSurrogate unit = false) :
    readEscape ('u' :: (digits ++ rest)) = .ok (Char.ofNat unit, 5) := by
  simp [readEscape, bind, Except.bind, hexUnit_append spelled, notHigh, notLow]

theorem readEscape_loneLow (spelled : SpellsUnit digits unit) (rest : Text)
    (isLow : isLowSurrogate unit = true) :
    readEscape ('u' :: (digits ++ rest)) = .error .malformed := by
  simp [readEscape, bind, Except.bind, hexUnit_append spelled, isLow]

private theorem notLow_of_isHigh (isHigh : isHighSurrogate unit = true) :
    isLowSurrogate unit = false := by
  simp only [isHighSurrogate, isLowSurrogate, Bool.and_eq_true, decide_eq_true_eq,
    Bool.and_eq_false_iff, decide_eq_false_iff_not] at isHigh ⊢
  omega

/-- What the first half of a pair is read as depends on what follows it. -/
private theorem readEscape_high (spelled : SpellsUnit digits unit) (rest : Text)
    (isHigh : isHighSurrogate unit = true) :
    readEscape ('u' :: (digits ++ rest)) =
      match rest with
      | [] => .error .endsEarly
      | ['\\'] => .error .endsEarly
      | '\\' :: 'u' :: more => do
          let low ← hexUnit more
          if isLowSurrogate low then
            .ok (joinSurrogates unit low, 11)
          else
            .error .malformed
      | _ => .error .malformed := by
  have dropped : (digits ++ rest).drop 4 = rest := List.drop_left' spelled.four
  simp only [readEscape, bind, Except.bind, hexUnit_append spelled, isHigh,
    notLow_of_isHigh isHigh, dropped]
  rfl

theorem readEscape_pair {lowDigits : Text} {low : Nat}
    (spelled : SpellsUnit digits unit) (isHigh : isHighSurrogate unit = true)
    (spelledLow : SpellsUnit lowDigits low) (isLow : isLowSurrogate low = true) (rest : Text) :
    readEscape ('u' :: (digits ++ '\\' :: 'u' :: (lowDigits ++ rest))) =
      .ok (joinSurrogates unit low, 11) := by
  simp [readEscape_high spelled _ isHigh, bind, Except.bind, hexUnit_append spelledLow, isLow]

theorem readEscape_loneHigh (spelled : SpellsUnit digits unit)
    (isHigh : isHighSurrogate unit = true)
    (alone : ∀ lowDigits low more, source = '\\' :: 'u' :: (lowDigits ++ more) →
      SpellsUnit lowDigits low → isLowSurrogate low = false)
    (others : SpellsContent source content) (rest : Text) :
    readEscape ('u' :: (digits ++ (source ++ '"' :: rest))) = .error .malformed := by
  rw [readEscape_high spelled _ isHigh]
  have refused {lowDigits more : Text} {low : Nat} (spelledLow : SpellsUnit lowDigits low)
      (notLow : isLowSurrogate low = false) :
      (hexUnit (lowDigits ++ more) >>= fun low =>
        if isLowSurrogate low then Except.ok (joinSurrogates unit low, 11)
        else .error .malformed) = .error .malformed := by
    simp [bind, Except.bind, hexUnit_append spelledLow, notLow]
  cases others with
  | nil => rfl
  | plain notQuote notBackslash notControl others =>
      simp [notBackslash]
  | short escapes others =>
      simp [ne_u_of_escapes escapes]
  | unit spelledLow notHigh notLow others =>
      simpa [List.append_assoc] using refused spelledLow notLow
  | pair spelledLow isHigh _ _ others =>
      simpa [List.append_assoc] using refused spelledLow (notLow_of_isHigh isHigh)
  | loneLow spelledLow isLow others =>
      exact absurd isLow (by rw [alone _ _ _ rfl spelledLow]; decide)
  | loneHigh spelledLow isHigh _ others =>
      simpa [List.append_assoc] using refused spelledLow (notLow_of_isHigh isHigh)

end Escapes

private theorem length_unit (spelled : SpellsUnit digits unit) : ('u' :: digits).length = 5 :=
  congrArg (· + 1) spelled.four

private theorem skipFrom_unit (spelled : SpellsUnit digits unit) {found : Nat}
    (finds : skipFrom 0 rest = .ok found) :
    skipFrom 0 ('\\' :: 'u' :: (digits ++ rest)) = .ok (found + 6) :=
  skipFrom_escape (length_unit spelled) (skipEscape_unit spelled rest) finds

/-- The reader that skips finds the quote after the content. -/
theorem skipString_append (spelled : SpellsContent source content) (rest : Text) :
    skipString (source ++ '"' :: rest) = .ok (source.length + 1) := by
  unfold skipString
  induction spelled with
  | nil => rfl
  | plain notQuote notBackslash notControl others finds =>
      rw [List.cons_append, skipFrom, if_neg notQuote, if_neg notBackslash,
        if_neg (Nat.not_lt.mpr notControl), finds]
      rfl
  | @short letter character others content escapes _ finds =>
      exact @skipFrom_escape _ [letter] 1 _ rfl (skipEscape_short escapes _) finds
  | unit spelled _ _ others finds
  | loneLow spelled _ others finds
  | loneHigh spelled _ _ others finds =>
      rw [List.cons_append, List.cons_append, List.append_assoc, skipFrom_unit spelled finds]
      simp only [List.length_cons, List.length_append, spelled.four]
      exact congrArg Except.ok (by omega)
  | pair spelledHigh _ spelledLow _ others finds =>
      rw [List.cons_append, List.cons_append, List.append_assoc, List.cons_append,
        List.cons_append, List.append_assoc,
        skipFrom_unit spelledHigh (skipFrom_unit spelledLow finds)]
      simp only [List.length_cons, List.length_append, spelledHigh.four, spelledLow.four]
      exact congrArg Except.ok (by omega)

/-- The reader that decodes finds what the content denotes. -/
theorem decodeString_append (spelled : SpellsContent source content) (rest : Text) :
    decodeString (source ++ '"' :: rest) = content := by
  unfold decodeString
  induction spelled with
  | nil => rfl
  | plain notQuote notBackslash notControl others found =>
      rw [List.cons_append, decodeFrom, if_neg notQuote, if_neg notBackslash,
        if_neg (Nat.not_lt.mpr notControl), found]
      rfl
  | @short letter character others content escapes _ found =>
      rw [← found]
      exact @decodeFrom_escape _ [letter] character 1 rfl (readEscape_short escapes _)
  | unit spelled notHigh notLow others found =>
      rw [← found, List.cons_append, List.cons_append, List.append_assoc]
      exact decodeFrom_escape (length_unit spelled) (readEscape_unit spelled _ notHigh notLow)
  | @pair highDigits lowDigits others high low content
      spelledHigh isHigh spelledLow isLow _ found =>
      have reads := readEscape_pair spelledHigh isHigh spelledLow isLow (others ++ '"' :: rest)
      have measured :
          ('u' :: (highDigits ++ '\\' :: 'u' :: lowDigits)).length = 11 := by
        simp only [List.length_cons, List.length_append, spelledHigh.four, spelledLow.four]
      rw [← found, ← decodeFrom_escape measured (by simpa using reads)]
      simp
  | loneLow spelled isLow others found =>
      rw [List.cons_append, List.cons_append, List.append_assoc]
      exact decodeFrom_of_readEscape_error (readEscape_loneLow spelled _ isLow)
  | loneHigh spelled isHigh alone others found =>
      rw [List.cons_append, List.cons_append, List.append_assoc]
      exact decodeFrom_of_readEscape_error (readEscape_loneHigh spelled isHigh alone others rest)

end TitleStamp.Json
