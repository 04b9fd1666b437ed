import TitleStamp.Json.Token
import TitleStamp.Proofs.Json.Numbers
import TitleStamp.Proofs.Json.Strings

/-!
# The spelling of JSON tokens

A text spells a list of tokens if it consists of them, in order, with blanks between, before and
after them.  A number has to be followed by something that does not go on with it; every other
token ends by itself.  A text is cut into the tokens that it spells.
-/

namespace TitleStamp.Json

/-- A token that ends by itself. -/
inductive SpellsToken : Text → Token → Prop where
  | openArray : SpellsToken ['['] .openArray
  | closeArray : SpellsToken [']'] .closeArray
  | openObject : SpellsToken ['\x7b'] .openObject
  | closeObject : SpellsToken ['\x7d'] .closeObject
  | comma : SpellsToken [','] .comma
  | colon : SpellsToken [':'] .colon
  | nullWord : SpellsToken ['n', 'u', 'l', 'l'] .null
  | trueWord : SpellsToken ['t', 'r', 'u', 'e'] (.boolean true)
  | falseWord : SpellsToken ['f', 'a', 'l', 's', 'e'] (.boolean false)
  | string {source : Text} {content : Except Fault Text}
      (spelled : SpellsContent source content) :
      SpellsToken ('"' :: (source ++ ['"'])) (.string content)

/-- A text of ordinary characters is spelled by quoting it. -/
theorem SpellsToken.ordinary (text : Text)
    (ordinary : ∀ character ∈ text,
      character ≠ '"' ∧ character ≠ '\\' ∧ 0x20 ≤ character.toNat) :
    SpellsToken ('"' :: (text ++ ['"'])) (.string (.ok text)) :=
  .string (spellsContent_self ordinary)

/-- What a number is as a token. -/
def NumberParts.token (parts : NumberParts) : Token :=
  .number (if parts.isOutOfRange then .error .malformed else .ok parts.natural?)

inductive Spells : Text → List Token → Prop where
  | nil : Spells [] []
  | blank {character : Char} {rest : Text} {later : List Token}
      (isBlank : isJsonBlank character = true) (others : Spells rest later) :
      Spells (character :: rest) later
  | token {source rest : Text} {first : Token} {later : List Token}
      (spelled : SpellsToken source first) (others : Spells rest later) :
      Spells (source ++ rest) (first :: later)
  | number {source rest : Text} {parts : NumberParts} {later : List Token}
      (spelled : SpellsNumber source parts)
      (stops : Text.StartsOutside Text.continuesNumeral rest) (others : Spells rest later) :
      Spells (source ++ rest) (parts.token :: later)

variable {source text rest : Text}

theorem Spells.append {earlier later : List Token}
    (front : Spells text earlier) (back : Spells rest later)
    (stops : Text.StartsOutside Text.continuesNumeral rest) :
    Spells (text ++ rest) (earlier ++ later) := by
  induction front with
  | nil => exact back
  | blank isBlank _ appended => exact .blank isBlank appended
  | token spelled _ appended =>
      rw [List.append_assoc]
      exact .token spelled appended
  | number spelled stopsInside _ appended =>
      rw [List.append_assoc]
      exact .number spelled (Text.startsOutside_append stopsInside stops) appended

theorem readString_append {content : Except Fault Text}
    (spelled : SpellsContent source content) (rest : Text) :
    readString (source ++ '"' :: rest) = (.string content, some (source.length + 1)) := by
  simp only [readString, skipString_append spelled, decodeString_append spelled]

/-- A token is read from its first character, which is no blank. -/
theorem readToken_append {token : Token} (spelled : SpellsToken source token) :
    ∃ first others, source = first :: others ∧ isJsonBlank first = false ∧
      ∀ rest, readToken first (others ++ rest) = (token, some others.length) := by
  cases spelled with
  | openArray | closeArray | openObject | closeObject | comma | colon
  | nullWord | trueWord | falseWord =>
      exact ⟨_, _, rfl, by decide, fun rest => rfl⟩
  | @string source content spelled =>
      refine ⟨_, _, rfl, by decide, fun rest => ?_⟩
      rw [List.append_assoc, List.length_append]
      exact readString_append spelled rest

/-- A number starts with a minus sign or a digit. -/
private theorem exists_cons_of_spellsNumber {parts : NumberParts}
    (spelled : SpellsNumber source parts) :
    parts.length = source.length ∧
      ∃ first others, source = first :: others ∧ (first = '-' ∨ first.isDigit = true) := by
  obtain ⟨spelledSign, isWhole, _, _⟩ := spelled
  refine ⟨rfl, ?_⟩
  cases spelledSign with
  | none =>
      obtain ⟨first, others, rfl⟩ := List.exists_cons_of_ne_nil isWhole.nonempty
      exact ⟨first, _, rfl, Or.inr (isWhole.areDigits first List.mem_cons_self)⟩
  | minus => exact ⟨'-', _, rfl, Or.inl rfl⟩

private theorem readToken_of_startsNumber {first : Char}
    (starts : first = '-' ∨ first.isDigit = true) (rest : Text) :
    readToken first rest = readNumberToken (first :: rest) := by
  unfold readToken
  split
  iterate 10 exact absurd starts (by decide)
  rw [if_pos starts]

/-- A number is read from its first character, which is no blank. -/
theorem readToken_number {parts : NumberParts} (spelled : SpellsNumber source parts)
    (stops : Text.StartsOutside Text.continuesNumeral rest) :
    ∃ first others, source = first :: others ∧ isJsonBlank first = false ∧
      readToken first (others ++ rest) = (parts.token, some others.length) := by
  obtain ⟨measured, first, others, rfl, starts⟩ := exists_cons_of_spellsNumber spelled
  have notBlank : isJsonBlank first = false := by
    apply Bool.eq_false_iff.mpr
    intro isBlank
    simp only [isJsonBlank, List.contains_iff_mem, List.mem_cons, List.not_mem_nil,
      or_false] at isBlank
    rcases isBlank with rfl | rfl | rfl | rfl <;> exact absurd starts (by decide)
  refine ⟨first, others, rfl, notBlank, ?_⟩
  rw [readToken_of_startsNumber starts, ← List.cons_append]
  simp only [readNumberToken, readNumber_append spelled stops, measured, List.length_cons,
    Nat.add_sub_cancel, NumberParts.token]

theorem tokensFrom_append (covered rest : Text) :
    tokensFrom covered.length (covered ++ rest) = tokensFrom 0 rest := by
  induction covered with
  | nil => rfl
  | cons first others inductionHypothesis =>
      rw [List.length_cons, List.cons_append, tokensFrom, inductionHypothesis]

private theorem tokensFrom_cons {first : Char} {others : Text} {token : Token}
    (notBlank : isJsonBlank first = false)
    (reads : readToken first (others ++ rest) = (token, some others.length)) :
    tokensFrom 0 (first :: (others ++ rest)) = token :: tokensFrom 0 rest := by
  rw [tokensFrom, if_neg (by rw [notBlank]; decide), reads]
  exact congrArg (token :: ·) (tokensFrom_append others rest)

/-- A text is cut into the tokens that it spells. -/
theorem tokens_of_spells {spelled : List Token} (spells : Spells text spelled) :
    tokens text = spelled := by
  unfold tokens
  induction spells with
  | nil => rfl
  | blank isBlank _ cut =>
      rw [tokensFrom, if_pos isBlank, cut]
  | token spelled _ cut =>
      obtain ⟨first, others, rfl, notBlank, reads⟩ := readToken_append spelled
      rw [List.cons_append, tokensFrom_cons notBlank (reads _), cut]
  | number spelled stops _ cut =>
      obtain ⟨first, others, rfl, notBlank, reads⟩ := readToken_number spelled stops
      rw [List.cons_append, tokensFrom_cons notBlank reads, cut]

end TitleStamp.Json
