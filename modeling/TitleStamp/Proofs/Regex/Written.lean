import TitleStamp.Regex.Basic

/-!
# Reading a written regular expression back

The reader of regular expressions inverts their written form.  An escaped text is the written
form of the expression that matches just that text.
-/

namespace TitleStamp.Regex

/-- The regular expression of one given text. -/
def literal (text : Text) : Regex :=
  text.map .exactly

@[simp]
theorem escape_append (left right : Text) :
    escape (left ++ right) = escape left ++ escape right :=
  List.flatMap_append

@[simp]
theorem escape_cons (character : Char) (text : Text) :
    escape (character :: text) = escapeCharacter character ++ escape text :=
  rfl

@[simp]
theorem written_append (left right : Regex) :
    written (left ++ right) = written left ++ written right :=
  List.flatMap_append

@[simp]
theorem written_nil : written [] = [] :=
  rfl

@[simp]
theorem written_cons (piece : Piece) (later : Regex) :
    written (piece :: later) = piece.written ++ written later :=
  rfl

theorem written_piece_ne_nil (piece : Piece) : piece.written ≠ [] := by
  cases piece with
  | exactly character =>
      rw [Piece.written, escapeCharacter]
      split <;> exact List.cons_ne_nil _ _
  | digits => decide
  | line => decide
  | group => decide

theorem written_literal (text : Text) :
    written (literal text) = escape text := by
  induction text with
  | nil => rfl
  | cons character rest inductionHypothesis =>
      rw [literal, List.map_cons, written_cons, escape_cons, ← inductionHypothesis]
      rfl

theorem head?_escapeCharacter (character : Char) :
    (escapeCharacter character).head? =
      some (if isSpecial character then '\\' else character) := by
  unfold escapeCharacter
  split <;> rfl

theorem getLast?_escapeCharacter (character : Char) :
    (escapeCharacter character).getLast? = some character := by
  unfold escapeCharacter
  split <;> rfl

theorem getLast?_escape (text : Text) :
    (escape text).getLast? = text.getLast? := by
  rcases List.eq_nil_or_concat text with rfl | ⟨initial, last, rfl⟩
  · rfl
  · have written : escape [last] = escapeCharacter last := List.flatMap_singleton _ _
    rw [List.concat_eq_append, escape_append, written, List.getLast?_append,
      getLast?_escapeCharacter, List.getLast?_concat]
    rfl

/-- A class of characters that is not special consists of characters that are written as they
are. -/
theorem isSpecial_eq_false
    {inClass : Char → Bool} {character : Char}
    (outside : ∀ special ∈ "\\.+*?()|[]\x7b\x7d^$#&-~".toList, inClass special = false)
    (inside : inClass character = true) :
    isSpecial character = false := by
  cases special : isSpecial character with
  | false => rfl
  | true =>
      rw [outside character (List.contains_iff_mem.mp special)] at inside
      cases inside

/-- A text without special characters is written as it is. -/
theorem escape_eq_self
    {text : Text}
    (plain : ∀ character ∈ text, isSpecial character = false) :
    escape text = text := by
  induction text with
  | nil => rfl
  | cons character rest inductionHypothesis =>
      have here := plain character (by simp)
      have later := inductionHypothesis fun other member =>
        plain other (List.mem_cons_of_mem _ member)
      rw [escape_cons, later, escapeCharacter, here]
      rfl

theorem mem_of_mem_escape
    {character : Char} {text : Text}
    (notBackslash : character ≠ '\\')
    (member : character ∈ escape text) :
    character ∈ text := by
  obtain ⟨source, sourceMember, here⟩ := List.mem_flatMap.mp member
  have same : character = source := by
    unfold escapeCharacter at here
    split at here
    · simpa [notBackslash] using here
    · simpa using here
  rwa [same]

theorem not_mem_escape
    {character : Char} {text : Text}
    (notBackslash : character ≠ '\\')
    (absent : character ∉ text) :
    character ∉ escape text :=
  fun member => absent (mem_of_mem_escape notBackslash member)

private theorem ofText?_escapeCharacter (character : Char) (rest : Text) :
    ofText? (escapeCharacter character ++ rest) =
      (ofText? rest).map (.exactly character :: ·) := by
  cases special : isSpecial character with
  | true =>
      simp [escapeCharacter, special, ofText?]
  | false =>
      have notSpecial : ∀ other, isSpecial other = true → character ≠ other := by
        rintro other otherSpecial rfl
        rw [special] at otherSpecial
        cases otherSpecial
      have notBackslash := notSpecial '\\' (by decide)
      have notBracket := notSpecial '[' (by decide)
      have notDot := notSpecial '.' (by decide)
      have notParenthesis := notSpecial '(' (by decide)
      rw [escapeCharacter, special]
      simp only [Bool.false_eq_true, if_false, List.singleton_append]
      rw [ofText?]
      · rw [special]
        rfl
      · rintro _ _ rfl
        exact absurd rfl notBackslash
      · rintro _ rfl
        exact absurd rfl notBracket
      · rintro _ rfl
        exact absurd rfl notDot
      · rintro _ rfl
        exact absurd rfl notParenthesis

private theorem ofText?_piece (piece : Piece) (rest : Text) :
    ofText? (piece.written ++ rest) = (ofText? rest).map (piece :: ·) := by
  cases piece with
  | exactly character => exact ofText?_escapeCharacter character rest
  | digits => rfl
  | line => rfl
  | group => rfl

/-- Every regular expression is read back from its written form. -/
theorem ofText?_written (regex : Regex) :
    ofText? (written regex) = some regex := by
  induction regex with
  | nil => rfl
  | cons piece later inductionHypothesis =>
      rw [written_cons, ofText?_piece, inductionHypothesis]
      rfl

theorem written_injective {left right : Regex} (same : written left = written right) :
    left = right := by
  have readBack := congrArg ofText? same
  rw [ofText?_written, ofText?_written] at readBack
  exact Option.some.inj readBack

theorem escape_injective {left right : Text} (same : escape left = escape right) :
    left = right := by
  rw [← written_literal, ← written_literal] at same
  exact (List.map_inj_right fun _ _ => Piece.exactly.inj).mp (written_injective same)

end TitleStamp.Regex
