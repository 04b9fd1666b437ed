import TitleStamp.Proofs.Template.Placeholders
import TitleStamp.Proofs.Template.Rendering

/-!
# Rendering line by line

A name contains no line feed, and the argument of a call ends on the line where it starts.  The
lexemes of a pattern are therefore those of its lines with the line feeds between them, whatever
parentheses the lines leave open, and each line renders as if it stood alone.
-/

namespace TitleStamp

namespace Lexeme

/-- The search for the last closing parenthesis ends at the line feed. -/
theorem argumentOnLine_append_lineFeed (left right : Text) :
    argumentOnLine (left ++ '\n' :: right) = argumentOnLine left := by
  induction left with
  | nil => rfl
  | cons character rest inductionHypothesis =>
      rw [List.cons_append, argumentOnLine, argumentOnLine, inductionHypothesis]

theorem readCall_append_lineFeed (left right : Text) :
    readCall (left ++ '\n' :: right) = readCall left := by
  have stops : Text.StartsOutside isNameCharacter ('\n' :: right) :=
    Text.startsOutside_cons.mpr (by decide)
  rw [readCall, readCall, Text.takeWhile_append_stopped left stops,
    Text.dropWhile_append_stopped left stops]
  cases left.takeWhile isNameCharacter with
  | nil => rfl
  | cons first others =>
      cases left.dropWhile isNameCharacter with
      | nil => rfl
      | cons second rest =>
          by_cases opening : second = '('
          · subst second
            simp only [List.cons_append, argumentOnLine_append_lineFeed]
          · simp [opening]

end Lexeme

theorem firstLexeme_append_lineFeed
    (calls : Calls) {left : Text} (right : Text)
    (nonempty : left ≠ []) :
    firstLexeme calls (left ++ '\n' :: right) = firstLexeme calls left := by
  have apart : NoPlaceholderAcross left ('\n' :: right) :=
    .of_startsOutside (Text.startsOutside_cons.mpr (by decide))
  cases calls with
  | applied =>
      rw [firstLexeme_applied, firstLexeme_applied,
        Lexeme.readPlaceholder_append_eq nonempty apart, Lexeme.readCall_append_lineFeed,
        Lexeme.readCharacter_append nonempty]
  | inert =>
      rw [firstLexeme_inert, firstLexeme_inert,
        Lexeme.readPlaceholder_append_eq nonempty apart, Lexeme.readCharacter_append nonempty]

theorem firstLexeme_lineFeed (calls : Calls) (right : Text) :
    firstLexeme calls ('\n' :: right) = some (.literal ['\n']) := by
  have noPlaceholder : Lexeme.readPlaceholder ('\n' :: right) = none :=
    Lexeme.readPlaceholder_of_head_ne (by decide)
  have noCall : Lexeme.readCall ('\n' :: right) = none :=
    Lexeme.readCall_of_not_name (by decide)
  cases calls with
  | applied => rw [firstLexeme_applied, noPlaceholder, noCall]; rfl
  | inert => rw [firstLexeme_inert, noPlaceholder]; rfl

/-- The lexemes of a pattern are those of its lines and the line feeds between them. -/
theorem lexemes_append_lineFeed (calls : Calls) (left right : Text) :
    lexemes calls (left ++ '\n' :: right) =
      lexemes calls left ++ .literal ['\n'] :: lexemes calls right := by
  induction left using lexeme_induction calls with
  | nil =>
      have feed : firstLexeme calls ((Lexeme.literal ['\n']).source ++ right) =
          some (.literal ['\n']) :=
        firstLexeme_lineFeed calls right
      exact lexemes_append feed
  | append lexeme rest first inductionHypothesis =>
      have nonempty : lexeme.source ++ rest ≠ [] :=
        List.append_ne_nil_of_left_ne_nil (source_ne_nil first) rest
      have firstOfBoth :
          firstLexeme calls (lexeme.source ++ (rest ++ '\n' :: right)) = some lexeme := by
        rw [← List.append_assoc, firstLexeme_append_lineFeed calls right nonempty, first]
      rw [List.append_assoc, lexemes_append firstOfBoth, inductionHypothesis,
        lexemes_append first, List.cons_append]

/-- Lines render apart: what one of them renders to does not depend on the other, and no
placeholder or call of the pattern belongs to both. -/
theorem render_append_lineFeed (calls : Calls) (values : Variables) (left right : Text) :
    render calls values (left ++ '\n' :: right) =
        render calls values left ++ '\n' :: render calls values right ∧
      lexemes calls (left ++ '\n' :: right) =
        lexemes calls left ++ .literal ['\n'] :: lexemes calls right := by
  have cut := lexemes_append_lineFeed calls left right
  refine ⟨?_, cut⟩
  cases calls with
  | applied =>
      simp only [render]
      rw [renderApplied_eq_flatMap, cut, List.flatMap_append, List.flatMap_cons,
        ← renderApplied_eq_flatMap, ← renderApplied_eq_flatMap]
      rfl
  | inert =>
      simp only [render, renderInert]
      rw [cut, List.flatMap_append, List.flatMap_cons]
      rfl

end TitleStamp
