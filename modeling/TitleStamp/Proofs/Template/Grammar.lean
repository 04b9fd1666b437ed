import TitleStamp.Proofs.Template.Scan

/-!
# The grammar of a pattern

What stands at the start of a text, said without the readers of a scan.  A placeholder is a colon
and the longest name after it.  A call is a name, an opening parenthesis directly after it and
everything up to the last closing parenthesis of the line.  Where neither stands, the grammar
demands one character.  The first lexeme of a text is the one that the grammar demands there.
-/

namespace TitleStamp

namespace Lexeme

/-- The text starts with a colon and the name, and no longer name stands there. -/
def PlaceholderAt (text name : Text) : Prop :=
  name ≠ [] ∧ (∀ character ∈ name, isNameCharacter character = true) ∧
    ∃ rest, text = ':' :: (name ++ rest) ∧ Text.StartsOutside isNameCharacter rest

/-- The text starts with the name and the argument in parentheses, and no closing parenthesis
follows on the line. -/
def CallAt (text name argument : Text) : Prop :=
  name ≠ [] ∧ (∀ character ∈ name, isNameCharacter character = true) ∧ '\n' ∉ argument ∧
    ∃ rest, text = name ++ '(' :: (argument ++ ')' :: rest) ∧
      ')' ∉ rest.takeWhile (· ≠ '\n')

/-- The lexeme that the grammar demands at the start of a text. -/
inductive Demanded (text : Text) : Lexeme → Prop
  | placeholder {name : Text} :
      PlaceholderAt text name →
      Demanded text (.placeholder name)
  | call {name argument : Text} :
      (∀ other, ¬PlaceholderAt text other) →
      CallAt text name argument →
      Demanded text (.call name argument)
  | literal {character : Char} {rest : Text} :
      (∀ name, ¬PlaceholderAt text name) →
      (∀ name argument, ¬CallAt text name argument) →
      text = character :: rest →
      Demanded text (.literal [character])

variable {text : Text} {lexeme : Lexeme}

private theorem takeWhile_name (text : Text) :
    ∀ character ∈ text.takeWhile isNameCharacter, isNameCharacter character = true :=
  List.all_eq_true.mp List.all_takeWhile

theorem readPlaceholder_eq_some_iff :
    readPlaceholder text = some lexeme ↔
      ∃ name, lexeme = .placeholder name ∧ PlaceholderAt text name := by
  constructor
  · intro read
    unfold readPlaceholder at read
    split at read
    · rename_i afterColon
      split at read
      · cases read
      · rename_i nonempty
        cases read
        refine ⟨_, rfl, nonempty, takeWhile_name afterColon,
          afterColon.dropWhile isNameCharacter, ?_, Text.startsOutside_dropWhile _ afterColon⟩
        rw [List.takeWhile_append_dropWhile]
    · cases read
  · rintro ⟨name, rfl, nonempty, isName, rest, rfl, stops⟩
    exact readPlaceholder_append nonempty isName stops

theorem argumentOnLine_eq_none_iff :
    argumentOnLine text = none ↔ ')' ∉ text.takeWhile (· ≠ '\n') := by
  induction text with
  | nil => simp [argumentOnLine]
  | cons character rest inductionHypothesis =>
      by_cases feed : character = '\n'
      · simp [argumentOnLine, feed]
      · rw [argumentOnLine, if_neg feed, List.takeWhile_cons_of_pos (by simpa using feed),
          List.mem_cons, not_or, ← inductionHypothesis]
        cases later : argumentOnLine rest with
        | some argument => simp
        | none => simp [eq_comm]

theorem argumentOnLine_eq_some_iff {argument : Text} :
    argumentOnLine text = some argument ↔
      '\n' ∉ argument ∧
        ∃ rest, text = argument ++ ')' :: rest ∧ ')' ∉ rest.takeWhile (· ≠ '\n') := by
  constructor
  · intro read
    induction text generalizing argument with
    | nil => cases read
    | cons character rest inductionHypothesis =>
        rw [argumentOnLine] at read
        split at read
        · cases read
        · rename_i notFeed
          split at read
          · rename_i longer readRest
            cases read
            obtain ⟨oneLine, remaining, split, isLast⟩ := inductionHypothesis readRest
            refine ⟨?_, remaining, by rw [split, List.cons_append], isLast⟩
            simp [oneLine, Ne.symm notFeed]
          · rename_i noneLater
            split at read
            · rename_i closing
              cases read
              exact ⟨by simp, rest, by rw [closing, List.nil_append],
                argumentOnLine_eq_none_iff.mp noneLater⟩
            · cases read
  · rintro ⟨oneLine, rest, rfl, isLast⟩
    induction argument with
    | nil => simp [argumentOnLine, argumentOnLine_eq_none_iff.mpr isLast]
    | cons character argument inductionHypothesis =>
        simp only [List.mem_cons, not_or] at oneLine
        simp [argumentOnLine, Ne.symm oneLine.1, inductionHypothesis oneLine.2]

theorem readCall_eq_some_iff :
    readCall text = some lexeme ↔
      ∃ name argument, lexeme = .call name argument ∧ CallAt text name argument := by
  constructor
  · intro read
    have parts : text.takeWhile isNameCharacter ++ text.dropWhile isNameCharacter = text :=
      List.takeWhile_append_dropWhile
    unfold readCall at read
    split at read
    · cases read
    · rename_i afterName opened nonempty
      obtain ⟨argument, readArgument, rfl⟩ := Option.map_eq_some_iff.mp read
      obtain ⟨oneLine, rest, split, isLast⟩ := argumentOnLine_eq_some_iff.mp readArgument
      rw [opened, split] at parts
      exact ⟨_, argument, rfl, nonempty, takeWhile_name text, oneLine, rest, parts.symm, isLast⟩
    · cases read
  · rintro ⟨name, argument, rfl, nonempty, isName, oneLine, rest, rfl, isLast⟩
    have stops :
        Text.StartsOutside isNameCharacter ('(' :: (argument ++ ')' :: rest)) :=
      Text.startsOutside_cons.mpr (by decide)
    have taken := Text.takeWhile_append_of_startsOutside isName stops
    have dropped := Text.dropWhile_append_of_startsOutside isName stops
    have readArgument : argumentOnLine (argument ++ ')' :: rest) = some argument :=
      argumentOnLine_eq_some_iff.mpr ⟨oneLine, rest, rfl, isLast⟩
    cases name with
    | nil => exact absurd rfl nonempty
    | cons first others =>
        simp only [readCall, taken, dropped, readArgument, Option.map_some]

theorem readPlaceholder_eq_none_iff :
    readPlaceholder text = none ↔ ∀ name, ¬PlaceholderAt text name := by
  constructor
  · intro missed name stands
    have read := readPlaceholder_eq_some_iff.mpr ⟨name, rfl, stands⟩
    rw [missed] at read
    cases read
  · intro absent
    cases read : readPlaceholder text with
    | none => rfl
    | some lexeme =>
        obtain ⟨name, _, stands⟩ := readPlaceholder_eq_some_iff.mp read
        exact absurd stands (absent name)

theorem readCall_eq_none_iff :
    readCall text = none ↔ ∀ name argument, ¬CallAt text name argument := by
  constructor
  · intro missed name argument stands
    have read := readCall_eq_some_iff.mpr ⟨name, argument, rfl, stands⟩
    rw [missed] at read
    cases read
  · intro absent
    cases read : readCall text with
    | none => rfl
    | some lexeme =>
        obtain ⟨name, argument, _, stands⟩ := readCall_eq_some_iff.mp read
        exact absurd stands (absent name argument)

/-- The first lexeme of a text is the one that the grammar demands. -/
theorem firstLexeme_eq_some_iff :
    firstLexeme .applied text = some lexeme ↔ Demanded text lexeme := by
  rw [firstLexeme_applied]
  constructor
  · intro first
    cases placeholder : readPlaceholder text with
    | some found =>
        rw [placeholder, Option.some_or, Option.some.injEq] at first
        subst first
        obtain ⟨name, rfl, stands⟩ := readPlaceholder_eq_some_iff.mp placeholder
        exact .placeholder stands
    | none =>
        have noPlaceholder := readPlaceholder_eq_none_iff.mp placeholder
        rw [placeholder, Option.none_or] at first
        cases call : readCall text with
        | some found =>
            rw [call, Option.some_or, Option.some.injEq] at first
            subst first
            obtain ⟨name, argument, rfl, stands⟩ := readCall_eq_some_iff.mp call
            exact .call noPlaceholder stands
        | none =>
            have noCall := readCall_eq_none_iff.mp call
            rw [call, Option.none_or] at first
            cases text with
            | nil => cases first
            | cons character rest =>
                cases first
                exact .literal noPlaceholder noCall rfl
  · intro demanded
    cases demanded with
    | placeholder stands =>
        rw [readPlaceholder_eq_some_iff.mpr ⟨_, rfl, stands⟩, Option.some_or]
    | call noPlaceholder stands =>
        rw [readPlaceholder_eq_none_iff.mpr noPlaceholder, Option.none_or,
          readCall_eq_some_iff.mpr ⟨_, _, rfl, stands⟩, Option.some_or]
    | literal noPlaceholder noCall split =>
        rw [readPlaceholder_eq_none_iff.mpr noPlaceholder, readCall_eq_none_iff.mpr noCall,
          Option.none_or, Option.none_or, split, readCharacter]

theorem placeholderAt_of_firstLexeme
    {calls : Calls} {name : Text}
    (first : firstLexeme calls text = some (.placeholder name)) :
    PlaceholderAt text name := by
  cases calls with
  | applied =>
      cases firstLexeme_eq_some_iff.mp first with
      | placeholder stands => exact stands
  | inert =>
      rw [firstLexeme_inert] at first
      cases read : readPlaceholder text with
      | some found =>
          rw [read, Option.some_or, Option.some.injEq] at first
          obtain ⟨other, same, stands⟩ := readPlaceholder_eq_some_iff.mp read
          rw [first, Lexeme.placeholder.injEq] at same
          rwa [same]
      | none =>
          rw [read, Option.none_or] at first
          cases text <;> cases first

end Lexeme

end TitleStamp
