import TitleStamp.Proofs.Text.Runs
import TitleStamp.Template.Lexeme

/-!
# Scanning one lexeme after another

Every rule of a scan reads a non-empty part at the start of a text.  The lexemes of a pattern are
therefore the first lexeme and the lexemes of what follows it, and a scan never stops early.
-/

namespace TitleStamp

namespace Lexeme

theorem readPlaceholder_append
    {name rest : Text}
    (nonempty : name ≠ [])
    (isName : ∀ character ∈ name, isNameCharacter character = true)
    (stops : Text.StartsOutside isNameCharacter rest) :
    readPlaceholder (':' :: (name ++ rest)) = some (placeholder name) := by
  have taken := Text.takeWhile_append_of_startsOutside isName stops
  cases name with
  | nil =>
      exact absurd rfl nonempty
  | cons first others =>
      simp only [readPlaceholder, taken]

theorem readPlaceholder_of_head_ne
    {character : Char} {rest : Text}
    (notColon : character ≠ ':') :
    readPlaceholder (character :: rest) = none := by
  unfold readPlaceholder
  split
  · rename_i same
    exact absurd (List.cons.inj same).1 notColon
  · rfl

/-- A name does not start a placeholder. -/
theorem readPlaceholder_of_name
    {name rest : Text}
    (nonempty : name ≠ [])
    (isName : ∀ character ∈ name, isNameCharacter character = true) :
    readPlaceholder (name ++ rest) = none := by
  cases name with
  | nil => exact absurd rfl nonempty
  | cons first others =>
      refine readPlaceholder_of_head_ne ?_
      rintro rfl
      exact absurd (isName ':' List.mem_cons_self) (by decide)

theorem argumentOnLine_append
    {argument : Text}
    (oneLine : '\n' ∉ argument) :
    argumentOnLine (argument ++ [')']) = some argument := by
  induction argument with
  | nil => rfl
  | cons character rest inductionHypothesis =>
      simp only [List.mem_cons, not_or] at oneLine
      have later := inductionHypothesis oneLine.2
      simp [argumentOnLine, Ne.symm oneLine.1, later]

theorem readCall_append
    {name argument : Text}
    (nonempty : name ≠ [])
    (isName : ∀ character ∈ name, isNameCharacter character = true)
    (oneLine : '\n' ∉ argument) :
    readCall (name ++ '(' :: (argument ++ [')'])) = some (call name argument) := by
  have stops : Text.StartsOutside isNameCharacter ('(' :: (argument ++ [')'])) :=
    Text.startsOutside_cons.mpr (by decide)
  have taken := Text.takeWhile_append_of_startsOutside isName stops
  have dropped := Text.dropWhile_append_of_startsOutside isName stops
  cases name with
  | nil =>
      exact absurd rfl nonempty
  | cons first others =>
      simp only [readCall, taken, dropped, argumentOnLine_append oneLine, Option.map_some]

private theorem argumentOnLine_split
    {text argument : Text}
    (read : argumentOnLine text = some argument) :
    ∃ rest, text = argument ++ ')' :: rest := by
  induction text generalizing argument with
  | nil =>
      cases read
  | cons character rest inductionHypothesis =>
      rw [argumentOnLine] at read
      split at read
      · cases read
      · split at read
        · rename_i longer readRest
          obtain ⟨remaining, split⟩ := inductionHypothesis readRest
          cases read
          exact ⟨remaining, by rw [split, List.cons_append]⟩
        · split at read
          · rename_i closing
            cases read
            exact ⟨rest, by rw [closing, List.nil_append]⟩
          · cases read

theorem readPlaceholder_split
    {text : Text} {lexeme : Lexeme}
    (read : readPlaceholder text = some lexeme) :
    ∃ rest, text = lexeme.source ++ rest := by
  unfold readPlaceholder at read
  split at read
  · rename_i rest
    split at read
    · cases read
    · cases read
      exact ⟨rest.dropWhile isNameCharacter, by
        simp only [source, List.cons_append, List.takeWhile_append_dropWhile]⟩
  · cases read

theorem readCall_split
    {text : Text} {lexeme : Lexeme}
    (read : readCall text = some lexeme) :
    ∃ rest, text = lexeme.source ++ rest := by
  have parts : text = text.takeWhile isNameCharacter ++ text.dropWhile isNameCharacter :=
    List.takeWhile_append_dropWhile.symm
  unfold readCall at read
  split at read
  · cases read
  · rename_i afterName opened _
    obtain ⟨argument, readRest, rfl⟩ := Option.map_eq_some_iff.mp read
    obtain ⟨rest, split⟩ := argumentOnLine_split readRest
    rw [opened, split] at parts
    exact ⟨rest, by simpa [source] using parts⟩
  · cases read

/-- A call has an opening parenthesis in the text it is read from. -/
theorem readCall_of_not_mem
    {text : Text}
    (absent : '(' ∉ text) :
    readCall text = none := by
  unfold readCall
  split
  · rfl
  · rename_i afterName opened _
    have member : '(' ∈ text.dropWhile isNameCharacter := by
      rw [opened]
      simp
    exact absurd ((List.dropWhile_sublist _).subset member) absent
  · rfl

/-- A call starts with a character of a name. -/
theorem readCall_of_not_name
    {character : Char} {rest : Text}
    (notName : isNameCharacter character = false) :
    readCall (character :: rest) = none := by
  simp [readCall, notName]

theorem readCharacter_append
    {left right : Text}
    (nonempty : left ≠ []) :
    readCharacter (left ++ right) = readCharacter left := by
  cases left with
  | nil => exact absurd rfl nonempty
  | cons character others => rfl

end Lexeme

/-- The lexeme that the first applicable rule reads at the start of a text. -/
def firstLexeme (calls : Calls) (text : Text) : Option Lexeme :=
  (scanRules calls).findSome? (· text)

theorem firstLexeme_applied (text : Text) :
    firstLexeme .applied text =
      (Lexeme.readPlaceholder text).or
        ((Lexeme.readCall text).or (Lexeme.readCharacter text)) := by
  cases placeholder : Lexeme.readPlaceholder text <;>
    cases call : Lexeme.readCall text <;>
      cases literal : Lexeme.readCharacter text <;>
        simp [firstLexeme, scanRules, placeholder, call, literal]

theorem firstLexeme_inert (text : Text) :
    firstLexeme .inert text =
      (Lexeme.readPlaceholder text).or (Lexeme.readCharacter text) := by
  cases placeholder : Lexeme.readPlaceholder text <;>
    cases literal : Lexeme.readCharacter text <;>
      simp [firstLexeme, scanRules, placeholder, literal]

/-- The first lexeme of a text is its start. -/
theorem firstLexeme_split
    {calls : Calls} {text : Text} {lexeme : Lexeme}
    (first : firstLexeme calls text = some lexeme) :
    ∃ rest, text = lexeme.source ++ rest := by
  obtain ⟨rule, member, read⟩ := List.exists_of_findSome?_eq_some first
  have readCharacter_split :
      Lexeme.readCharacter text = some lexeme → ∃ rest, text = lexeme.source ++ rest := by
    intro readOne
    cases text with
    | nil => cases readOne
    | cons character rest =>
        cases readOne
        exact ⟨rest, rfl⟩
  cases calls <;> simp only [scanRules, List.mem_cons, List.not_mem_nil, or_false] at member
  · rcases member with rfl | rfl | rfl
    · exact Lexeme.readPlaceholder_split read
    · exact Lexeme.readCall_split read
    · exact readCharacter_split read
  · rcases member with rfl | rfl
    · exact Lexeme.readPlaceholder_split read
    · exact readCharacter_split read

theorem source_ne_nil
    {calls : Calls} {text : Text} {lexeme : Lexeme}
    (first : firstLexeme calls text = some lexeme) :
    lexeme.source ≠ [] := by
  cases lexeme with
  | placeholder name =>
      simp [Lexeme.source]
  | call name argument =>
      simp [Lexeme.source]
  | literal source =>
      obtain ⟨rule, member, read⟩ := List.exists_of_findSome?_eq_some first
      have placeholderOnly : Lexeme.readPlaceholder text ≠ some (.literal source) := by
        unfold Lexeme.readPlaceholder
        split
        · split <;> simp
        · simp
      have callOnly : Lexeme.readCall text ≠ some (.literal source) := by
        unfold Lexeme.readCall
        split <;> simp
      have oneCharacter :
          Lexeme.readCharacter text = some (.literal source) → source ≠ [] := by
        intro readOne
        cases text with
        | nil => cases readOne
        | cons character rest =>
            cases readOne
            simp
      cases calls <;>
        simp only [scanRules, List.mem_cons, List.not_mem_nil, or_false] at member
      · rcases member with rfl | rfl | rfl
        · exact absurd read placeholderOnly
        · exact absurd read callOnly
        · exact oneCharacter read
      · rcases member with rfl | rfl
        · exact absurd read placeholderOnly
        · exact oneCharacter read

theorem firstLexeme_isSome (calls : Calls) (character : Char) (rest : Text) :
    (firstLexeme calls (character :: rest)).isSome := by
  cases calls
  · rw [firstLexeme_applied]
    simp [Lexeme.readCharacter]
  · rw [firstLexeme_inert]
    simp [Lexeme.readCharacter]

/-- The part of a text that belongs to the lexeme before is passed over, and the position only
shows in the place where a scan stops. -/
private theorem scanFrom_eq_ok
    (calls : Calls) (text : Text) :
    ∀ covered, ∃ found, ∀ position,
      scanFrom (scanRules calls) position covered text = .ok found ∧
        scanFrom (scanRules calls) position 0 (text.drop covered) = .ok found := by
  induction text with
  | nil =>
      intro covered
      refine ⟨[], fun position => ⟨?_, ?_⟩⟩
      · cases covered <;> rfl
      · rw [List.drop_nil]
        rfl
  | cons character rest inductionHypothesis =>
      intro covered
      cases covered with
      | succ covered =>
          obtain ⟨found, scanned⟩ := inductionHypothesis covered
          exact ⟨found, fun position => ⟨(scanned (position + character.utf8Size)).1,
            (scanned position).2⟩⟩
      | zero =>
          obtain ⟨lexeme, first⟩ :=
            Option.isSome_iff_exists.mp (firstLexeme_isSome calls character rest)
          obtain ⟨found, scanned⟩ := inductionHypothesis (lexeme.source.length - 1)
          have stepped :
              ∀ position,
                scanFrom (scanRules calls) position 0 (character :: rest) =
                  .ok (lexeme :: found) := by
            intro position
            rw [firstLexeme] at first
            simp only [scanFrom, first, (scanned (position + character.utf8Size)).1]
          exact ⟨lexeme :: found, fun position => ⟨stepped position, stepped position⟩⟩

theorem scan_eq_ok (calls : Calls) (text : Text) :
    scan (scanRules calls) text = .ok (lexemes calls text) := by
  obtain ⟨found, scanned⟩ := scanFrom_eq_ok calls text 0
  have scannedAll : scan (scanRules calls) text = .ok found := (scanned 0).1
  rw [lexemes, scannedAll]

theorem lexemes_nil (calls : Calls) : lexemes calls [] = [] :=
  rfl

/-- The lexemes of a pattern are its first lexeme and the lexemes of what follows. -/
theorem lexemes_append
    {calls : Calls} {lexeme : Lexeme} {rest : Text}
    (first : firstLexeme calls (lexeme.source ++ rest) = some lexeme) :
    lexemes calls (lexeme.source ++ rest) = lexeme :: lexemes calls rest := by
  have nonempty := source_ne_nil first
  cases parts : lexeme.source with
  | nil =>
      exact absurd parts nonempty
  | cons character others =>
      rw [parts] at first
      have covered : lexeme.source.length - 1 = others.length := by
        rw [parts, List.length_cons, Nat.add_sub_cancel]
      obtain ⟨found, scanned⟩ := scanFrom_eq_ok calls (others ++ rest) others.length
      have later : lexemes calls rest = found := by
        have fromStart := (scanned 0).2
        rw [List.drop_left] at fromStart
        have all := scan_eq_ok calls rest
        rw [scan, fromStart] at all
        exact (Except.ok.inj all).symm
      have whole : scan (scanRules calls) (character :: others ++ rest) =
          .ok (lexeme :: found) := by
        rw [firstLexeme, List.cons_append] at first
        rw [scan, List.cons_append]
        simp only [scanFrom, first, covered, (scanned (0 + character.utf8Size)).1]
      rw [later]
      exact Except.ok.inj ((scan_eq_ok calls _).symm.trans whole)

/-- Induction on a text lexeme by lexeme and through the arguments of its calls. -/
theorem lexeme_argument_induction
    (calls : Calls) {motive : Text → Prop}
    (nil : motive [])
    (append : ∀ (lexeme : Lexeme) (rest : Text),
      firstLexeme calls (lexeme.source ++ rest) = some lexeme →
        (∀ name argument, lexeme = .call name argument → motive argument) →
          motive rest → motive (lexeme.source ++ rest))
    (text : Text) :
    motive text := by
  induction size : text.length using Nat.strongRecOn generalizing text with
  | ind bound inductionHypothesis =>
      cases text with
      | nil => exact nil
      | cons character others =>
          obtain ⟨lexeme, first⟩ :=
            Option.isSome_iff_exists.mp (firstLexeme_isSome calls character others)
          obtain ⟨rest, split⟩ := firstLexeme_split first
          have nonempty := List.length_pos_iff.mpr (source_ne_nil first)
          rw [split] at first size ⊢
          have shorter : rest.length < bound := by
            rw [← size, List.length_append]
            omega
          refine append lexeme rest first ?_ (inductionHypothesis rest.length shorter rest rfl)
          rintro name argument rfl
          have argumentShorter : argument.length < bound := by
            rw [← size]
            simp only [Lexeme.source, List.length_append, List.length_cons]
            omega
          exact inductionHypothesis argument.length argumentShorter argument rfl

/-- Induction on a text lexeme by lexeme. -/
theorem lexeme_induction
    (calls : Calls) {motive : Text → Prop}
    (nil : motive [])
    (append : ∀ (lexeme : Lexeme) (rest : Text),
      firstLexeme calls (lexeme.source ++ rest) = some lexeme →
        motive rest → motive (lexeme.source ++ rest))
    (text : Text) :
    motive text :=
  lexeme_argument_induction calls nil
    (fun lexeme rest first _ later => append lexeme rest first later) text

/-- The lexemes of a pattern make it up. -/
theorem flatMap_source_lexemes (calls : Calls) (pattern : Text) :
    (lexemes calls pattern).flatMap Lexeme.source = pattern := by
  induction pattern using lexeme_induction calls with
  | nil => rw [lexemes_nil, List.flatMap_nil]
  | append lexeme rest first inductionHypothesis =>
      rw [lexemes_append first, List.flatMap_cons, inductionHypothesis]

/-- A lexeme of a pattern is the first one of the rest of the pattern where it stands. -/
theorem exists_firstLexeme_of_mem
    {calls : Calls} {pattern : Text} {lexeme : Lexeme}
    (member : lexeme ∈ lexemes calls pattern) :
    ∃ rest, firstLexeme calls (lexeme.source ++ rest) = some lexeme := by
  induction pattern using lexeme_induction calls with
  | nil => cases member
  | append front rest first inductionHypothesis =>
      rw [lexemes_append first] at member
      rcases List.mem_cons.mp member with rfl | later
      · exact ⟨rest, first⟩
      · exact inductionHypothesis later

end TitleStamp
