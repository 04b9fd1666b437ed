import TitleStamp.Template.Lexeme
import TitleStamp.Template.Transform

/-!
# Rendering a title pattern

A placeholder is replaced by its value, or by nothing if it has none.  A call of a transform
applies it to its rendered argument.  A call of anything else stays as text in which only
placeholders are replaced.  Values are never scanned.
-/

namespace TitleStamp

/-- The values of placeholders, by name. -/
abbrev Variables := Text → Option Text

namespace Variables

/-- The variables bound by a list of names and values; of two equal names the later wins. -/
def ofBindings (bindings : List (Text × Text)) : Variables :=
  fun name => bindings.reverse.lookup name

/-- The value that replaces a placeholder. -/
def get (values : Variables) (name : Text) : Text :=
  (values name).getD []

end Variables

/-- The text of a lexeme when calls are inert. -/
def Lexeme.inertValue (values : Variables) : Lexeme → Text
  | .placeholder name => values.get name
  | other => other.source

/-- Renders a pattern in which calls are inert. -/
def renderInert (values : Variables) (pattern : Text) : Text :=
  (lexemes .inert pattern).flatMap (·.inertValue values)

private theorem argument_shorter
    {name argument text : Text}
    (found : Lexeme.readCall text = some (.call name argument)) :
    argument.length < text.length := by
  have onLine :
      ∀ (line argument : Text), Lexeme.argumentOnLine line = some argument →
        argument.length < line.length := by
    intro line
    induction line with
    | nil => simp [Lexeme.argumentOnLine]
    | cons character rest inductionHypothesis =>
        intro argument read
        rw [Lexeme.argumentOnLine] at read
        split at read
        · cases read
        · split at read
          · cases read
            rename_i shorter readRest
            have := inductionHypothesis _ readRest
            simp only [List.length_cons]
            omega
          · split at read
            · cases read
              simp
            · cases read
  have dropShorter : ∀ text : Text, (text.dropWhile isNameCharacter).length ≤ text.length :=
    fun text => (List.dropWhile_sublist _).length_le
  rw [Lexeme.readCall] at found
  split at found
  · cases found
  · rename_i rest opened _
    rw [Option.map_eq_some_iff] at found
    obtain ⟨inner, readInner, same⟩ := found
    cases same
    have := onLine _ _ readInner
    have := dropShorter text
    rw [opened, List.length_cons] at this
    omega
  · cases found

private theorem firstCall_shorter
    {calls : Calls} {name argument text : Text}
    (found : (scanRules calls).findSome? (· text) = some (.call name argument)) :
    argument.length < text.length := by
  have notPlaceholder :
      ∀ text, Lexeme.readPlaceholder text ≠ some (.call name argument) := by
    intro text read
    unfold Lexeme.readPlaceholder at read
    split at read
    · split at read <;> cases read
    · cases read
  have notCharacter :
      ∀ text, Lexeme.readCharacter text ≠ some (.call name argument) := by
    intro text read
    unfold Lexeme.readCharacter at read
    split at read <;> cases read
  obtain ⟨rule, member, read⟩ := List.exists_of_findSome?_eq_some found
  cases calls <;> simp only [scanRules, List.mem_cons, List.not_mem_nil, or_false] at member
  · rcases member with rfl | rfl | rfl
    · exact absurd read (notPlaceholder _)
    · exact argument_shorter read
    · exact absurd read (notCharacter _)
  · rcases member with rfl | rfl
    · exact absurd read (notPlaceholder _)
    · exact absurd read (notCharacter _)

private theorem scannedCall_shorter
    {calls : Calls} {name argument : Text} :
    ∀ {text : Text} {position covered : Nat} {found : List Lexeme},
      scanFrom (scanRules calls) position covered text = .ok found →
        Lexeme.call name argument ∈ found → argument.length < text.length := by
  intro text
  induction text with
  | nil =>
      intro position covered found scanned member
      cases covered <;> simp only [scanFrom, Except.ok.injEq] at scanned <;>
        simp [← scanned] at member
  | cons character rest inductionHypothesis =>
      intro position covered found scanned member
      cases covered with
      | succ covered =>
          have := inductionHypothesis scanned member
          simp only [List.length_cons]
          omega
      | zero =>
          rw [scanFrom] at scanned
          split at scanned
          · cases scanned
          · rename_i lexeme first
            split at scanned
            · rename_i later scannedRest
              cases scanned
              rcases List.mem_cons.mp member with same | memberLater
              · exact firstCall_shorter (same ▸ first)
              · have := inductionHypothesis scannedRest memberLater
                simp only [List.length_cons]
                omega
            · cases scanned

/-- The argument of a call is shorter than the pattern that contains the call. -/
theorem argument_length_lt
    {calls : Calls} {name argument pattern : Text}
    (member : Lexeme.call name argument ∈ lexemes calls pattern) :
    argument.length < pattern.length := by
  unfold lexemes scan at member
  split at member
  · rename_i found scanned
    exact scannedCall_shorter scanned member
  · simp at member

/-- Renders a pattern in which calls are applied. -/
def renderApplied (values : Variables) (pattern : Text) : Text :=
  (lexemes .applied pattern).attach.flatMap fun ⟨lexeme, _⟩ =>
    match lexeme with
    | .placeholder name => values.get name
    | .call name argument =>
        match Transform.named? name with
        | some transform => transform.apply (renderApplied values argument)
        | none => renderInert values (Lexeme.call name argument).source
    | .literal text => text
termination_by pattern.length
decreasing_by exact argument_length_lt ‹_›

/-- What a lexeme of a pattern renders to when calls are applied. -/
def Lexeme.value (values : Variables) : Lexeme → Text
  | .placeholder name => values.get name
  | .call name argument =>
      match Transform.named? name with
      | some transform => transform.apply (renderApplied values argument)
      | none => renderInert values (Lexeme.call name argument).source
  | .literal text => text

/-- A pattern renders to the values of its lexemes, one after another. -/
theorem renderApplied_eq_flatMap
    (values : Variables) (pattern : Text) :
    renderApplied values pattern =
      (lexemes .applied pattern).flatMap (·.value values) := by
  rw [renderApplied, List.flatMap_subtype (g := (·.value values))]
  · rw [List.unattach_attach]
  · intro lexeme member
    cases lexeme <;> rfl

def render (calls : Calls) (values : Variables) (pattern : Text) : Text :=
  match calls with
  | .applied => renderApplied values pattern
  | .inert => renderInert values pattern

end TitleStamp
