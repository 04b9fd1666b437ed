import TitleStamp.Proofs.Template.Scan
import TitleStamp.Template.Render

/-!
# Rendering a pattern part by part

A pattern renders to the value of its first lexeme followed by what the rest renders to.  Text
without syntax renders to itself, a placeholder to its value, and a call that reaches to the end
of the line to its transform applied to the rendered argument.
-/

namespace TitleStamp

variable {values : Variables}

theorem renderApplied_nil : renderApplied values [] = [] := by
  rw [renderApplied_eq_flatMap]
  rfl

theorem renderApplied_append
    {lexeme : Lexeme} {rest : Text}
    (first : firstLexeme .applied (lexeme.source ++ rest) = some lexeme) :
    renderApplied values (lexeme.source ++ rest) =
      lexeme.value values ++ renderApplied values rest := by
  rw [renderApplied_eq_flatMap, renderApplied_eq_flatMap, lexemes_append first,
    List.flatMap_cons]

theorem renderApplied_cons_literal
    {character : Char} {rest : Text}
    (notColon : character ≠ ':')
    (notCall : Lexeme.readCall (character :: rest) = none) :
    renderApplied values (character :: rest) = character :: renderApplied values rest := by
  have first :
      firstLexeme .applied ((Lexeme.literal [character]).source ++ rest) =
        some (.literal [character]) := by
    change firstLexeme .applied (character :: rest) = _
    rw [firstLexeme_applied, Lexeme.readPlaceholder_of_head_ne notColon, notCall]
    rfl
  exact renderApplied_append first

/-- Text without colons renders to itself if no parenthesis is opened in the pattern. -/
theorem renderApplied_literal_append
    {text rest : Text}
    (noColon : ':' ∉ text)
    (noCall : '(' ∉ text ++ rest) :
    renderApplied values (text ++ rest) = text ++ renderApplied values rest := by
  induction text with
  | nil => rfl
  | cons character text inductionHypothesis =>
      have notColon : character ≠ ':' := by
        rintro rfl
        exact noColon (by simp)
      have notCall := Lexeme.readCall_of_not_mem noCall
      rw [List.cons_append] at notCall noCall ⊢
      have later := inductionHypothesis
        (fun member => noColon (List.mem_cons_of_mem _ member))
        (fun member => noCall (List.mem_cons_of_mem _ member))
      rw [renderApplied_cons_literal notColon notCall, later, List.cons_append]

/-- Text of other characters than colons and those of names renders to itself. -/
theorem renderApplied_unnamed_append
    {text rest : Text}
    (noColon : ':' ∉ text)
    (noName : ∀ character ∈ text, isNameCharacter character = false) :
    renderApplied values (text ++ rest) = text ++ renderApplied values rest := by
  induction text with
  | nil => rfl
  | cons character text inductionHypothesis =>
      have notColon : character ≠ ':' := by
        rintro rfl
        exact noColon (by simp)
      have notCall : Lexeme.readCall (character :: (text ++ rest)) = none :=
        Lexeme.readCall_of_not_name (noName character (by simp))
      have later := inductionHypothesis
        (fun member => noColon (List.mem_cons_of_mem _ member))
        (fun other member => noName other (List.mem_cons_of_mem _ member))
      rw [List.cons_append, renderApplied_cons_literal notColon notCall, later,
        List.cons_append]

theorem renderApplied_placeholder_append
    {name rest : Text}
    (nonempty : name ≠ [])
    (isName : ∀ character ∈ name, isNameCharacter character = true)
    (stops : Text.StartsOutside isNameCharacter rest) :
    renderApplied values (':' :: (name ++ rest)) =
      values.get name ++ renderApplied values rest := by
  have first :
      firstLexeme .applied ((Lexeme.placeholder name).source ++ rest) =
        some (.placeholder name) := by
    change firstLexeme .applied (':' :: (name ++ rest)) = _
    rw [firstLexeme_applied, Lexeme.readPlaceholder_append nonempty isName stops]
    rfl
  exact renderApplied_append first

theorem renderApplied_placeholder
    {name : Text}
    (nonempty : name ≠ [])
    (isName : ∀ character ∈ name, isNameCharacter character = true) :
    renderApplied values (':' :: name) = values.get name := by
  have rendered :
      renderApplied values (':' :: (name ++ [])) = values.get name ++ renderApplied values [] :=
    renderApplied_placeholder_append nonempty isName Text.startsOutside_nil
  rwa [renderApplied_nil, List.append_nil, List.append_nil] at rendered

/-- A call that ends the pattern stands for its value. -/
theorem renderApplied_call
    {name argument : Text}
    (nonempty : name ≠ [])
    (isName : ∀ character ∈ name, isNameCharacter character = true)
    (oneLine : '\n' ∉ argument) :
    renderApplied values (name ++ '(' :: (argument ++ [')'])) =
      (Lexeme.call name argument).value values := by
  have source :
      (Lexeme.call name argument).source ++ [] = name ++ '(' :: (argument ++ [')']) := by
    simp [Lexeme.source]
  have first :
      firstLexeme .applied ((Lexeme.call name argument).source ++ []) =
        some (.call name argument) := by
    rw [source, firstLexeme_applied, Lexeme.readPlaceholder_of_name nonempty isName,
      Lexeme.readCall_append nonempty isName oneLine]
    rfl
  rw [← source, renderApplied_append first, renderApplied_nil, List.append_nil]

theorem name_ne_nil (transform : Transform) : transform.name ≠ [] := by
  cases transform <;> decide

theorem isNameCharacter_of_mem_name
    {transform : Transform} {character : Char}
    (member : character ∈ transform.name) :
    isNameCharacter character = true := by
  have all : ∀ other ∈ transform.name, isNameCharacter other = true := by
    cases transform <;> decide
  exact all character member

theorem named?_name (transform : Transform) :
    Transform.named? transform.name = some transform := by
  cases transform <;> rfl

/-- The pattern text of a call. -/
def callText (transform : Transform) (argument : Text) : Text :=
  transform.name ++ '(' :: (argument ++ [')'])

/-- A call that ends the pattern applies its transform to the rendered argument. -/
theorem renderApplied_callText
    {transform : Transform} {argument : Text}
    (oneLine : '\n' ∉ argument) :
    renderApplied values (callText transform argument) =
      transform.apply (renderApplied values argument) := by
  have isName : ∀ character ∈ transform.name, isNameCharacter character = true :=
    fun _ member => isNameCharacter_of_mem_name member
  rw [callText, renderApplied_call (name_ne_nil transform) isName oneLine, Lexeme.value,
    named?_name]

theorem lineFeed_not_mem_callText
    {transform : Transform} {argument : Text}
    (oneLine : '\n' ∉ argument) :
    '\n' ∉ callText transform argument := by
  have notInName : '\n' ∉ transform.name := by
    cases transform <;> decide
  simp [callText, notInName, oneLine]

/-- The pattern text of calls nested around an argument. -/
def nestedCalls (transforms : List Transform) (argument : Text) : Text :=
  transforms.foldr callText argument

/-- The text with transforms applied to it, the last one first. -/
def applyAll (transforms : List Transform) (text : Text) : Text :=
  transforms.foldr Transform.apply text

theorem lineFeed_not_mem_nestedCalls
    (transforms : List Transform) {argument : Text}
    (oneLine : '\n' ∉ argument) :
    '\n' ∉ nestedCalls transforms argument := by
  induction transforms with
  | nil => exact oneLine
  | cons transform transforms inductionHypothesis =>
      exact lineFeed_not_mem_callText inductionHypothesis

/-- Nested calls render to the rendered argument with the transforms applied. -/
theorem renderApplied_nestedCalls
    (transforms : List Transform) {argument : Text}
    (oneLine : '\n' ∉ argument) :
    renderApplied values (nestedCalls transforms argument) =
      applyAll transforms (renderApplied values argument) := by
  induction transforms with
  | nil => rfl
  | cons transform transforms inductionHypothesis =>
      have oneLineInside : '\n' ∉ nestedCalls transforms argument :=
        lineFeed_not_mem_nestedCalls transforms oneLine
      change renderApplied values (callText transform (nestedCalls transforms argument)) = _
      rw [renderApplied_callText oneLineInside, inductionHypothesis]
      rfl

end TitleStamp
