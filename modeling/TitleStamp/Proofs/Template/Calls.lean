import TitleStamp.Proofs.Template.Grammar
import TitleStamp.Proofs.Template.Placeholders
import TitleStamp.Proofs.Template.Rendering

/-!
# Calls in a rendered pattern

A call of a transform applies it to the rendered argument.  Any other call is inert, together with
all calls in its argument: only its placeholders are replaced.  A pattern that calls no transform
therefore renders to the same text whether calls are applied or not.
-/

namespace TitleStamp

section Values

variable {values : Variables} {name argument : Text}

/-- An inert call keeps its name and its parentheses around the inert argument. -/
theorem renderInert_call
    (argument : Text)
    (isName : ∀ character ∈ name, isNameCharacter character = true) :
    renderInert values (Lexeme.call name argument).source =
      name ++ '(' :: (renderInert values argument ++ [')']) := by
  have noColon : ':' ∉ name ++ ['('] := by
    intro member
    rcases List.mem_append.mp member with inName | isParenthesis
    · exact absurd (isName ':' inName) (by decide)
    · exact absurd (List.mem_singleton.mp isParenthesis) (by decide)
  have closingStops : Text.StartsOutside isNameCharacter [')'] := by
    decide
  have split :
      (Lexeme.call name argument).source = (name ++ ['(']) ++ (argument ++ [')']) := by
    simp [Lexeme.source]
  rw [split, renderInert_append (.of_not_mem noColon),
    renderInert_eq_self (noPlaceholderIn_of_not_mem noColon),
    renderInert_append (.of_startsOutside closingStops), renderInert_singleton,
    List.append_assoc, List.singleton_append]

theorem value_call_of_unregistered
    (isName : ∀ character ∈ name, isNameCharacter character = true)
    (unregistered : Transform.named? name = none) :
    (Lexeme.call name argument).value values =
      name ++ '(' :: (renderInert values argument ++ [')']) := by
  rw [Lexeme.value, unregistered, renderInert_call argument isName]

theorem value_call_of_registered
    {transform : Transform}
    (registered : Transform.named? name = some transform) :
    (Lexeme.call name argument).value values =
      transform.apply (renderApplied values argument) := by
  rw [Lexeme.value, registered]

/-- The name of a call in a pattern consists of characters of names. -/
theorem isName_of_call_mem_lexemes
    {pattern : Text}
    (member : Lexeme.call name argument ∈ lexemes .applied pattern) :
    ∀ character ∈ name, isNameCharacter character = true := by
  obtain ⟨rest, first⟩ := exists_firstLexeme_of_mem member
  cases Lexeme.firstLexeme_eq_some_iff.mp first with
  | call _ stands => exact stands.2.1

/-- Applying calls makes no difference to a pattern that calls no transform. -/
theorem renderApplied_eq_renderInert
    {pattern : Text}
    (unregistered :
      ∀ name argument, Lexeme.call name argument ∈ lexemes .applied pattern →
        Transform.named? name = none) :
    renderApplied values pattern = renderInert values pattern := by
  induction pattern using lexeme_induction .applied with
  | nil => rw [renderApplied_nil, renderInert_nil]
  | append lexeme rest first inductionHypothesis =>
      rw [lexemes_append first] at unregistered
      have later : renderApplied values rest = renderInert values rest :=
        inductionHypothesis fun name argument member =>
          unregistered name argument (List.mem_cons_of_mem _ member)
      rw [renderApplied_append first, later]
      cases Lexeme.firstLexeme_eq_some_iff.mp first with
      | @placeholder name stands =>
          have firstInert :
              firstLexeme .inert ((Lexeme.placeholder name).source ++ rest) =
                some (.placeholder name) := by
            rw [firstLexeme_inert,
              Lexeme.readPlaceholder_eq_some_iff.mpr ⟨name, rfl, stands⟩, Option.some_or]
          rw [renderInert_firstLexeme firstInert, Lexeme.value, Lexeme.inertValue]
      | @call name argument _ _ =>
          -- Nothing goes across the parenthesis that closes the call.
          have apart : NoPlaceholderAcross (Lexeme.call name argument).source rest :=
            .of_concat (by decide) (by decide)
          rw [renderInert_append apart, Lexeme.value,
            unregistered name argument List.mem_cons_self]
      | @literal character _ noPlaceholder _ _ =>
          have firstInert :
              firstLexeme .inert ((Lexeme.literal [character]).source ++ rest) =
                some (.literal [character]) := by
            rw [firstLexeme_inert, Lexeme.readPlaceholder_eq_none_iff.mpr noPlaceholder,
              Option.none_or]
            rfl
          rw [renderInert_firstLexeme firstInert]
          rfl

end Values

/-- A pattern that calls no transform renders to itself with its placeholders replaced at once,
whether calls are applied or not, and so does the argument of every call in it. -/
theorem render_eq_filled_of_unregistered
    (values : Variables) (pattern : Text)
    (unregistered :
      ∀ name argument, Lexeme.call name argument ∈ lexemes .applied pattern →
        Transform.named? name = none) :
    (∃ cut : PlaceholderCut, cut.source = pattern) ∧
      (∀ cut : PlaceholderCut, cut.source = pattern →
        render .applied values pattern = cut.filled values ∧
          render .inert values pattern = cut.filled values) ∧
      ∀ name argument, Lexeme.call name argument ∈ lexemes .applied pattern →
        ∀ inner : PlaceholderCut, inner.source = argument →
          (Lexeme.call name argument).value values =
            name ++ '(' :: (inner.filled values ++ [')']) := by
  refine ⟨PlaceholderCut.exists_source_eq pattern, ?_, ?_⟩
  · rintro cut rfl
    have inert : renderInert values cut.source = cut.filled values := cut.renderInert_source values
    exact ⟨(renderApplied_eq_renderInert unregistered).trans inert, inert⟩
  · rintro name argument member inner rfl
    have isName := isName_of_call_mem_lexemes member
    rw [value_call_of_unregistered isName (unregistered _ _ member), inner.renderInert_source]

/-- A note about a transform does not apply it, and a value is not rendered again. -/
theorem render_note :
    render .applied
        (Variables.ofBindings [("x".toList, ":y upper(q)".toList), ("y".toList, " t ".toList)])
        "see :x in note(trim(:y)) :z1".toList =
      "see :y upper(q) in note(trim( t )) 1".toList := by
  have noTransform :
      ((lexemes .applied "see :x in note(trim(:y)) :z1".toList).all fun lexeme =>
        match lexeme with
        | .call name _ => (Transform.named? name).isNone
        | _ => true) = true := by
    decide +kernel
  have unregistered :
      ∀ name argument,
        Lexeme.call name argument ∈ lexemes .applied "see :x in note(trim(:y)) :z1".toList →
          Transform.named? name = none :=
    fun _ _ member => Option.isNone_iff_eq_none.mp (List.all_eq_true.mp noTransform _ member)
  let cut : PlaceholderCut :=
    ⟨"see ".toList, by decide,
      [⟨"x".toList, " in note(trim(".toList, by decide, by decide, by decide, by decide⟩,
        ⟨"y".toList, ")) ".toList, by decide, by decide, by decide, by decide⟩,
        ⟨"z".toList, "1".toList, by decide, by decide, by decide, by decide⟩]⟩
  have rendered :=
    (render_eq_filled_of_unregistered
      (Variables.ofBindings [("x".toList, ":y upper(q)".toList), ("y".toList, " t ".toList)])
      _ unregistered).2.1 cut (by decide)
  rw [rendered.1]
  decide

/-- A call that ends the pattern applies its transform to the rendered argument, or is inert if it
names none.  Nested calls apply their transforms from the inside out. -/
theorem render_call
    (values : Variables) (name argument : Text)
    (nonempty : name ≠ [])
    (isName : ∀ character ∈ name, isNameCharacter character = true)
    (oneLine : '\n' ∉ argument) :
    (∀ transform, Transform.named? name = some transform →
        render .applied values (name ++ '(' :: (argument ++ [')'])) =
          transform.apply (render .applied values argument)) ∧
      (Transform.named? name = none →
        render .applied values (name ++ '(' :: (argument ++ [')'])) =
          name ++ '(' :: (render .inert values argument ++ [')'])) ∧
      ∀ transforms : List Transform,
        render .applied values (nestedCalls transforms argument) =
          applyAll transforms (render .applied values argument) := by
  have whole :
      render .applied values (name ++ '(' :: (argument ++ [')'])) =
        (Lexeme.call name argument).value values :=
    renderApplied_call nonempty isName oneLine
  refine ⟨?_, ?_, ?_⟩
  · intro transform registered
    rw [whole, value_call_of_registered registered, render]
  · intro unregistered
    rw [whole, value_call_of_unregistered isName unregistered, render]
  · intro transforms
    exact renderApplied_nestedCalls transforms oneLine

/-- The last parenthesis of the line closes a call, whatever is opened and closed before. -/
theorem render_unbalanced_calls :
    render .applied (Variables.ofBindings [("x".toList, "a b".toList)])
        "upper(:x) (b)".toList =
      Text.uppercase
        (render .applied (Variables.ofBindings [("x".toList, "a b".toList)])
          ":x) (b".toList) ∧
      render .applied (Variables.ofBindings [("x".toList, "a b".toList)])
          "note(trim(:x) (b)".toList =
        "note(trim(a b) (b)".toList := by
  let values := Variables.ofBindings [("x".toList, "a b".toList)]
  constructor
  · exact
      (render_call values "upper".toList ":x) (b".toList (by decide) (by decide)
        (by decide)).1 .upper (by decide)
  · have inert : render .inert values "trim(:x) (b".toList = "trim(a b) (b".toList := by
      decide +kernel
    have kept :=
      (render_call values "note".toList "trim(:x) (b".toList (by decide) (by decide)
        (by decide)).2.1 (by decide)
    rw [inert] at kept
    exact kept

end TitleStamp
