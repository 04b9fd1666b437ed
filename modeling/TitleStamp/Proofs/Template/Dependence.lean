import TitleStamp.Proofs.Template.Calls
import TitleStamp.Proofs.Template.Trace

/-!
# What a rendering depends on

What a pattern does with the values of its placeholders is settled before any value is known.  It
is a plan made of texts, values and transforms, whose names are those of placeholders that stand
in the pattern, at any depth.  Values that agree on these names render alike, and no value adds or
removes a placeholder or a call.
-/

namespace TitleStamp

/-- Somewhere in the pattern stands a colon with the name, and no longer name stands there. -/
def HasPlaceholder (pattern name : Text) : Prop :=
  ∃ before text, pattern = before ++ text ∧ Lexeme.PlaceholderAt text name

namespace HasPlaceholder

variable {pattern name : Text}

theorem of_placeholderAt (stands : Lexeme.PlaceholderAt pattern name) :
    HasPlaceholder pattern name :=
  ⟨[], pattern, rfl, stands⟩

theorem prepend (front : Text) (placed : HasPlaceholder pattern name) :
    HasPlaceholder (front ++ pattern) name := by
  obtain ⟨before, text, rfl, stands⟩ := placed
  exact ⟨front ++ before, text, by rw [List.append_assoc], stands⟩

/-- A placeholder of a part is one of the whole if it does not go on behind the part. -/
theorem append
    {following : Text}
    (apart : NoPlaceholderAcross pattern following)
    (placed : HasPlaceholder pattern name) :
    HasPlaceholder (pattern ++ following) name := by
  obtain ⟨before, text, rfl, nonempty, isName, rest, rfl, stops⟩ := placed
  refine ⟨before, ':' :: (name ++ (rest ++ following)), by simp, nonempty, isName,
    rest ++ following, rfl, ?_⟩
  cases rest with
  | nil =>
      rw [List.nil_append]
      exact apart before name (by rw [List.append_nil]) isName
  | cons first others => exact Text.startsOutside_cons.mpr (Text.startsOutside_cons.mp stops)

theorem cons_iff {character : Char} {rest : Text} :
    HasPlaceholder (character :: rest) name ↔
      Lexeme.PlaceholderAt (character :: rest) name ∨ HasPlaceholder rest name := by
  constructor
  · rintro ⟨before, text, split, stands⟩
    cases before with
    | nil =>
        rw [List.nil_append] at split
        exact Or.inl (split ▸ stands)
    | cons other before =>
        rw [List.cons_append, List.cons.injEq] at split
        exact Or.inr ⟨before, text, split.2, stands⟩
  · rintro (here | later)
    · exact of_placeholderAt here
    · exact later.prepend [character]

end HasPlaceholder

/-- The names of all placeholders that stand in a pattern. -/
def placeholderNames : Text → List Text
  | [] => []
  | character :: rest =>
      match Lexeme.readPlaceholder (character :: rest) with
      | some (.placeholder name) => name :: placeholderNames rest
      | _ => placeholderNames rest

theorem mem_placeholderNames_iff {pattern name : Text} :
    name ∈ placeholderNames pattern ↔ HasPlaceholder pattern name := by
  induction pattern with
  | nil =>
      refine iff_of_false List.not_mem_nil ?_
      rintro ⟨before, text, split, _, _, rest, rfl, _⟩
      simp at split
  | cons character rest inductionHypothesis =>
      rw [HasPlaceholder.cons_iff, ← inductionHypothesis, placeholderNames]
      cases read : Lexeme.readPlaceholder (character :: rest) with
      | some lexeme =>
          obtain ⟨other, rfl, stands⟩ := Lexeme.readPlaceholder_eq_some_iff.mp read
          rw [List.mem_cons]
          refine or_congr_left ⟨?_, ?_⟩
          · rintro rfl
            exact stands
          · intro standsHere
            have readHere := Lexeme.readPlaceholder_eq_some_iff.mpr ⟨name, rfl, standsHere⟩
            rw [read] at readHere
            cases readHere
            rfl
      | none =>
          have absent := Lexeme.readPlaceholder_eq_none_iff.mp read name
          simp [absent]

/-- What is done with the values of placeholders, whatever they are. -/
inductive RenderPlan where
  | text (shown : Text)
  | value (name : Text)
  | transformed (transform : Transform) (argument : RenderPlan)
  | joined (first second : RenderPlan)

namespace RenderPlan

/-- The text that a plan gives for given values. -/
def fill (values : Variables) : RenderPlan → Text
  | text shown => shown
  | value name => values.get name
  | transformed transform argument => transform.apply (argument.fill values)
  | joined first second => first.fill values ++ second.fill values

/-- The names whose values a plan uses. -/
def names : RenderPlan → List Text
  | text _ => []
  | value name => [name]
  | transformed _ argument => argument.names
  | joined first second => first.names ++ second.names

theorem fill_congr
    {plan : RenderPlan} {values others : Variables}
    (agree : ∀ name ∈ plan.names, values name = others name) :
    plan.fill values = plan.fill others := by
  induction plan with
  | text shown => rfl
  | value name =>
      have same := agree name (List.mem_singleton_self name)
      rw [fill, fill, Variables.get, Variables.get, same]
  | transformed transform argument inductionHypothesis =>
      rw [fill, fill, inductionHypothesis agree]
  | joined first second firstHypothesis secondHypothesis =>
      have agreeFirst : ∀ name ∈ first.names, values name = others name :=
        fun name member => agree name (List.mem_append_left _ member)
      have agreeSecond : ∀ name ∈ second.names, values name = others name :=
        fun name member => agree name (List.mem_append_right _ member)
      rw [fill, fill, firstHypothesis agreeFirst, secondHypothesis agreeSecond]

/-- The plan gives a rendering for all values and asks only for those of placeholders that stand
in the pattern. -/
structure Describes
    (plan : RenderPlan) (pattern : Text) (rendering : Variables → Text) : Prop where
  named : ∀ name ∈ plan.names, HasPlaceholder pattern name
  filled : ∀ values, rendering values = plan.fill values

theorem describes_text (pattern shown : Text) :
    (text shown).Describes pattern fun _ => shown :=
  ⟨fun _ member => absurd member List.not_mem_nil, fun _ => rfl⟩

theorem describes_value
    {calls : Calls} {pattern name : Text}
    (first : firstLexeme calls pattern = some (.placeholder name)) :
    (value name).Describes pattern fun values => values.get name := by
  refine ⟨?_, fun _ => rfl⟩
  intro other member
  rw [List.mem_singleton.mp member]
  exact .of_placeholderAt (Lexeme.placeholderAt_of_firstLexeme first)

/-- A plan of what stands at the start of a pattern goes on with a plan of the rest. -/
theorem Describes.joined
    {first second : RenderPlan} {front rest : Text} {starting remaining : Variables → Text}
    (firstDescribes : first.Describes (front ++ rest) starting)
    (secondDescribes : second.Describes rest remaining) :
    (first.joined second).Describes (front ++ rest) fun values =>
      starting values ++ remaining values := by
  refine ⟨?_, ?_⟩
  · intro name member
    rcases List.mem_append.mp member with inFirst | inSecond
    · exact firstDescribes.named name inFirst
    · exact (secondDescribes.named name inSecond).prepend front
  · intro values
    rw [firstDescribes.filled, secondDescribes.filled, fill]

theorem exists_describes_inert (pattern : Text) :
    ∃ plan : RenderPlan, plan.Describes pattern fun values => renderInert values pattern := by
  induction pattern using lexeme_induction .inert with
  | nil => exact ⟨text [], describes_text [] []⟩
  | append lexeme rest first inductionHypothesis =>
      obtain ⟨later, laterDescribes⟩ := inductionHypothesis
      have here :
          ∃ plan : RenderPlan,
            plan.Describes (lexeme.source ++ rest) fun values => lexeme.inertValue values := by
        cases lexeme with
        | placeholder name => exact ⟨value name, describes_value first⟩
        | call name argument => exact ⟨text _, describes_text _ _⟩
        | literal shown => exact ⟨text shown, describes_text _ shown⟩
      obtain ⟨plan, describes⟩ := here
      refine ⟨plan.joined later, ?_⟩
      simp only [renderInert_firstLexeme first]
      exact describes.joined laterDescribes

theorem exists_describes_applied (pattern : Text) :
    ∃ plan : RenderPlan, plan.Describes pattern fun values => renderApplied values pattern := by
  induction pattern using lexeme_argument_induction .applied with
  | nil =>
      refine ⟨text [], ?_⟩
      simp only [renderApplied_nil]
      exact describes_text [] []
  | append lexeme rest first argumentHypothesis inductionHypothesis =>
      obtain ⟨later, laterDescribes⟩ := inductionHypothesis
      have here :
          ∃ plan : RenderPlan,
            plan.Describes (lexeme.source ++ rest) fun values => lexeme.value values := by
        cases lexeme with
        | placeholder name => exact ⟨value name, describes_value first⟩
        | literal shown => exact ⟨text shown, describes_text _ shown⟩
        | call name argument =>
            cases registered : Transform.named? name with
            | some transform =>
                obtain ⟨inner, innerDescribes⟩ := argumentHypothesis name argument rfl
                -- The parenthesis behind the argument ends every placeholder in it.
                have apart : NoPlaceholderAcross argument (')' :: rest) :=
                  .of_startsOutside (Text.startsOutside_cons.mpr (by decide))
                have split :
                    (Lexeme.call name argument).source ++ rest =
                      (name ++ ['(']) ++ (argument ++ ')' :: rest) := by
                  simp [Lexeme.source]
                refine ⟨transformed transform inner, ?_, ?_⟩
                · intro other member
                  rw [split]
                  exact ((innerDescribes.named other member).append apart).prepend _
                · intro values
                  rw [value_call_of_registered registered, innerDescribes.filled, fill]
            | none =>
                obtain ⟨inner, innerDescribes⟩ :=
                  exists_describes_inert (Lexeme.call name argument).source
                have apart : NoPlaceholderAcross (Lexeme.call name argument).source rest :=
                  .of_concat (by decide) (by decide)
                refine ⟨inner, ?_, ?_⟩
                · intro other member
                  exact (innerDescribes.named other member).append apart
                · intro values
                  rw [Lexeme.value, registered, innerDescribes.filled]
      obtain ⟨plan, describes⟩ := here
      refine ⟨plan.joined later, ?_⟩
      simp only [renderApplied_append first]
      exact describes.joined laterDescribes

/-- Every rendering follows a plan that is made before any value is known. -/
theorem exists_describes (calls : Calls) (pattern : Text) :
    ∃ plan : RenderPlan, plan.Describes pattern fun values => render calls values pattern := by
  cases calls with
  | applied => exact exists_describes_applied pattern
  | inert => exact exists_describes_inert pattern

end RenderPlan

/-- The values of placeholders do not show in the places of lexemes. -/
theorem map_outline_placeLexemes
    (values others : Variables) (start : Nat) (found : List Lexeme) :
    (placeLexemes values start found).map Token.outline =
      (placeLexemes others start found).map Token.outline := by
  induction found generalizing start with
  | nil => rfl
  | cons lexeme later inductionHypothesis =>
      rw [placeLexemes, placeLexemes, List.map_cons, List.map_cons, inductionHypothesis]
      rfl

/-- Values that agree on the names in a pattern render alike.  Any values at all give the same
trace, up to the texts that its tokens rendered to, and follow the same plan. -/
theorem render_depends_on_names (pattern : Text) :
    (∀ calls values others,
        (∀ name, HasPlaceholder pattern name → values name = others name) →
          render calls values pattern = render calls others pattern) ∧
      (∀ values others,
        (trace values pattern).map Token.outline =
          (trace others pattern).map Token.outline) ∧
      ∀ calls, ∃ plan : RenderPlan,
        plan.Describes pattern fun values => render calls values pattern := by
  refine ⟨?_, ?_, fun calls => RenderPlan.exists_describes calls pattern⟩
  · intro calls values others agree
    obtain ⟨plan, describes⟩ := RenderPlan.exists_describes calls pattern
    have sameFill : plan.fill values = plan.fill others :=
      RenderPlan.fill_congr fun name member => agree name (describes.named name member)
    rw [describes.filled values, describes.filled others, sameFill]
  · intro values others
    exact map_outline_placeLexemes values others 0 (lexemes .applied pattern)

/-- The values of `x_` and `title` make no difference to a pattern that asks for `x` and `x_y`. -/
theorem render_unused_value :
    (∀ name, HasPlaceholder "see :x in note(trim(:x)) upper(lower(:x_y))".toList name →
      Variables.ofBindings [("x".toList, "1".toList), ("x_y".toList, "q".toList),
          ("x_".toList, ":y".toList)] name =
        Variables.ofBindings [("title".toList, "trim(:x)".toList), ("x_y".toList, "q".toList),
          ("x".toList, "1".toList)] name) ∧
      render .applied
          (Variables.ofBindings [("x".toList, "1".toList), ("x_y".toList, "q".toList),
            ("x_".toList, ":y".toList)])
          "see :x in note(trim(:x)) upper(lower(:x_y))".toList =
        render .applied
          (Variables.ofBindings [("title".toList, "trim(:x)".toList), ("x_y".toList, "q".toList),
            ("x".toList, "1".toList)])
          "see :x in note(trim(:x)) upper(lower(:x_y))".toList := by
  have checked :
      ∀ name ∈ placeholderNames "see :x in note(trim(:x)) upper(lower(:x_y))".toList,
        Variables.ofBindings [("x".toList, "1".toList), ("x_y".toList, "q".toList),
            ("x_".toList, ":y".toList)] name =
          Variables.ofBindings [("title".toList, "trim(:x)".toList), ("x_y".toList, "q".toList),
            ("x".toList, "1".toList)] name := by
    decide +kernel
  have agree := fun name placed => checked name (mem_placeholderNames_iff.mpr placed)
  exact ⟨agree, (render_depends_on_names _).1 .applied _ _ agree⟩

end TitleStamp
