import TitleStamp.Proofs.Stamp.Rewriting
import TitleStamp.Proofs.Template.Rendering
import TitleStamp.Retitle

/-!
# Plain title patterns

A plain title pattern consists of literal texts around one placeholder of the duration and one of
the title.  It renders to the same texts around the duration and the title, and the expression
that extracts the title is a group framed by those texts.
-/

namespace TitleStamp

/-- Which of the two placeholders of a plain pattern stands first. -/
inductive PlaceholderOrder where
  | durationFirst
  | titleFirst
  deriving DecidableEq, Repr

/-- What stands in front of the placeholder of the title. -/
def PlaceholderOrder.beforeTitle (order : PlaceholderOrder) (lead middle : Text) : Text :=
  match order with
  | durationFirst => lead ++ durationPlaceholder ++ middle
  | titleFirst => lead

/-- A title pattern of literal texts around one placeholder of the duration and one of the
title. -/
structure PlainPattern where
  order : PlaceholderOrder
  /-- The text before the first placeholder. -/
  lead : Text
  /-- The text between the placeholders. -/
  middle : Text
  /-- The text after the second placeholder. -/
  trail : Text
  literal : ∀ character ∈ lead ++ middle ++ trail,
    character ≠ ':' ∧ character ≠ '(' ∧ character ≠ ')'
  middle_stops : Text.StartsOutside isNameCharacter middle
  trail_stops : Text.StartsOutside isNameCharacter trail
  title_apart : ∀ last ∈ (order.beforeTitle lead middle).getLast?, isNameCharacter last = false

namespace PlainPattern

/-- The pattern with something in place of its placeholders. -/
def fill (pattern : PlainPattern) (duration title : Text) : Text :=
  match pattern.order with
  | .durationFirst =>
      pattern.lead ++ duration ++ pattern.middle ++ title ++ pattern.trail
  | .titleFirst =>
      pattern.lead ++ title ++ pattern.middle ++ duration ++ pattern.trail

/-- The title pattern as it is written. -/
def text (pattern : PlainPattern) : Text :=
  pattern.fill durationPlaceholder titlePlaceholder

/-- What stands in front of the duration in a rendered title. -/
def beforeDuration (pattern : PlainPattern) (title : Text) : Text :=
  match pattern.order with
  | .durationFirst => pattern.lead
  | .titleFirst => pattern.lead ++ title ++ pattern.middle

/-- What follows the duration in a rendered title. -/
def afterDuration (pattern : PlainPattern) (title : Text) : Text :=
  match pattern.order with
  | .durationFirst => pattern.middle ++ title ++ pattern.trail
  | .titleFirst => pattern.trail

theorem fill_eq (pattern : PlainPattern) (duration title : Text) :
    pattern.fill duration title =
      pattern.beforeDuration title ++ duration ++ pattern.afterDuration title := by
  cases order : pattern.order <;> simp [fill, beforeDuration, afterDuration, order]

/-- What stands in front of the title in a rendered title. -/
def frameStart (pattern : PlainPattern) (duration : Text) : Text :=
  match pattern.order with
  | .durationFirst => pattern.lead ++ duration ++ pattern.middle
  | .titleFirst => pattern.lead

/-- What follows the title in a rendered title. -/
def frameEnd (pattern : PlainPattern) (duration : Text) : Text :=
  match pattern.order with
  | .durationFirst => pattern.trail
  | .titleFirst => pattern.middle ++ duration ++ pattern.trail

theorem fill_eq_framed (pattern : PlainPattern) (duration title : Text) :
    pattern.fill duration title =
      pattern.frameStart duration ++ title ++ pattern.frameEnd duration := by
  cases order : pattern.order <;> simp [fill, frameStart, frameEnd, order]

variable {pattern : PlainPattern} {part : Text}

theorem colon_not_mem
    (inside : part ⊆ pattern.lead ++ pattern.middle ++ pattern.trail) :
    ':' ∉ part :=
  fun member => (pattern.literal ':' (inside member)).1 rfl

theorem parenthesis_not_mem
    (inside : part ⊆ pattern.lead ++ pattern.middle ++ pattern.trail) :
    '(' ∉ part :=
  fun member => (pattern.literal '(' (inside member)).2.1 rfl

theorem lead_subset : pattern.lead ⊆ pattern.lead ++ pattern.middle ++ pattern.trail := by
  intro character member
  simp [member]

theorem middle_subset :
    pattern.middle ⊆ pattern.lead ++ pattern.middle ++ pattern.trail := by
  intro character member
  simp [member]

theorem trail_subset :
    pattern.trail ⊆ pattern.lead ++ pattern.middle ++ pattern.trail := by
  intro character member
  simp [member]

/-- The texts of a plain pattern around any two placeholders. -/
private theorem renderApplied_around
    (pattern : PlainPattern) {values : Variables} {first second : Text}
    (firstNonempty : first ≠ [])
    (secondNonempty : second ≠ [])
    (firstIsName : ∀ character ∈ first, isNameCharacter character = true)
    (secondIsName : ∀ character ∈ second, isNameCharacter character = true) :
    renderApplied values
        (pattern.lead ++ (':' :: (first ++ (pattern.middle ++
          (':' :: (second ++ pattern.trail)))))) =
      pattern.lead ++ values.get first ++ pattern.middle ++ values.get second ++
        pattern.trail := by
  have notName : isNameCharacter '(' = false := by
    decide
  have notInFirst : '(' ∉ first := by
    intro member
    rw [firstIsName _ member] at notName
    cases notName
  have notInSecond : '(' ∉ second := by
    intro member
    rw [secondIsName _ member] at notName
    cases notName
  have notInLead : '(' ∉ pattern.lead := parenthesis_not_mem lead_subset
  have notInMiddle : '(' ∉ pattern.middle := parenthesis_not_mem middle_subset
  have notInTrail : '(' ∉ pattern.trail := parenthesis_not_mem trail_subset
  have middleStops :
      Text.StartsOutside isNameCharacter
        (pattern.middle ++ (':' :: (second ++ pattern.trail))) :=
    Text.startsOutside_append pattern.middle_stops
      (Text.startsOutside_cons.mpr (by decide))
  have trailRendered : renderApplied values (pattern.trail ++ []) = pattern.trail ++ [] := by
    rw [renderApplied_literal_append (colon_not_mem trail_subset) (by simpa using notInTrail),
      renderApplied_nil]
  rw [List.append_nil] at trailRendered
  rw [renderApplied_literal_append (colon_not_mem lead_subset)
      (by simp [notInLead, notInFirst, notInMiddle, notInSecond, notInTrail]),
    renderApplied_placeholder_append firstNonempty firstIsName middleStops,
    renderApplied_literal_append (colon_not_mem middle_subset)
      (by simp [notInMiddle, notInSecond, notInTrail]),
    renderApplied_placeholder_append secondNonempty secondIsName pattern.trail_stops,
    trailRendered]
  simp only [List.append_assoc]

/-- A plain pattern renders to its texts around the duration and the title. -/
theorem stamp_text (pattern : PlainPattern) (duration title : Text) :
    stamp pattern.text duration title = pattern.fill duration title := by
  have durationSource : durationPlaceholder = ':' :: "duration".toList := rfl
  have titleSource : titlePlaceholder = ':' :: "title".toList := rfl
  have durationIsName :
      ∀ character ∈ "duration".toList, isNameCharacter character = true := by
    decide
  have titleIsName : ∀ character ∈ "title".toList, isNameCharacter character = true := by
    decide
  let values :=
    Variables.ofBindings [("duration".toList, duration), ("title".toList, title)]
  have durationValue : values.get "duration".toList = duration := rfl
  have titleValue : values.get "title".toList = title := rfl
  change renderApplied values pattern.text = pattern.fill duration title
  cases order : pattern.order with
  | durationFirst =>
      have rendered : renderApplied values _ = _ :=
        renderApplied_around pattern (by decide) (by decide)
          durationIsName titleIsName
      rw [durationValue, titleValue] at rendered
      simp only [text, fill, order, durationSource, titleSource, List.append_assoc,
        List.cons_append] at rendered ⊢
      exact rendered
  | titleFirst =>
      have rendered : renderApplied values _ = _ :=
        renderApplied_around pattern (by decide) (by decide)
          titleIsName durationIsName
      rw [durationValue, titleValue] at rendered
      simp only [text, fill, order, durationSource, titleSource, List.append_assoc,
        List.cons_append] at rendered ⊢
      exact rendered

theorem escape_lead_noColon : ':' ∉ Regex.escape pattern.lead :=
  Regex.not_mem_escape (by decide) (colon_not_mem lead_subset)

theorem escape_middle_noColon : ':' ∉ Regex.escape pattern.middle :=
  Regex.not_mem_escape (by decide) (colon_not_mem middle_subset)

/-- The placeholders of an escaped plain pattern become the group and the duration. -/
private theorem replaceFirst_placeholders (pattern : PlainPattern) (duration : Text) :
    Text.replaceFirst (Text.after? durationPlaceholder) (Regex.escape duration)
        (Text.replaceFirst (Text.after? titlePlaceholder) Regex.groupText
          (Regex.escape pattern.text)) =
      (Regex.framed (pattern.frameStart duration) (pattern.frameEnd duration)).written := by
  have titleMissesLead {following : Text} :
      Finder.Misses (Text.after? titlePlaceholder) (Regex.escape pattern.lead) following :=
    placeholder_misses escape_lead_noColon
  have durationMissesLead {following : Text} :
      Finder.Misses (Text.after? durationPlaceholder) (Regex.escape pattern.lead) following :=
    placeholder_misses escape_lead_noColon
  have titleMissesMiddle {following : Text} :
      Finder.Misses (Text.after? titlePlaceholder) (Regex.escape pattern.middle) following :=
    placeholder_misses escape_middle_noColon
  have durationMissesMiddle {following : Text} :
      Finder.Misses (Text.after? durationPlaceholder) (Regex.escape pattern.middle) following :=
    placeholder_misses escape_middle_noColon
  have durationMissesGroup {following : Text} :
      Finder.Misses (Text.after? durationPlaceholder) Regex.groupText following :=
    placeholder_misses (by decide)
  have durationEscaped : Regex.escape durationPlaceholder = durationPlaceholder :=
    Regex.escape_eq_self (by decide)
  have titleEscaped : Regex.escape titlePlaceholder = titlePlaceholder :=
    Regex.escape_eq_self (by decide)
  have durationNonempty : durationPlaceholder ≠ [] := by
    decide
  have titleNonempty : titlePlaceholder ≠ [] := by
    decide
  rw [Regex.written_framed]
  cases order : pattern.order with
  | durationFirst =>
      simp only [text, fill, frameStart, frameEnd, order, Regex.escape_append, durationEscaped,
        titleEscaped, List.append_assoc]
      rw [Text.replaceFirst_append titleMissesLead,
        Text.replaceFirst_append (title_misses_duration _),
        Text.replaceFirst_append titleMissesMiddle,
        Text.replaceFirst_after?_append _ titleNonempty,
        Text.replaceFirst_append durationMissesLead,
        Text.replaceFirst_after?_append _ durationNonempty]
  | titleFirst =>
      simp only [text, fill, frameStart, frameEnd, order, Regex.escape_append, durationEscaped,
        titleEscaped, List.append_assoc]
      rw [Text.replaceFirst_append titleMissesLead,
        Text.replaceFirst_after?_append _ titleNonempty,
        Text.replaceFirst_append durationMissesLead,
        Text.replaceFirst_append durationMissesGroup,
        Text.replaceFirst_append durationMissesMiddle,
        Text.replaceFirst_after?_append _ durationNonempty]

theorem frameStart_apart (pattern : PlainPattern) (duration : Text) :
    ∀ last ∈ (pattern.frameStart duration).getLast?, isNameCharacter last = false := by
  have apart := pattern.title_apart
  cases order : pattern.order with
  | durationFirst =>
      rw [order, PlaceholderOrder.beforeTitle] at apart
      have middleNonempty : pattern.middle ≠ [] := by
        intro empty
        rw [empty, List.append_nil, List.getLast?_append] at apart
        exact absurd (apart 'n' rfl) (by decide)
      intro last isLast
      simp only [frameStart, order] at isLast
      rw [List.getLast?_append_of_ne_nil _ middleNonempty] at isLast apart
      exact apart last isLast
  | titleFirst =>
      intro last isLast
      simp only [frameStart, order] at isLast
      rw [order] at apart
      exact apart last isLast

theorem noPlaceholderIn_frame
    (pattern : PlainPattern) {duration : Text}
    (free : NoPlaceholderIn duration) :
    NoPlaceholderIn (pattern.frameStart duration) ∧
      NoPlaceholderIn (pattern.frameEnd duration) := by
  have leadFree : NoPlaceholderIn pattern.lead :=
    noPlaceholderIn_of_not_mem (colon_not_mem lead_subset)
  have middleFree : NoPlaceholderIn pattern.middle :=
    noPlaceholderIn_of_not_mem (colon_not_mem middle_subset)
  have trailFree : NoPlaceholderIn pattern.trail :=
    noPlaceholderIn_of_not_mem (colon_not_mem trail_subset)
  cases order : pattern.order with
  | durationFirst =>
      simp only [frameStart, frameEnd, order, List.append_assoc]
      exact ⟨NoPlaceholderIn.append_left (colon_not_mem lead_subset)
        (free.append middleFree pattern.middle_stops), trailFree⟩
  | titleFirst =>
      simp only [frameStart, frameEnd, order, List.append_assoc]
      exact ⟨leadFree, NoPlaceholderIn.append_left (colon_not_mem middle_subset)
        (free.append trailFree pattern.trail_stops)⟩

/-- The expression that extracts the title from what a plain pattern renders to. -/
theorem extraction_text
    {duration : Text}
    (free : NoPlaceholderIn duration) :
    extraction pattern.text duration =
      (Regex.framed (pattern.frameStart duration) (pattern.frameEnd duration)).written := by
  have noParenthesis : '(' ∉ Regex.escape pattern.text := by
    intro member
    have inside := Regex.mem_of_mem_escape (by decide) member
    have notInDuration : '(' ∉ durationPlaceholder := by
      decide
    have notInTitle : '(' ∉ titlePlaceholder := by
      decide
    have notInLead : '(' ∉ pattern.lead := parenthesis_not_mem lead_subset
    have notInMiddle : '(' ∉ pattern.middle := parenthesis_not_mem middle_subset
    have notInTrail : '(' ∉ pattern.trail := parenthesis_not_mem trail_subset
    cases order : pattern.order <;>
      simp [text, fill, order, notInDuration, notInTitle, notInLead, notInMiddle,
        notInTrail] at inside
  have noWrapped (placeholder : Text) :
      Finder.Misses (wrapped placeholder) (Regex.escape pattern.text) [] :=
    wrapped_misses (by rwa [List.append_nil])
  obtain ⟨startFree, endFree⟩ := pattern.noPlaceholderIn_frame free
  simp only [extraction]
  rw [Text.replaceFirst_eq_self (noWrapped _), Text.replaceFirst_eq_self (noWrapped _),
    replaceFirst_placeholders,
    lastRewrites_written_framed (pattern.frameStart_apart duration) startFree endFree]

end PlainPattern

end TitleStamp
