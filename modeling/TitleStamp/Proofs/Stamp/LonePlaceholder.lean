import Mathlib.Data.List.DropRight
import TitleStamp.Proofs.Stamp.Extraction
import TitleStamp.Proofs.Stamp.Rewriting
import TitleStamp.Proofs.Template.Calls
import TitleStamp.Retitle

/-!
# Patterns with one placeholder

Rendering reads the longest name behind a colon.  An extraction looks for the placeholders of the
title and of the duration without asking whether the name goes on behind them, so it also finds
them at the start of longer names.  Other placeholders become wildcards.
-/

namespace TitleStamp

/-- Everything that the last two rewrites of an extraction put in place of a placeholder. -/
def wildcards : Variables :=
  fun _ => some Regex.lineText

theorem get_wildcards (name : Text) : wildcards.get name = Regex.lineText :=
  rfl

/-- An escaped text has no calls, so the last two rewrites only replace its placeholders. -/
theorem lastRewrites_escape (text : Text) :
    Text.replaceAll anyPlaceholder Regex.lineText
        (Text.replaceAll anyCall Regex.lineText (Regex.escape text)) =
      renderInert wildcards (Regex.escape text) := by
  have noCall : NoCallIn (Regex.escape text ++ []) := by
    rw [List.append_nil]
    exact noCallIn_escape text
  rw [Text.replaceAll_eq_self (anyCall_misses noCall), replaceAll_anyPlaceholder]
  rfl

/-- Only a placeholder becomes a wildcard as a whole. -/
theorem renderInert_wildcards_eq_iff {text : Text} :
    renderInert wildcards text = Regex.lineText ↔
      text = Regex.lineText ∨
        ∃ name : Text, name ≠ [] ∧ (∀ character ∈ name, isNameCharacter character = true) ∧
          text = ':' :: name := by
  constructor
  · intro rendered
    obtain ⟨cut, rfl⟩ := PlaceholderCut.exists_source_eq text
    rw [PlaceholderCut.renderInert_source, PlaceholderCut.filled] at rendered
    rw [PlaceholderCut.source]
    cases occurrences : cut.occurrences with
    | nil =>
        rw [occurrences] at rendered
        exact Or.inl rendered
    | cons occurrence later =>
        -- The first wildcard takes up the whole length.
        rw [occurrences, List.flatMap_cons, Occurrence.filled, get_wildcards] at rendered
        have length := congrArg List.length rendered
        simp only [List.length_append] at length
        have leadEmpty : cut.lead = [] := List.eq_nil_of_length_eq_zero (by omega)
        have afterEmpty : occurrence.after = [] := List.eq_nil_of_length_eq_zero (by omega)
        have restEmpty : later.flatMap (Occurrence.filled wildcards) = [] :=
          List.eq_nil_of_length_eq_zero (by omega)
        have laterEmpty : later = [] := by
          cases later with
          | nil => rfl
          | cons next others => cases restEmpty
        refine Or.inr ⟨occurrence.name, occurrence.name_ne_nil, occurrence.isName, ?_⟩
        simp [leadEmpty, laterEmpty, Occurrence.source, afterEmpty]
  · rintro (rfl | ⟨name, nonempty, isName, rfl⟩)
    · exact renderInert_eq_self (by decide)
    · rw [renderInert_placeholder nonempty isName, get_wildcards]

/-- A duration text in front of a name becomes a wildcard with it if it is itself a colon and a
name. -/
theorem renderInert_escape_eq_lineText_iff
    {durationText more : Text}
    (nonempty : more ≠ [])
    (isName : ∀ character ∈ more, isNameCharacter character = true) :
    renderInert wildcards (Regex.escape (durationText ++ more)) = Regex.lineText ↔
      ∃ front, durationText = ':' :: front ∧
        ∀ character ∈ front, isNameCharacter character = true := by
  have notWildcard : Regex.escape (durationText ++ more) ≠ Regex.lineText := by
    have line : Regex.lineText = Regex.written [.line] := rfl
    rw [line, ← Regex.written_literal]
    intro same
    have literal := Regex.written_injective same
    have member : Piece.line ∈ Regex.literal (durationText ++ more) := by
      rw [literal]
      exact List.mem_singleton.mpr rfl
    obtain ⟨character, _, isLine⟩ := List.mem_map.mp member
    cases isLine
  have escapePlaceholder {name : Text}
      (isName : ∀ character ∈ name, isNameCharacter character = true) :
      Regex.escape (':' :: name) = ':' :: name := by
    rw [Regex.escape_cons, escape_of_isName isName]
    rfl
  rw [renderInert_wildcards_eq_iff, or_iff_right notWildcard]
  constructor
  · rintro ⟨name, _, nameIsName, escaped⟩
    rw [← escapePlaceholder nameIsName] at escaped
    have split : durationText ++ more = ':' :: name := Regex.escape_injective escaped
    cases durationText with
    | nil =>
        have colon : ':' ∈ more := by
          rw [← List.nil_append more, split]
          exact List.mem_cons_self
        exact absurd (isName ':' colon) (by decide)
    | cons first front =>
        obtain ⟨rfl, rfl⟩ := List.cons.inj split
        exact ⟨front, rfl, fun character member => nameIsName character (by simp [member])⟩
  · rintro ⟨front, rfl, frontIsName⟩
    have wholeIsName : ∀ character ∈ front ++ more, isNameCharacter character = true :=
      List.forall_mem_append.mpr ⟨frontIsName, isName⟩
    exact ⟨front ++ more, List.append_ne_nil_of_right_ne_nil _ nonempty, wholeIsName,
      escapePlaceholder wholeIsName⟩

/-- The last two rewrites take a name directly before the group for that of a call. -/
theorem lastRewrites_named_group
    {front name ending : Text}
    (noColon : ':' ∉ front ++ ending)
    (noOpening : '(' ∉ front)
    (noClosing : ')' ∉ ending)
    (apart : ∀ last ∈ front.getLast?, isNameCharacter last = false)
    (nonempty : name ≠ [])
    (isName : ∀ character ∈ name, isNameCharacter character = true) :
    Text.replaceAll anyPlaceholder Regex.lineText
        (Text.replaceAll anyCall Regex.lineText (Regex.framed (front ++ name) ending).written) =
      Regex.escape front ++ (Regex.lineText ++ Regex.escape ending) := by
  have group : Regex.groupText = '(' :: (Regex.lineText ++ [')']) := rfl
  have source :
      (Regex.framed (front ++ name) ending).written =
        Regex.escape front ++ ((name ++ Regex.groupText) ++ Regex.escape ending) := by
    rw [Regex.written_framed, Regex.escape_append, escape_of_isName isName]
    simp only [List.append_assoc]
  have frontMissed {following : Text} :
      Finder.Misses anyCall (Regex.escape front) following :=
    anyCall_misses_of_apart (Regex.not_mem_escape (by decide) noOpening)
      (by rwa [Regex.getLast?_escape])
  have called :
      anyCall ((name ++ Regex.groupText) ++ Regex.escape ending) =
        some (Regex.escape ending) := by
    have isLast : ')' ∉ (Regex.escape ending).takeWhile (· ≠ '\n') := fun member =>
      Regex.not_mem_escape (by decide) noClosing ((List.takeWhile_sublist _).subset member)
    have found := anyCall_append nonempty isName (by decide : '\n' ∉ Regex.lineText) isLast
    rw [group]
    simpa using found
  have endingMissed : Finder.Misses anyCall (Regex.escape ending) [] :=
    anyCall_misses (by rw [List.append_nil]; exact noCallIn_escape ending)
  have free :
      NoPlaceholderIn (Regex.escape front ++ (Regex.lineText ++ Regex.escape ending)) := by
    have inEscaped : ':' ∉ Regex.escape front ∧ ':' ∉ Regex.escape ending := by
      rw [List.mem_append, not_or] at noColon
      exact ⟨Regex.not_mem_escape (by decide) noColon.1,
        Regex.not_mem_escape (by decide) noColon.2⟩
    have inLine : ':' ∉ Regex.lineText := by
      decide
    exact noPlaceholderIn_of_not_mem (by simp [inEscaped, inLine])
  rw [source, Text.replaceAll_append frontMissed,
    Text.replaceAll_of_find (List.append_ne_nil_of_left_ne_nil nonempty _) called,
    Text.replaceAll_eq_self endingMissed,
    Text.replaceAll_eq_self (anyPlaceholder_misses (by rwa [List.append_nil]))]

/-- A pattern of literal texts around one placeholder. -/
structure LonePlaceholder where
  /-- The text before the placeholder. -/
  lead : Text
  name : Text
  /-- The text after the placeholder. -/
  trail : Text
  name_ne_nil : name ≠ []
  isName : ∀ character ∈ name, isNameCharacter character = true
  literal : ∀ character ∈ lead ++ trail, character ≠ ':' ∧ character ≠ '(' ∧ character ≠ ')'
  /-- No longer name stands there. -/
  name_ends : Text.StartsOutside isNameCharacter trail

namespace LonePlaceholder

/-- The pattern as it is written. -/
def text (pattern : LonePlaceholder) : Text :=
  pattern.lead ++ ':' :: (pattern.name ++ pattern.trail)

variable (pattern : LonePlaceholder)

/-- The name that ends the text before the placeholder. -/
def leadName : Text :=
  pattern.lead.rtakeWhile isNameCharacter

/-- The text before that name. -/
def leadFront : Text :=
  pattern.lead.rdropWhile isNameCharacter

theorem leadFront_append_leadName : pattern.leadFront ++ pattern.leadName = pattern.lead :=
  List.rdropWhile_append_rtakeWhile

theorem isName_leadName : ∀ character ∈ pattern.leadName, isNameCharacter character = true :=
  fun _ => List.mem_rtakeWhile_imp

theorem leadFront_apart :
    ∀ last ∈ pattern.leadFront.getLast?, isNameCharacter last = false := by
  intro last isLast
  obtain ⟨nonempty, rfl⟩ := List.mem_getLast?_eq_getLast isLast
  have outside := List.rdropWhile_last_not isNameCharacter pattern.lead nonempty
  exact Bool.eq_false_iff.mpr outside

theorem escape_lead :
    Regex.escape pattern.lead = Regex.escape pattern.leadFront ++ pattern.leadName := by
  conv => lhs; rw [← pattern.leadFront_append_leadName]
  rw [Regex.escape_append, escape_of_isName pattern.isName_leadName]

theorem more_subset
    {special more : Text}
    (longer : pattern.name = special ++ more) :
    more ⊆ pattern.name := by
  rw [longer]
  exact List.subset_append_right _ _

theorem isName_more
    {special more : Text}
    (longer : pattern.name = special ++ more) :
    ∀ character ∈ more, isNameCharacter character = true :=
  fun character member => pattern.isName character (pattern.more_subset longer member)

theorem colon_not_mem : ':' ∉ pattern.lead ∧ ':' ∉ pattern.name ∧ ':' ∉ pattern.trail :=
  ⟨fun member => (pattern.literal ':' (List.mem_append_left _ member)).1 rfl,
    fun member => absurd (pattern.isName ':' member) (by decide),
    fun member => (pattern.literal ':' (List.mem_append_right _ member)).1 rfl⟩

theorem opening_not_mem : '(' ∉ pattern.lead ∧ '(' ∉ pattern.name ∧ '(' ∉ pattern.trail :=
  ⟨fun member => (pattern.literal '(' (List.mem_append_left _ member)).2.1 rfl,
    fun member => absurd (pattern.isName '(' member) (by decide),
    fun member => (pattern.literal '(' (List.mem_append_right _ member)).2.1 rfl⟩

theorem closing_not_mem : ')' ∉ pattern.name ∧ ')' ∉ pattern.trail :=
  ⟨fun member => absurd (pattern.isName ')' member) (by decide),
    fun member => (pattern.literal ')' (List.mem_append_right _ member)).2.2 rfl⟩

theorem opening_not_mem_text : '(' ∉ pattern.text := by
  simp [text, pattern.opening_not_mem]

/-- The pattern renders to its texts around the value of its whole name. -/
theorem render_text (calls : Calls) (values : Variables) :
    render calls values pattern.text =
      pattern.lead ++ (values.get pattern.name ++ pattern.trail) := by
  have inert :
      renderInert values pattern.text =
        pattern.lead ++ (values.get pattern.name ++ pattern.trail) := by
    obtain ⟨leadFree, _, trailFree⟩ := pattern.colon_not_mem
    rw [text, ← List.cons_append, renderInert_between _ leadFree trailFree pattern.name_ends,
      renderInert_placeholder pattern.name_ne_nil pattern.isName]
  cases calls with
  | inert => exact inert
  | applied =>
      have noCall :
          ∀ name argument, Lexeme.call name argument ∈ lexemes .applied pattern.text →
            Transform.named? name = none := by
        intro name argument member
        have inside : '(' ∈ (lexemes .applied pattern.text).flatMap Lexeme.source :=
          List.mem_flatMap.mpr ⟨_, member, by simp [Lexeme.source]⟩
        rw [flatMap_source_lexemes] at inside
        exact absurd inside pattern.opening_not_mem_text
      exact (renderApplied_eq_renderInert noCall).trans inert

theorem escape_text :
    Regex.escape pattern.text =
      Regex.escape pattern.lead ++ (':' :: (pattern.name ++ Regex.escape pattern.trail)) := by
  rw [text, Regex.escape_append, Regex.escape_cons, Regex.escape_append,
    escape_of_isName pattern.isName]
  rfl

theorem colon_not_mem_escape_lead : ':' ∉ Regex.escape pattern.lead :=
  Regex.not_mem_escape (by decide) pattern.colon_not_mem.1

theorem colon_not_mem_escape_trail : ':' ∉ Regex.escape pattern.trail :=
  Regex.not_mem_escape (by decide) pattern.colon_not_mem.2.2

theorem substituted_text (durationText : Text) :
    substituted pattern.text durationText =
      Text.replaceFirst (Text.after? durationPlaceholder) (Regex.escape durationText)
        (Text.replaceFirst (Text.after? titlePlaceholder) Regex.groupText
          (Regex.escape pattern.text)) := by
  have noParenthesis : '(' ∉ Regex.escape pattern.text ++ [] := by
    rw [List.append_nil]
    exact Regex.not_mem_escape (by decide) pattern.opening_not_mem_text
  rw [substituted, Text.replaceFirst_eq_self (wrapped_misses noParenthesis),
    Text.replaceFirst_eq_self (wrapped_misses noParenthesis)]

section Special

variable {special : Text}

/-- A placeholder is found at the start of a longer one. -/
theorem replaceFirst_of_longer
    {more : Text} (replacement : Text)
    (longer : pattern.name = special ++ more) :
    Text.replaceFirst (Text.after? (':' :: special)) replacement (Regex.escape pattern.text) =
      Regex.escape pattern.lead ++ (replacement ++ (more ++ Regex.escape pattern.trail)) := by
  have source :
      Regex.escape pattern.text =
        Regex.escape pattern.lead ++
          ((':' :: special) ++ (more ++ Regex.escape pattern.trail)) := by
    rw [escape_text, longer, List.cons_append, List.append_assoc]
  rw [source, Text.replaceFirst_append (placeholder_misses pattern.colon_not_mem_escape_lead),
    Text.replaceFirst_after?_append _ (List.cons_ne_nil _ _)]

theorem replaceFirst_of_not_prefix
    (replacement : Text)
    (isName : ∀ character ∈ special, isNameCharacter character = true)
    (other : ¬special <+: pattern.name) :
    Text.replaceFirst (Text.after? (':' :: special)) replacement (Regex.escape pattern.text) =
      Regex.escape pattern.text := by
  have missedHere :
      Text.after? (':' :: special) (':' :: (pattern.name ++ Regex.escape pattern.trail)) =
        none := by
    cases found :
        Text.after? (':' :: special) (':' :: (pattern.name ++ Regex.escape pattern.trail)) with
    | none => rfl
    | some rest =>
        have split := (List.cons.inj (Text.after?_eq_some_iff.mp found)).2
        have starts : special <+: pattern.name ++ Regex.escape pattern.trail :=
          ⟨rest, split.symm⟩
        have stops := startsOutside_escape pattern.name_ends
        exact absurd ((Text.isPrefix_append_iff isName stops).mp starts) other
  have noColon : ':' ∉ pattern.name ++ Regex.escape pattern.trail := by
    simp [pattern.colon_not_mem, pattern.colon_not_mem_escape_trail]
  apply Text.replaceFirst_eq_self
  rw [escape_text]
  refine Finder.misses_append_iff.mpr
    ⟨placeholder_misses pattern.colon_not_mem_escape_lead, ?_⟩
  refine Finder.misses_cons_iff.mpr ⟨?_, placeholder_misses noColon⟩
  rwa [List.append_nil]

end Special

private theorem titlePlaceholder_eq : titlePlaceholder = ':' :: "title".toList :=
  rfl

private theorem durationPlaceholder_eq : durationPlaceholder = ':' :: "duration".toList :=
  rfl

/-- A placeholder of another name becomes a wildcard. -/
theorem extraction_of_other
    (durationText : Text)
    (notTitle : ¬"title".toList <+: pattern.name)
    (notDuration : ¬"duration".toList <+: pattern.name) :
    extraction pattern.text durationText =
      Regex.escape pattern.lead ++ (Regex.lineText ++ Regex.escape pattern.trail) := by
  have unchanged : substituted pattern.text durationText = Regex.escape pattern.text := by
    rw [substituted_text, titlePlaceholder_eq, durationPlaceholder_eq,
      pattern.replaceFirst_of_not_prefix _ (by decide) notTitle,
      pattern.replaceFirst_of_not_prefix _ (by decide) notDuration]
  have source :
      Regex.escape pattern.text =
        Regex.escape pattern.lead ++ ((':' :: pattern.name) ++ Regex.escape pattern.trail) :=
    pattern.escape_text
  rw [extraction_eq, unchanged, lastRewrites_escape, source,
    renderInert_between _ pattern.colon_not_mem_escape_lead pattern.colon_not_mem_escape_trail
      (startsOutside_escape pattern.name_ends),
    renderInert_placeholder pattern.name_ne_nil pattern.isName, get_wildcards]

/-- Of a name that begins with that of the duration the rest is kept behind the duration text. -/
theorem extraction_of_duration
    {more : Text} (durationText : Text)
    (longer : pattern.name = "duration".toList ++ more) :
    extraction pattern.text durationText =
      Regex.escape pattern.lead ++
        (renderInert wildcards (Regex.escape (durationText ++ more)) ++
          Regex.escape pattern.trail) := by
  have notTitle : ¬"title".toList <+: pattern.name := by
    rintro ⟨rest, same⟩
    rw [longer] at same
    exact absurd (List.cons.inj same).1 (by decide)
  have moreIsName := pattern.isName_more longer
  have inserted :
      substituted pattern.text durationText =
        Regex.escape (pattern.lead ++ ((durationText ++ more) ++ pattern.trail)) := by
    rw [substituted_text, titlePlaceholder_eq, durationPlaceholder_eq,
      pattern.replaceFirst_of_not_prefix _ (by decide) notTitle,
      pattern.replaceFirst_of_longer _ longer]
    simp only [Regex.escape_append, escape_of_isName moreIsName, List.append_assoc]
  rw [extraction_eq, inserted, lastRewrites_escape, Regex.escape_append, Regex.escape_append,
    renderInert_between _ pattern.colon_not_mem_escape_lead pattern.colon_not_mem_escape_trail
      (startsOutside_escape pattern.name_ends)]

private theorem substituted_of_title
    {more : Text} (durationText : Text)
    (longer : pattern.name = "title".toList ++ more) :
    substituted pattern.text durationText =
      (Regex.framed pattern.lead (more ++ pattern.trail)).written := by
  have moreWritten : Regex.escape more = more := escape_of_isName (pattern.isName_more longer)
  have noColon :
      ':' ∉ Regex.escape pattern.lead ++
        (Regex.groupText ++ (more ++ Regex.escape pattern.trail)) := by
    have inGroup : ':' ∉ Regex.groupText := by
      decide
    have inMore : ':' ∉ more :=
      fun member => pattern.colon_not_mem.2.1 (pattern.more_subset longer member)
    simp [pattern.colon_not_mem_escape_lead, inGroup, inMore, pattern.colon_not_mem_escape_trail]
  rw [substituted_text, titlePlaceholder_eq, durationPlaceholder_eq,
    pattern.replaceFirst_of_longer _ longer,
    Text.replaceFirst_eq_self (placeholder_misses noColon), Regex.written_framed,
    Regex.escape_append, moreWritten]

/-- Of a name that begins with that of the title the rest is kept behind the group.  A name that
ends the text before it is taken for that of a call, which the group is then part of. -/
theorem extraction_of_title
    {more : Text} (durationText : Text)
    (longer : pattern.name = "title".toList ++ more) :
    extraction pattern.text durationText =
      Regex.escape pattern.leadFront ++
        ((if pattern.leadName = [] then Regex.groupText else Regex.lineText) ++
          Regex.escape (more ++ pattern.trail)) := by
  have parts := pattern.leadFront_append_leadName
  have apart := pattern.leadFront_apart
  have moreSubset := pattern.more_subset longer
  have leadFree := pattern.colon_not_mem.1
  have endingFree : ':' ∉ more ++ pattern.trail := by
    have inMore : ':' ∉ more := fun member => pattern.colon_not_mem.2.1 (moreSubset member)
    simp [inMore, pattern.colon_not_mem]
  rw [extraction_eq, pattern.substituted_of_title durationText longer]
  split
  · rename_i unnamed
    rw [unnamed, List.append_nil] at parts
    rw [parts] at apart ⊢
    rw [lastRewrites_written_framed apart (noPlaceholderIn_of_not_mem leadFree)
      (noPlaceholderIn_of_not_mem endingFree), Regex.written_framed]
  · rename_i named
    have frontSubset : pattern.leadFront ⊆ pattern.lead := by
      rw [← parts]
      exact List.subset_append_left _ _
    have noColon : ':' ∉ pattern.leadFront ++ (more ++ pattern.trail) := by
      rw [List.mem_append, not_or]
      exact ⟨fun member => leadFree (frontSubset member), endingFree⟩
    have noClosing : ')' ∉ more ++ pattern.trail := by
      have inMore : ')' ∉ more := fun member => pattern.closing_not_mem.1 (moreSubset member)
      simp [inMore, pattern.closing_not_mem]
    rw [← parts]
    exact lastRewrites_named_group noColon
      (fun member => pattern.opening_not_mem.1 (frontSubset member)) noClosing apart named
      pattern.isName_leadName

/-- No wildcard alone stands in place of a name that begins with that of the title. -/
theorem extraction_ne_of_title
    (durationText : Text)
    (isLonger : "title".toList <+: pattern.name) :
    extraction pattern.text durationText ≠
      Regex.escape pattern.lead ++ (Regex.lineText ++ Regex.escape pattern.trail) := by
  obtain ⟨more, longer⟩ := isLonger
  rw [pattern.extraction_of_title durationText longer.symm, escape_lead, List.append_assoc]
  intro same
  have behind := List.append_cancel_left same
  cases leadName : pattern.leadName with
  | nil =>
      rw [leadName, if_pos rfl] at behind
      exact absurd (List.cons.inj behind).1 (by decide)
  | cons first others =>
      rw [leadName, if_neg (List.cons_ne_nil _ _)] at behind
      have point : '.' = first := (List.cons.inj behind).1
      have inside := pattern.isName_leadName first (by simp [leadName])
      rw [← point] at inside
      exact absurd inside (by decide)

/-- The pattern renders under the whole name of its placeholder, but its extraction has a wildcard
there only if the name does not begin with that of the title and, where it begins with that of the
duration, if the duration text is itself a colon and a name. -/
theorem extraction_eq_wildcard_iff
    (durationText : Text)
    (notDuration : pattern.name ≠ "duration".toList) :
    (∀ calls values,
        render calls values pattern.text =
          pattern.lead ++ (values.get pattern.name ++ pattern.trail)) ∧
      (extraction pattern.text durationText =
          Regex.escape pattern.lead ++ (Regex.lineText ++ Regex.escape pattern.trail) ↔
        ¬"title".toList <+: pattern.name ∧
          ("duration".toList <+: pattern.name →
            ∃ front, durationText = ':' :: front ∧
              ∀ character ∈ front, isNameCharacter character = true)) := by
  refine ⟨pattern.render_text, ?_⟩
  by_cases isTitle : "title".toList <+: pattern.name
  · exact iff_of_false (pattern.extraction_ne_of_title durationText isTitle)
      fun wildcard => wildcard.1 isTitle
  by_cases isDuration : "duration".toList <+: pattern.name
  · obtain ⟨more, longer⟩ := isDuration
    have nonempty : more ≠ [] := by
      rintro rfl
      rw [List.append_nil] at longer
      exact notDuration longer.symm
    have moreIsName := pattern.isName_more longer.symm
    rw [pattern.extraction_of_duration durationText longer.symm, List.append_cancel_left_eq,
      List.append_cancel_right_eq, renderInert_escape_eq_lineText_iff nonempty moreIsName]
    exact ⟨fun colon => ⟨isTitle, fun _ => colon⟩, fun wildcard => wildcard.2 ⟨more, longer⟩⟩
  · have other := pattern.extraction_of_other durationText isTitle isDuration
    exact iff_of_true other ⟨isTitle, fun longer => absurd longer isDuration⟩

/-- Behind a duration the rest of a longer name is kept. -/
theorem extraction_durations :
    extraction "[:durations]".toList "1h".toList ≠
      Regex.escape "[".toList ++ (Regex.lineText ++ Regex.escape "]".toList) := by
  let pattern : LonePlaceholder :=
    ⟨"[".toList, "durations".toList, "]".toList, by decide, by decide, by decide, by decide⟩
  have notDuration : pattern.name ≠ "duration".toList := by
    decide
  intro same
  have colon := ((pattern.extraction_eq_wildcard_iff "1h".toList notDuration).2.mp same).2
  obtain ⟨front, split, _⟩ := colon (by decide)
  cases split

/-- The title is captured in front of the last letter of `:titles`, so that cleaning a title
gives a part of what was rendered there. -/
theorem cleanTitle_titles :
    extraction "note :titles".toList "[1h30m]".toList = "note (.*)s".toList ∧
      extraction "note :titles".toList "[1h30m]".toList ≠
        Regex.escape "note ".toList ++ (Regex.lineText ++ Regex.escape []) ∧
      cleanTitle "note bugs".toList "[h'h'm'm']".toList "note :titles".toList =
        "bug".toList := by
  decide +kernel

end LonePlaceholder

end TitleStamp
