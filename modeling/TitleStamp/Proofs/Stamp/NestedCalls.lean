import TitleStamp.Proofs.Stamp.StandardPattern
import TitleStamp.Proofs.Template.Transform

/-!
# Cleaning titles that were stamped through nested calls

A pattern that passes the title through nested calls renders to the title with all transforms
applied.  Its extraction turns only the innermost call into the group, because what stands around
the group is then literal text.  The outer calls are looked for in the title as they are written,
so cleaning gives the transformed title back exactly if there is at most one call.
-/

namespace TitleStamp

/-- The default pattern with calls nested around the title. -/
def nestedPattern (transforms : List Transform) : Text :=
  durationPlaceholder ++ separator ++ nestedCalls transforms titlePlaceholder

/-- What nested calls write in front of their argument. -/
def openings (transforms : List Transform) : Text :=
  transforms.flatMap fun transform => transform.name ++ ['(']

/-- What nested calls write behind their argument. -/
def closings (transforms : List Transform) : Text :=
  List.replicate transforms.length ')'

theorem openings_cons (transform : Transform) (transforms : List Transform) :
    openings (transform :: transforms) = transform.name ++ '(' :: openings transforms := by
  rw [openings, List.flatMap_cons, List.append_assoc]
  rfl

theorem closings_cons (transform : Transform) (transforms : List Transform) :
    closings (transform :: transforms) = closings transforms ++ [')'] :=
  List.replicate_succ'

theorem openings_concat (outer : List Transform) (inner : Transform) :
    openings (outer ++ [inner]) = openings outer ++ (inner.name ++ ['(']) := by
  rw [openings, List.flatMap_append, List.flatMap_singleton]
  rfl

theorem nestedCalls_eq (transforms : List Transform) (argument : Text) :
    nestedCalls transforms argument = openings transforms ++ argument ++ closings transforms := by
  induction transforms with
  | nil => exact (List.append_nil argument).symm
  | cons transform transforms inductionHypothesis =>
      change callText transform (nestedCalls transforms argument) = _
      rw [inductionHypothesis, callText, openings_cons, closings_cons]
      simp only [List.append_assoc, List.cons_append]

private theorem not_mem_openings
    {character : Char} (transforms : List Transform)
    (notName : isNameCharacter character = false)
    (notParenthesis : character ≠ '(') :
    character ∉ openings transforms := by
  intro member
  obtain ⟨transform, _, inside⟩ := List.mem_flatMap.mp member
  rcases List.mem_append.mp inside with inName | isParenthesis
  · rw [isNameCharacter_of_mem_name inName] at notName
    cases notName
  · exact notParenthesis (List.mem_singleton.mp isParenthesis)

private theorem not_mem_closings
    {character : Char} (transforms : List Transform)
    (notParenthesis : character ≠ ')') :
    character ∉ closings transforms :=
  fun member => notParenthesis (List.eq_of_mem_replicate member)

theorem stamp_nestedPattern (transforms : List Transform) (duration title : Text) :
    stamp (nestedPattern transforms) duration title =
      duration ++ separator ++ applyAll transforms title := by
  let values :=
    Variables.ofBindings [("duration".toList, duration), ("title".toList, title)]
  have durationValue : values.get "duration".toList = duration := rfl
  have titleRendered : renderApplied values titlePlaceholder = title :=
    renderApplied_placeholder (by decide) (by decide)
  have source :
      nestedPattern transforms =
        ':' :: ("duration".toList ++ (separator ++ nestedCalls transforms titlePlaceholder)) :=
    List.append_assoc _ _ _
  have stops :
      Text.StartsOutside isNameCharacter
        (separator ++ nestedCalls transforms titlePlaceholder) :=
    Text.startsOutside_cons.mpr (by decide)
  change renderApplied values (nestedPattern transforms) = _
  rw [source, renderApplied_placeholder_append (by decide) (by decide) stops,
    renderApplied_unnamed_append (by decide) (by decide),
    renderApplied_nestedCalls transforms (by decide), durationValue, titleRendered,
    List.append_assoc]

private theorem escape_name (transform : Transform) :
    Regex.escape transform.name = transform.name :=
  escape_of_isName fun _ => isNameCharacter_of_mem_name

private theorem escape_openings_cons (transform : Transform) (transforms : List Transform) :
    Regex.escape (openings (transform :: transforms)) =
      transform.name ++ (['\\', '('] ++ Regex.escape (openings transforms)) := by
  rw [openings_cons, Regex.escape_append, escape_name]
  rfl

private theorem startsOutside_escape_openings (transforms : List Transform) :
    Text.StartsOutside (· == ':') (Regex.escape (openings transforms)) := by
  cases transforms with
  | nil => exact Text.startsOutside_nil
  | cons transform transforms =>
      have nameOutside : Text.StartsOutside (· == ':') transform.name := by
        cases transform <;> decide
      rw [escape_openings_cons]
      exact Text.startsOutside_append nameOutside (Text.startsOutside_cons.mpr (by decide))

/-- Calls whose argument does not start with a placeholder are passed over. -/
private theorem wrapped_misses_openings
    {name following : Text} (transforms : List Transform)
    (stops : Text.StartsOutside (· == ':') following) :
    Finder.Misses (wrapped (':' :: name)) (Regex.escape (openings transforms)) following := by
  induction transforms with
  | nil => exact Finder.misses_nil
  | cons transform transforms inductionHypothesis =>
      rw [escape_openings_cons]
      refine Finder.misses_append_iff.mpr ⟨?_, Finder.misses_append_iff.mpr ⟨?_, ?_⟩⟩
      · refine wrapped_misses_name (fun _ member => isNameCharacter_of_mem_name member)
          (Text.startsOutside_cons.mpr (by decide)) ?_
        intro argument opened
        have rest :
            Regex.escape (openings transforms) ++ following = argument :=
          Option.some.inj opened
        have argumentStops : Text.StartsOutside (· == ':') argument := by
          rw [← rest]
          exact Text.startsOutside_append (startsOutside_escape_openings transforms) stops
        exact Text.after?_eq_none_of_head?_ne
          fun isFirst => absurd (argumentStops ':' isFirst) (by decide)
      · exact wrapped_misses_unnamed (by decide)
      · exact inductionHypothesis

private theorem wrapped_misses_stamp
    {placeholder following : Text} :
    Finder.Misses (wrapped placeholder) (durationPlaceholder ++ separator) following := by
  have parts : durationPlaceholder ++ separator = [':'] ++ ("duration".toList ++ separator) := rfl
  rw [parts]
  refine Finder.misses_append_iff.mpr ⟨wrapped_misses_unnamed (by decide),
    Finder.misses_append_iff.mpr ⟨?_, wrapped_misses_unnamed (by decide)⟩⟩
  refine wrapped_misses_name (by decide) (Text.startsOutside_cons.mpr (by decide)) ?_
  intro argument opened
  cases opened

private theorem wrapped_call (transform : Transform) (rest : Text) :
    wrapped titlePlaceholder
        (transform.name ++ (['\\', '('] ++ (titlePlaceholder ++ (['\\', ')'] ++ rest)))) =
      some rest := by
  have stops :
      Text.StartsOutside isNameCharacter
        (['\\', '('] ++ (titlePlaceholder ++ (['\\', ')'] ++ rest))) :=
    Text.startsOutside_cons.mpr (by decide)
  have opened :
      afterParenthesis? '(' (['\\', '('] ++ (titlePlaceholder ++ (['\\', ')'] ++ rest))) =
        some (titlePlaceholder ++ (['\\', ')'] ++ rest)) :=
    rfl
  have isName : ∀ character ∈ transform.name, isNameCharacter character = true :=
    fun _ member => isNameCharacter_of_mem_name member
  rw [wrapped_append (name_ne_nil transform) isName stops, opened, Option.bind_some,
    Text.after?_append]
  rfl

private theorem escape_nestedPattern (outer : List Transform) (inner : Transform) :
    Regex.escape (nestedPattern (outer ++ [inner])) =
      durationPlaceholder ++ separator ++ (Regex.escape (openings outer) ++
        (inner.name ++ (['\\', '('] ++ (titlePlaceholder ++ (['\\', ')'] ++
          Regex.escape (closings outer)))))) := by
  have closed : closings (outer ++ [inner]) = [')'] ++ closings outer := by
    rw [closings, List.length_append]
    exact List.replicate_succ
  have stampEscaped :
      Regex.escape (durationPlaceholder ++ separator) = durationPlaceholder ++ separator :=
    Regex.escape_eq_self (by decide)
  have titleEscaped : Regex.escape titlePlaceholder = titlePlaceholder :=
    Regex.escape_eq_self (by decide)
  have openingEscaped : Regex.escape ['('] = ['\\', '('] := rfl
  have closingEscaped : Regex.escape [')'] = ['\\', ')'] := rfl
  rw [nestedPattern, nestedCalls_eq, openings_concat, closed, Regex.escape_append, stampEscaped]
  simp only [Regex.escape_append, escape_name, titleEscaped, openingEscaped, closingEscaped,
    List.append_assoc]

/-- The outer calls around the group that the innermost call has become. -/
private def callsAroundGroup (outer : List Transform) : Text :=
  Regex.escape (openings outer) ++ (Regex.groupText ++ Regex.escape (closings outer))

/-- Only the innermost call is recognized in the escaped pattern. -/
private theorem replaceFirst_wrapped_nestedPattern
    (outer : List Transform) (inner : Transform) :
    Text.replaceFirst (wrapped titlePlaceholder) Regex.groupText
        (Regex.escape (nestedPattern (outer ++ [inner]))) =
      durationPlaceholder ++ separator ++ callsAroundGroup outer := by
  have innerOutside : Text.StartsOutside (· == ':') inner.name := by
    cases inner <;> decide
  have outerMissed (called : Text) :
      Finder.Misses (wrapped titlePlaceholder) (Regex.escape (openings outer))
        (inner.name ++ (['\\', '('] ++ called)) :=
    wrapped_misses_openings outer
      (Text.startsOutside_append innerOutside (Text.startsOutside_cons.mpr (by decide)))
  rw [escape_nestedPattern, Text.replaceFirst_append wrapped_misses_stamp,
    Text.replaceFirst_append (outerMissed _),
    Text.replaceFirst_of_find (List.append_ne_nil_of_left_ne_nil (name_ne_nil inner) _)
      (wrapped_call inner _), callsAroundGroup]

private theorem wrapped_misses_callsAroundGroup (outer : List Transform) :
    Finder.Misses (wrapped durationPlaceholder) (callsAroundGroup outer) [] := by
  have closingsUnnamed :
      ∀ character ∈ Regex.escape (closings outer), isNameCharacter character = false := by
    intro character member
    by_cases backslash : character = '\\'
    · rw [backslash]
      decide
    · have inside := Regex.mem_of_mem_escape backslash member
      rw [List.eq_of_mem_replicate inside]
      decide
  refine Finder.misses_append_iff.mpr ⟨?_, ?_⟩
  · exact wrapped_misses_openings outer (Text.startsOutside_cons.mpr (by decide))
  · exact Finder.misses_append_iff.mpr
      ⟨wrapped_misses_unnamed (by decide), wrapped_misses_unnamed closingsUnnamed⟩

private theorem colon_not_mem_openings (outer : List Transform) : ':' ∉ openings outer :=
  not_mem_openings outer (by decide) (by decide)

private theorem colon_not_mem_closings (outer : List Transform) : ':' ∉ closings outer :=
  not_mem_closings outer (by decide)

private theorem colon_not_mem_callsAroundGroup (outer : List Transform) :
    ':' ∉ callsAroundGroup outer := by
  have inOpenings : ':' ∉ Regex.escape (openings outer) :=
    Regex.not_mem_escape (by decide) (colon_not_mem_openings outer)
  have inClosings : ':' ∉ Regex.escape (closings outer) :=
    Regex.not_mem_escape (by decide) (colon_not_mem_closings outer)
  have inGroup : ':' ∉ Regex.groupText := by
    decide
  simp [callsAroundGroup, inOpenings, inGroup, inClosings]

private theorem openings_apart (duration : Text) (outer : List Transform) :
    ∀ last ∈ (duration ++ separator ++ openings outer).getLast?,
      isNameCharacter last = false := by
  intro last isLast
  rcases List.eq_nil_or_concat outer with rfl | ⟨initial, inner, rfl⟩
  · have separatorLast : separator.getLast? = some ' ' := rfl
    rw [openings, List.flatMap_nil, List.append_nil, List.getLast?_append, separatorLast] at isLast
    cases isLast
    decide
  · rw [List.concat_eq_append, openings_concat, ← List.append_assoc, ← List.append_assoc,
      List.getLast?_concat] at isLast
    cases isLast
    decide

/-- The expression that extracts the title keeps the outer calls as literal text. -/
theorem extraction_nestedPattern
    {duration : Text} (outer : List Transform) (inner : Transform)
    (noColon : ':' ∉ duration) :
    extraction (nestedPattern (outer ++ [inner])) duration =
      (Regex.framed (duration ++ separator ++ openings outer) (closings outer)).written := by
  have noCall :
      Finder.Misses (wrapped durationPlaceholder)
        (durationPlaceholder ++ separator ++ callsAroundGroup outer) [] :=
    Finder.misses_append_iff.mpr ⟨wrapped_misses_stamp, wrapped_misses_callsAroundGroup outer⟩
  have noTitle :
      Finder.Misses (Text.after? titlePlaceholder)
        (durationPlaceholder ++ separator ++ callsAroundGroup outer) [] := by
    refine Finder.misses_append_iff.mpr
      ⟨?_, placeholder_misses (colon_not_mem_callsAroundGroup outer)⟩
    exact Finder.misses_append_iff.mpr
      ⟨title_misses_duration _, placeholder_misses (by decide)⟩
  have durationNonempty : durationPlaceholder ≠ [] := by
    decide
  have separatorEscaped : Regex.escape separator = separator :=
    Regex.escape_eq_self (by decide)
  have written :
      Regex.escape duration ++ (separator ++ callsAroundGroup outer) =
        (Regex.framed (duration ++ separator ++ openings outer) (closings outer)).written := by
    rw [Regex.written_framed, Regex.escape_append, Regex.escape_append, separatorEscaped]
    simp only [callsAroundGroup, List.append_assoc]
  have startFree : NoPlaceholderIn (duration ++ separator ++ openings outer) := by
    have inSeparator : ':' ∉ separator := by
      decide
    exact noPlaceholderIn_of_not_mem
      (by simp [noColon, inSeparator, colon_not_mem_openings outer])
  have endingFree : NoPlaceholderIn (closings outer) :=
    noPlaceholderIn_of_not_mem (colon_not_mem_closings outer)
  simp only [extraction]
  rw [replaceFirst_wrapped_nestedPattern, Text.replaceFirst_eq_self noCall,
    Text.replaceFirst_eq_self noTitle, List.append_assoc durationPlaceholder,
    Text.replaceFirst_after?_append _ durationNonempty, written,
    lastRewrites_written_framed (openings_apart duration outer) startFree endingFree]

theorem minus_not_mem_applyAll
    {title : Text} (transforms : List Transform)
    (noMinus : '-' ∉ title) :
    '-' ∉ applyAll transforms title := by
  induction transforms with
  | nil => exact noMinus
  | cons transform transforms inductionHypothesis =>
      intro member
      exact inductionHypothesis (Transform.mem_of_mem_apply ⟨by decide, by decide⟩ member)

private theorem keepCaptured_outerCalls_eq_iff
    {stamped title : Text} (outer : List Transform)
    (nonempty : stamped ≠ []) :
    (Regex.framed (stamped ++ openings outer) (closings outer)).keepCaptured (stamped ++ title) =
      title ↔ outer = [] := by
  constructor
  · intro kept
    have closingsLength : (closings outer).length = outer.length := List.length_replicate
    have stampedLength := List.length_pos_iff.mpr nonempty
    rcases Regex.length_keepCaptured_framed (stamped ++ openings outer) (closings outer)
        (stamped ++ title) with same | shorter
    · have length := congrArg List.length (kept.symm.trans same)
      rw [List.length_append] at length
      omega
    · rw [kept] at shorter
      simp only [List.length_append] at shorter
      exact List.eq_nil_of_length_eq_zero (by omega)
  · rintro rfl
    have opened : openings [] = [] := rfl
    have closed : closings [] = [] := rfl
    rw [opened, closed, List.append_nil, Regex.keepCaptured_framed_nil]
    exact Text.replaceFirst_after?_append title nonempty

/-- Cleaning gives the transformed title back exactly if at most one call wraps the title. -/
theorem cleanTitle_nestedPattern_eq_iff
    {duration : Duration} {title : Text} (transforms : List Transform)
    (nonnegative : 0 ≤ duration.millis)
    (noMinus : '-' ∉ title) :
    cleanTitle
        (stamp (nestedPattern transforms) (duration.format Settings.defaultDurationPattern) title)
        Settings.defaultDurationPattern (nestedPattern transforms) =
      applyAll transforms title ↔ transforms.length ≤ 1 := by
  have learned :=
    skeleton_probe_stamped nonnegative (minus_not_mem_applyAll transforms noMinus)
  have recognized := matchedDuration_stamped learned
  rw [stamp_nestedPattern]
  rcases List.eq_nil_or_concat transforms with rfl | ⟨outer, inner, rfl⟩
  · have standard : nestedPattern [] = Settings.defaultTitlePattern := rfl
    rw [standard, cleanTitle_stamped learned]
    exact iff_of_true rfl (Nat.zero_le 1)
  · rw [List.concat_eq_append] at recognized ⊢
    have noColon : ':' ∉ duration.format Settings.defaultDurationPattern :=
      (Duration.bracketed_of_skeleton_eq (Duration.skeleton_format_default duration)).2
    have few : (outer ++ [inner]).length ≤ 1 ↔ outer = [] := by
      rw [List.length_append, List.length_singleton, ← List.length_eq_zero_iff]
      omega
    rw [cleanTitle, recognized, extraction_nestedPattern outer inner noColon,
      Regex.ofText?_written, few]
    exact keepCaptured_outerCalls_eq_iff outer (by simp [separator])

/-- The outer of two calls is left in place of the transformed title. -/
theorem cleanTitle_upper_trim :
    cleanTitle
        (stamp ":duration • upper(trim(:title))".toList "[1h30m]".toList "fix bug".toList)
        Settings.defaultDurationPattern ":duration • upper(trim(:title))".toList ≠
      "FIX BUG".toList := by
  let ninetyMinutes : Duration := ⟨5400000, by decide, by decide⟩
  have shown :
      ninetyMinutes.format Settings.defaultDurationPattern = "[1h30m]".toList := by
    decide +kernel
  have source :
      nestedPattern [.upper, .trim] = ":duration • upper(trim(:title))".toList := by
    decide
  have applied : applyAll [.upper, .trim] "fix bug".toList = "FIX BUG".toList := by
    decide +kernel
  have nonnegative : 0 ≤ ninetyMinutes.millis := by
    decide
  have noMinus : '-' ∉ "fix bug".toList := by
    decide
  have cleaned := cleanTitle_nestedPattern_eq_iff [.upper, .trim] nonnegative noMinus
  rw [shown, source, applied] at cleaned
  intro kept
  exact absurd (cleaned.mp kept) (by decide)

end TitleStamp
