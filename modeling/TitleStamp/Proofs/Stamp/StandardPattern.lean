import TitleStamp.Proofs.Duration.Sign
import TitleStamp.Proofs.Stamp.RoundTrip

/-!
# Titles stamped by the default patterns

The default title pattern puts the stamp and a separator in front of the title.  Cleaning by the
default patterns removes the first place where what is taken for the stamp stands before a
separator.
-/

namespace TitleStamp

/-- What stands between the stamp and the title in a title stamped by the default pattern. -/
def separator : Text :=
  " • ".toList

/-- The default title pattern is plain. -/
def PlainPattern.standard : PlainPattern where
  order := .durationFirst
  lead := []
  middle := separator
  trail := []
  literal := by decide
  middle_stops := by decide
  trail_stops := by decide
  title_apart := by decide

theorem PlainPattern.text_standard :
    PlainPattern.standard.text = Settings.defaultTitlePattern :=
  rfl

theorem PlainPattern.fill_standard (duration title : Text) :
    PlainPattern.standard.fill duration title = duration ++ separator ++ title :=
  List.append_nil _

theorem stamp_standard (duration title : Text) :
    stamp Settings.defaultTitlePattern duration title = duration ++ separator ++ title := by
  rw [← PlainPattern.text_standard, PlainPattern.stamp_text, PlainPattern.fill_standard]

/-- The duration that a title teaches the cleaner. -/
def learnedDuration (current : Text) : Duration :=
  (Duration.parse? current).getD fallbackProbe

theorem skeleton_probe_default (current : Text) :
    skeleton (probe current Settings.defaultDurationPattern) =
      (learnedDuration current).stampMarks :=
  Duration.skeleton_format_default _

/-- What is taken for the stamp of a title. -/
theorem matchedDuration_default_cases (current : Text) :
    matchedDuration current Settings.defaultDurationPattern = fallbackMatch ∨
      matchedDuration current Settings.defaultDurationPattern <:+: current ∧
        skeleton (matchedDuration current Settings.defaultDurationPattern) =
          (learnedDuration current).stampMarks := by
  rw [← skeleton_probe_default]
  exact matchedDuration_cases current Settings.defaultDurationPattern

theorem colon_not_mem_matchedDuration (current : Text) :
    ':' ∉ matchedDuration current Settings.defaultDurationPattern := by
  rcases matchedDuration_default_cases current with fallback | ⟨_, shown⟩
  · rw [fallback]
    decide
  · exact (Duration.bracketed_of_skeleton_eq shown).2

/-- Cleaning by the default patterns removes what is taken for the stamp and the separator. -/
theorem cleanTitle_default (current : Text) :
    cleanTitle current Settings.defaultDurationPattern Settings.defaultTitlePattern =
      Text.replaceFirst
        (Text.after?
          (matchedDuration current Settings.defaultDurationPattern ++ separator)) []
        current := by
  have free := noPlaceholderIn_of_not_mem (colon_not_mem_matchedDuration current)
  rw [cleanTitle, ← PlainPattern.text_standard, PlainPattern.extraction_text free,
    Regex.ofText?_written]
  exact Regex.keepCaptured_framed_nil _ _

/-- A stamp in front is recognized if it looks like the probe. -/
theorem matchedDuration_stamped
    {duration title : Text}
    (learned :
      skeleton (probe (duration ++ separator ++ title) Settings.defaultDurationPattern) =
        skeleton duration) :
    matchedDuration (duration ++ separator ++ title) Settings.defaultDurationPattern =
      duration := by
  have stops : Text.StartsOutside Char.isDigit (separator ++ title) :=
    Text.startsOutside_cons.mpr (by decide)
  rw [List.append_assoc, ← List.nil_append duration] at learned ⊢
  exact matchedDuration_of_skeleton learned stops (noEarlierLookAlike_zero _ _)

theorem cleanTitle_stamped
    {duration title : Text}
    (learned :
      skeleton (probe (duration ++ separator ++ title) Settings.defaultDurationPattern) =
        skeleton duration) :
    cleanTitle (duration ++ separator ++ title) Settings.defaultDurationPattern
      Settings.defaultTitlePattern = title := by
  rw [cleanTitle_default, matchedDuration_stamped learned]
  exact Text.replaceFirst_after?_append title (by simp [separator])

/-- Under a stamp that is not negative, a title without minus signs teaches no other shape. -/
theorem skeleton_probe_stamped
    {duration : Duration} {title : Text}
    (nonnegative : 0 ≤ duration.millis)
    (noMinus : '-' ∉ title) :
    skeleton (probe (duration.format Settings.defaultDurationPattern ++ separator ++ title)
        Settings.defaultDurationPattern) =
      skeleton (duration.format Settings.defaultDurationPattern) := by
  have notInStamp := Duration.minus_not_mem_format_default nonnegative
  have notInSeparator : '-' ∉ separator := by
    decide
  have noMinusAtAll :
      '-' ∉ duration.format Settings.defaultDurationPattern ++ separator ++ title := by
    simp [notInStamp, notInSeparator, noMinus]
  refine skeleton_probe _ ?_ nonnegative
  intro learned parsed
  exact Duration.millis_nonneg_of_parse? noMinusAtAll parsed

/-- Two texts with one first character, which the second does not repeat, are the same if a third
text can stand behind the first or before the second with the same outcome. -/
private theorem eq_of_append_comm
    {opening : Char} {left right common : Text}
    (rightFree : opening ∉ right)
    (shifted : opening :: left ++ common = common ++ opening :: right) :
    left = right := by
  induction size : common.length using Nat.strongRecOn generalizing common with
  | ind bound inductionHypothesis =>
      rcases List.append_eq_append_iff.mp shifted with
        ⟨shorter, front, back⟩ | ⟨overlap, front, back⟩
      · have smaller : shorter.length < bound := by
          rw [← size, front, List.length_append, List.length_cons]
          omega
        exact inductionHypothesis shorter.length smaller (front ▸ back) rfl
      · cases common with
        | nil =>
            rw [List.nil_append] at front
            rw [List.append_nil, ← front] at back
            exact (List.cons.inj back).2.symm
        | cons first others =>
            rw [List.cons_append] at front
            obtain ⟨sameFirst, leftParts⟩ := List.cons.inj front
            cases overlap with
            | nil =>
                rw [List.nil_append] at back
                rw [leftParts, List.append_nil]
                exact (List.cons.inj back).2.symm
            | cons next overlap =>
                rw [List.cons_append] at back
                have inside : opening ∈ right := by
                  rw [(List.cons.inj back).2, sameFirst]
                  simp
                exact absurd inside rightFree

private theorem shifted_of_cleanTitle_eq
    {duration title current : Text}
    (stamped : current = duration ++ separator ++ title)
    (cleaned :
      cleanTitle current Settings.defaultDurationPattern Settings.defaultTitlePattern = title) :
    ∃ before,
      duration ++ separator ++ before =
        before ++ (matchedDuration current Settings.defaultDurationPattern ++ separator) := by
  rw [cleanTitle_default] at cleaned
  rcases Text.replaceFirst_after?_cases
      (matchedDuration current Settings.defaultDurationPattern ++ separator) [] current with
    unchanged | ⟨before, rest, split, removed⟩
  · have whole : current = title := unchanged.symm.trans cleaned
    have length := congrArg List.length (stamped.symm.trans whole)
    have separated : separator.length = 3 := rfl
    rw [List.length_append, List.length_append] at length
    omega
  · have parts : title = before ++ rest := cleaned.symm.trans removed
    refine ⟨before, ?_⟩
    have aligned :
        duration ++ separator ++ before ++ rest =
          before ++ (matchedDuration current Settings.defaultDurationPattern ++ separator) ++
            rest := by
      rw [List.append_assoc _ before rest, ← parts, List.append_assoc before, ← stamped]
      exact split
    exact List.append_cancel_right aligned

/-- Cleaning gives back the title under a stamp exactly if what the whole teaches has the signs
of the stamp. -/
theorem cleanTitle_stamped_eq_iff
    {duration : Duration} {title current : Text}
    (stamped :
      current = duration.format Settings.defaultDurationPattern ++ separator ++ title) :
    cleanTitle current Settings.defaultDurationPattern Settings.defaultTitlePattern = title ↔
      (learnedDuration current).SignsAgree duration := by
  have stampShown := Duration.skeleton_format_default duration
  constructor
  · intro cleaned
    obtain ⟨before, shifted⟩ := shifted_of_cleanTitle_eq stamped cleaned
    rcases matchedDuration_default_cases current with fallback | ⟨_, shown⟩
    · have length := congrArg List.length shifted
      rw [fallback, Duration.format_default] at length
      simp only [fallbackMatch, List.length_append, List.length_cons, List.length_nil] at length
      omega
    · obtain ⟨⟨stampRest, stampParts, _⟩, _⟩ := Duration.bracketed_of_skeleton_eq stampShown
      obtain ⟨⟨matchedRest, matchedParts, matchedFree⟩, _⟩ :=
        Duration.bracketed_of_skeleton_eq shown
      have separatorFree : '[' ∉ separator := by
        decide
      rw [stampParts, matchedParts] at shifted
      have sameRest : stampRest ++ separator = matchedRest ++ separator :=
        eq_of_append_comm (by simp [matchedFree, separatorFree]) shifted
      rw [matchedParts, ← List.append_cancel_right sameRest, ← stampParts, stampShown] at shown
      exact Duration.stampMarks_eq_iff.mp shown.symm
  · intro agree
    have learned := skeleton_probe_default current
    rw [Duration.stampMarks_eq_iff.mpr agree, ← stampShown] at learned
    rw [stamped] at learned ⊢
    exact cleanTitle_stamped learned

namespace Settings

/-- The default patterns with the given switches. -/
def switched (scanComments scanBody : Bool) : Settings :=
  ⟨defaultDurationPattern, defaultTitlePattern, scanComments, scanBody⟩

@[simp]
theorem durationPattern_switched (scanComments scanBody : Bool) :
    (switched scanComments scanBody).durationPattern = defaultDurationPattern :=
  rfl

@[simp]
theorem titlePattern_switched (scanComments scanBody : Bool) :
    (switched scanComments scanBody).titlePattern = defaultTitlePattern :=
  rfl

end Settings

theorem PullRequest.title_retitle (pullRequest : PullRequest) (settings : Settings) :
    (pullRequest.retitle settings).title =
      stamp settings.titlePattern
        ((pullRequest.retitle settings).total.format settings.durationPattern)
        (cleanTitle pullRequest.title settings.durationPattern settings.titlePattern) :=
  rfl

theorem PullRequest.title_retitle_switched
    (pullRequest : PullRequest) (scanComments scanBody : Bool) :
    (pullRequest.retitle (.switched scanComments scanBody)).title =
      (pullRequest.retitle (.switched scanComments scanBody)).total.format
          Settings.defaultDurationPattern ++ separator ++
        cleanTitle pullRequest.title Settings.defaultDurationPattern
          Settings.defaultTitlePattern := by
  rw [title_retitle, Settings.durationPattern_switched, Settings.titlePattern_switched,
    stamp_standard]

end TitleStamp
