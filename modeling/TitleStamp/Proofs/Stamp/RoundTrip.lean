import TitleStamp.Proofs.Duration.Format
import TitleStamp.Proofs.Stamp.PlainPattern
import TitleStamp.Proofs.Stamp.Shape

/-!
# Cleaning undoes stamping

A stamped title teaches the cleaner the shape of its own stamp.  As long as the durations that the
title mentions do not sum to a negative one, the probe has the skeleton of the stamp, the search
finds the stamp, and the group of the extraction captures the title.
-/

namespace TitleStamp

/-- The probe looks like the stamp if the title teaches no negative duration. -/
theorem skeleton_probe
    {current : Text} {duration : Duration} (durationPattern : Text)
    (learnsNonnegative :
      ∀ learned, Duration.parse? current = some learned → 0 ≤ learned.millis)
    (nonnegative : 0 ≤ duration.millis) :
    skeleton (probe current durationPattern) =
      skeleton (duration.format durationPattern) := by
  rw [probe]
  cases parsed : Duration.parse? current with
  | none =>
      exact skeleton_format_eq durationPattern (by decide) nonnegative
  | some learned =>
      exact skeleton_format_eq durationPattern (learnsNonnegative learned parsed) nonnegative

/-- All durations that are not negative have one shape under a pattern, and a search for that
shape in any of them finds the whole. -/
theorem search_shape_format
    (pattern : Text) (left right : Duration)
    (leftNonnegative : 0 ≤ left.millis)
    (rightNonnegative : 0 ≤ right.millis) :
    shape (left.format pattern) = shape (right.format pattern) ∧
      ∃ regex : Regex,
        Regex.ofText? (shape (left.format pattern)) = some regex ∧
          regex.search (right.format pattern) = some ⟨[], right.format pattern, none, []⟩ := by
  have sameShape : shapeRegex (left.format pattern) = shapeRegex (right.format pattern) := by
    rw [shapeRegex, shapeRegex, skeleton_format_eq pattern leftNonnegative rightNonnegative]
  have found :
      (shapeRegex (right.format pattern)).search ([] ++ (right.format pattern ++ [])) =
        some ⟨[], right.format pattern, none, []⟩ :=
    search_shapeRegex Text.startsOutside_nil (noEarlierLookAlike_zero _ _)
  rw [List.nil_append, List.append_nil] at found
  rw [shape_eq_written, shape_eq_written, sameShape]
  exact ⟨rfl, shapeRegex (right.format pattern), Regex.ofText?_written _, found⟩

/-- A digit of the pattern runs into two adjacent fields, and the three show one mark. -/
theorem search_shape_adjacent_fields :
    shape ((⟨59000, by decide, by decide⟩ : Duration).format "2mss'm'(S)".toList) =
        shape (Duration.longest.format "2mss'm'(S)".toList) ∧
      ∃ regex : Regex,
        Regex.ofText?
            (shape ((⟨59000, by decide, by decide⟩ : Duration).format "2mss'm'(S)".toList)) =
          some regex ∧
          regex.search (Duration.longest.format "2mss'm'(S)".toList) =
            some ⟨[], "215372286728091255m(807)".toList, none, []⟩ := by
  have shown :
      Duration.longest.format "2mss'm'(S)".toList = "215372286728091255m(807)".toList := by
    decide +kernel
  have alike :=
    search_shape_format "2mss'm'(S)".toList ⟨59000, by decide, by decide⟩ .longest
      (by decide) (by decide)
  rw [shown] at alike ⊢
  exact alike

/-- Once the stamp is recognized, a plain pattern gives the title back. -/
theorem PlainPattern.cleanTitle_fill
    (pattern : PlainPattern) {duration title durationPattern : Text}
    (oneLine : '\n' ∉ title)
    (noPlaceholder : NoPlaceholderIn duration)
    (recognized :
      matchedDuration (pattern.fill duration title) durationPattern = duration) :
    cleanTitle (pattern.fill duration title) durationPattern pattern.text = title := by
  rw [cleanTitle, recognized, extraction_text noPlaceholder, Regex.ofText?_written]
  have captured :
      (Regex.framed (pattern.frameStart duration) (pattern.frameEnd duration)).keepCaptured
          (pattern.frameStart duration ++ title ++ pattern.frameEnd duration) = title :=
    Regex.keepCaptured_framed oneLine
  rw [← pattern.fill_eq_framed] at captured
  exact captured

/-- Cleaning gives back the title that a plain pattern was rendered with.  The title may mention
durations, but not teach a negative one, and nothing in front of the stamp may look like it. -/
theorem cleanTitle_stamp
    (pattern : PlainPattern) (durationPattern title : Text) (duration : Duration)
    (nonnegative : 0 ≤ duration.millis)
    (oneLine : '\n' ∉ title)
    (learnsNonnegative :
      ∀ learned,
        Duration.parse? (stamp pattern.text (duration.format durationPattern) title) =
          some learned →
        0 ≤ learned.millis)
    (noPlaceholder : NoPlaceholderIn (duration.format durationPattern))
    (noDigitFollows : Text.StartsOutside Char.isDigit (pattern.afterDuration title))
    (first :
      NoEarlierLookAlike (pattern.beforeDuration title).length
        (stamp pattern.text (duration.format durationPattern) title)
        (duration.format durationPattern)) :
    cleanTitle (stamp pattern.text (duration.format durationPattern) title) durationPattern
      pattern.text = title := by
  rw [pattern.stamp_text] at learnsNonnegative first ⊢
  have learned := skeleton_probe durationPattern learnsNonnegative nonnegative
  rw [pattern.fill_eq] at learned first
  have recognized := matchedDuration_of_skeleton learned noDigitFollows first
  rw [← pattern.fill_eq] at recognized
  exact pattern.cleanTitle_fill oneLine noPlaceholder recognized

/-- A pattern that puts the duration behind the title. -/
def PlainPattern.durationLast : PlainPattern where
  order := .titleFirst
  lead := []
  middle := " / ".toList
  trail := "!".toList
  literal := by decide
  middle_stops := by decide
  trail_stops := by decide
  title_apart := by decide

theorem cleanTitle_stamp_durationLast :
    cleanTitle
        (stamp ":title / :duration!".toList "1:30".toList "Wait 5 min for 2 jobs".toList)
        "h:mm".toList ":title / :duration!".toList =
      "Wait 5 min for 2 jobs".toList := by
  let ninetyMinutes : Duration := ⟨5400000, by decide, by decide⟩
  have shown : ninetyMinutes.format "h:mm".toList = "1:30".toList := by
    decide +kernel
  have source : PlainPattern.durationLast.text = ":title / :duration!".toList := by
    decide
  have learned :
      Duration.parse? "Wait 5 min for 2 jobs / 1:30!".toList =
        some ⟨300000, by decide, by decide⟩ := by
    decide +kernel
  have stamped :
      stamp PlainPattern.durationLast.text "1:30".toList "Wait 5 min for 2 jobs".toList =
        "Wait 5 min for 2 jobs / 1:30!".toList := by
    rw [PlainPattern.stamp_text]
    decide
  have roundTrip :=
    cleanTitle_stamp PlainPattern.durationLast "h:mm".toList "Wait 5 min for 2 jobs".toList
      ninetyMinutes (by decide) (by decide)
  rw [shown, stamped, learned] at roundTrip
  rw [← source, stamped]
  exact roundTrip (fun _ same => by cases same; decide) (by decide) (by decide)
    (by decide +kernel)

end TitleStamp
