import TitleStamp.Proofs.Regex.Capture
import TitleStamp.Proofs.Stamp.Extraction
import TitleStamp.Proofs.Stamp.StandardPattern

/-!
# Cleaning a title without a stamp

Where no part of a title has the shape of the probe, the extraction is built around a stand-in for
the rendered duration.  The stand-in is an ordinary point, so the extraction may still match in the
title, and then the title loses what it matches outside the group.
-/

namespace TitleStamp

/-- No part of the title has the shape of the probe. -/
def LacksStamp (current durationPattern : Text) : Prop :=
  (shapeRegex (probe current durationPattern)).MatchesNowhere current

theorem matchedDuration_of_lacksStamp
    {current durationPattern : Text}
    (unstamped : LacksStamp current durationPattern) :
    matchedDuration current durationPattern = fallbackMatch := by
  have searched : (shapeRegex (probe current durationPattern)).search current = none :=
    Regex.search_eq_none_iff.mpr unstamped
  rw [matchedDuration_eq, searched]
  rfl

/-- A title without a stamp is left alone if the extraction around the stand-in matches nowhere
in it, or if that extraction asks for nothing and its group takes the line. -/
theorem cleanTitle_eq_self_iff_of_lacksStamp
    (current durationPattern titlePattern : Text)
    (unstamped : LacksStamp current durationPattern) :
    ∃ regex : Regex,
      Regex.ofText? (extraction titlePattern fallbackMatch) = some regex ∧
        (cleanTitle current durationPattern titlePattern = current ↔
          regex.MatchesNowhere current ∨
            regex.AsksForNothing ∧
              (regex.head? ≠ some .line ∨ current.takeWhile (· ≠ '\n') = [])) := by
  obtain ⟨_, _, regex, _, _, _, _, written⟩ := exists_extraction titlePattern fallbackMatch
  have read : Regex.ofText? (extraction titlePattern fallbackMatch) = some regex := by
    rw [written, Regex.ofText?_written]
  have cleaned : cleanTitle current durationPattern titlePattern = regex.keepCaptured current := by
    rw [cleanTitle, matchedDuration_of_lacksStamp unstamped, read]
  refine ⟨regex, read, ?_⟩
  rw [cleaned]
  exact Regex.keepCaptured_eq_self_iff

/-- A feature without a stamp is left alone by a pattern that calls a function of the title. -/
theorem cleanTitle_new_feature :
    LacksStamp "new amazing feature".toList "h'h'm'm'".toList ∧
      cleanTitle "new amazing feature".toList "h'h'm'm'".toList
        ":duration title(:title).".toList = "new amazing feature".toList := by
  have unstamped : LacksStamp "new amazing feature".toList "h'h'm'm'".toList :=
    Regex.search_eq_none_iff.mp (by decide +kernel)
  refine ⟨unstamped, ?_⟩
  obtain ⟨regex, read, leftAlone⟩ :=
    cleanTitle_eq_self_iff_of_lacksStamp _ _ ":duration title(:title).".toList unstamped
  have value :
      Regex.ofText? (extraction ":duration title(:title).".toList fallbackMatch) =
        some [.exactly '.', .exactly ' ', .group, .exactly '.'] := by
    decide +kernel
  rw [value, Option.some.injEq] at read
  subst read
  exact leftAlone.mpr (Or.inl (Regex.search_eq_none_iff.mp (by decide +kernel)))

/-- The point of the stand-in is found in a title, which loses its separator. -/
theorem cleanTitle_point_in_title :
    LacksStamp "Fix typo. • docs".toList Settings.defaultDurationPattern ∧
      fieldUnits (segments Settings.defaultDurationPattern) ≠ .empty ∧
      .placeholder "duration".toList ∈ lexemes .applied Settings.defaultTitlePattern ∧
      cleanTitle "Fix typo. • docs".toList Settings.defaultDurationPattern
        Settings.defaultTitlePattern = "Fix typodocs".toList :=
  ⟨Regex.search_eq_none_iff.mp (by decide +kernel), by decide +kernel, by decide +kernel,
    by decide +kernel⟩

/-- The default patterns leave a title without a stamp alone exactly if it does not have the
stand-in in front of a separator. -/
theorem cleanTitle_default_eq_self_iff_of_lacksStamp
    {current : Text}
    (unstamped : LacksStamp current Settings.defaultDurationPattern) :
    cleanTitle current Settings.defaultDurationPattern Settings.defaultTitlePattern = current ↔
      ¬fallbackMatch ++ separator <:+: current := by
  rw [cleanTitle_default, matchedDuration_of_lacksStamp unstamped]
  exact Text.replaceFirst_after?_nil_eq_self_iff (by decide)

end TitleStamp
