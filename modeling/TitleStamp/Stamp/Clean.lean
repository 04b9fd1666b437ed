import TitleStamp.Duration.Mention
import TitleStamp.Duration.Pattern
import TitleStamp.Regex.Search
import TitleStamp.Stamp.Extraction
import TitleStamp.Stamp.Shape

/-!
# Cleaning a stamped title

Cleaning undoes the rendering of a title pattern.  The rendered duration is unknown, so its shape
is learned from a probe: the sum of the durations that the title mentions, formatted by the
duration pattern.
-/

namespace TitleStamp

/-- The probe for a title that mentions no duration: about a year, so that every field of a
usual pattern shows a number. -/
def fallbackProbe : Duration :=
  ⟨31540000000, by decide, by decide⟩

/-- The text taken for the rendered duration where none is found. -/
def fallbackMatch : Text :=
  ['.']

/-- The duration text whose shape is looked for in a title. -/
def probe (current durationPattern : Text) : Text :=
  ((Duration.parse? current).getD fallbackProbe).format durationPattern

/-- The part of a title that is taken for the rendered duration. -/
def matchedDuration (current durationPattern : Text) : Text :=
  match Regex.ofText? (shape (probe current durationPattern)) with
  | some regex => ((regex.search current).map (·.matched)).getD fallbackMatch
  | none => fallbackMatch

/-- The title without what the title pattern added to it.  A title that the pattern does not
explain stays as it is. -/
def cleanTitle (current durationPattern titlePattern : Text) : Text :=
  match Regex.ofText? (extraction titlePattern (matchedDuration current durationPattern)) with
  | some regex => regex.keepCaptured current
  | none => current

end TitleStamp
