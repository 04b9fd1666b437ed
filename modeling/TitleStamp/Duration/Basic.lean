/-!
# Durations

A duration is a whole number of milliseconds, of either sign, whose magnitude is below 2^63.
-/

namespace TitleStamp

/-- The length of the longest duration in milliseconds. -/
def longestMillis : Int :=
  9223372036854775807

/-- A number of milliseconds within the range of durations. -/
structure Duration where
  millis : Int
  longest_le : -longestMillis ≤ millis
  le_longest : millis ≤ longestMillis
  deriving DecidableEq

namespace Duration

/-- The duration of a number of milliseconds, if it is in range. -/
def ofMillis? (millis : Int) : Option Duration :=
  if bounds : -longestMillis ≤ millis ∧ millis ≤ longestMillis then
    some ⟨millis, bounds.1, bounds.2⟩
  else
    none

/-- No time at all. -/
def zero : Duration :=
  ⟨0, by decide, by decide⟩

def longest : Duration :=
  ⟨longestMillis, by decide, by decide⟩

/-- The sum of two durations, if it is in range. -/
def add? (left right : Duration) : Option Duration :=
  ofMillis? (left.millis + right.millis)

theorem ofMillis?_millis (duration : Duration) :
    ofMillis? duration.millis = some duration := by
  simp [ofMillis?, duration.longest_le, duration.le_longest]

theorem millis_of_ofMillis?
    {millis : Int} {duration : Duration}
    (made : ofMillis? millis = some duration) :
    duration.millis = millis := by
  unfold ofMillis? at made
  split at made
  · cases made
    rfl
  · cases made

theorem ofMillis?_eq_none_iff {millis : Int} :
    ofMillis? millis = none ↔ millis < -longestMillis ∨ longestMillis < millis := by
  unfold ofMillis?
  split
  · rename_i bounds
    exact iff_of_false nofun (by omega)
  · rename_i outside
    exact iff_of_true rfl (by omega)

end Duration

end TitleStamp
