import TitleStamp.Duration.Pattern
import TitleStamp.Proofs.Stamp.Skeleton
import TitleStamp.Settings

/-!
# What formatted durations look like

A field shows one mark, after a minus sign if its value is negative.  Formatted durations of one
sign therefore share their skeleton whatever the pattern is, and the default pattern tells
durations apart only by the signs of their two fields.
-/

namespace TitleStamp

/-- What a number shows in a skeleton. -/
def numeralMarks (value : Int) : List (Option Char) :=
  if value < 0 then [some '-', none] else [none]

theorem skeleton_paddedField_append
    (width : Nat) (value : Int) {rest : Text}
    (stops : Text.StartsOutside Char.isDigit rest) :
    skeleton (paddedField width value ++ rest) = numeralMarks value ++ skeleton rest := by
  have digits :
      skeleton (padLeft width (Text.ofNat value.natAbs) ++ rest) = none :: skeleton rest :=
    skeleton_digits_append (padLeft_ne_nil width value.natAbs)
      (fun _ member => isDigit_of_mem_padLeft member) stops
  by_cases negative : value < 0
  · rw [paddedField, if_pos negative, numeralMarks, if_pos negative, List.cons_append,
      skeleton_cons_of_not_digit _ (by decide), digits]
    rfl
  · rw [paddedField, if_neg negative, numeralMarks, if_neg negative, digits]
    rfl

theorem skeleton_paddedField (width : Nat) (value : Int) :
    skeleton (paddedField width value) = numeralMarks value := by
  have appended := skeleton_paddedField_append width value Text.startsOutside_nil
  rw [List.append_nil] at appended
  rw [appended]
  exact List.append_nil _

private theorem fieldValue_nonneg
    {duration : Duration} (units : UnitSet) (unit : TimeUnit)
    (nonnegative : 0 ≤ duration.millis) :
    0 ≤ ((fieldValues duration units).lookup unit).getD 0 := by
  cases found : (fieldValues duration units).lookup unit with
  | none => exact Int.le_refl 0
  | some value =>
      obtain ⟨before, after, parts, _⟩ := List.lookup_eq_some_iff.mp found
      have member : (unit, value) ∈ fieldValues duration units := by
        rw [parts]
        simp
      obtain ⟨⟨source, count⟩, _, same⟩ := List.mem_map.mp member
      have shown : duration.millis.sign * (count : Int) = value := (Prod.mk.inj same).2
      rw [Option.getD_some, ← shown]
      exact Int.mul_nonneg (Int.sign_nonneg_iff.mpr nonnegative) (Int.natCast_nonneg count)

private theorem skeleton_flatMap_congr
    {parts : List Segment} {left right : Segment → Text}
    (same : ∀ part, skeleton (left part) = skeleton (right part)) :
    skeleton (parts.flatMap left) = skeleton (parts.flatMap right) := by
  induction parts with
  | nil => rfl
  | cons part parts inductionHypothesis =>
      rw [List.flatMap_cons, List.flatMap_cons, skeleton_append, skeleton_append, same,
        inductionHypothesis]

/-- All durations that are not negative look alike under one pattern. -/
theorem skeleton_format_eq
    {left right : Duration} (pattern : Text)
    (leftNonnegative : 0 ≤ left.millis)
    (rightNonnegative : 0 ≤ right.millis) :
    skeleton (left.format pattern) = skeleton (right.format pattern) := by
  refine skeleton_flatMap_congr ?_
  intro part
  cases part with
  | literal text => rfl
  | field unit width =>
      have leftField := fieldValue_nonneg (fieldUnits (segments pattern)) unit leftNonnegative
      have rightField := fieldValue_nonneg (fieldUnits (segments pattern)) unit rightNonnegative
      rw [Segment.shown, Segment.shown, skeleton_paddedField, skeleton_paddedField, numeralMarks,
        numeralMarks, if_neg (Int.not_lt.mpr leftField), if_neg (Int.not_lt.mpr rightField)]

namespace Duration

/-- The whole hours of a duration, with its sign. -/
def hours (duration : Duration) : Int :=
  duration.millis.sign * (duration.millis.natAbs / 3600000 : Nat)

/-- The whole minutes beyond the hours of a duration, with its sign. -/
def minutes (duration : Duration) : Int :=
  duration.millis.sign * (duration.millis.natAbs % 3600000 / 60000 : Nat)

private theorem paddedField_one (value : Int) : paddedField 1 value = Text.ofInt value := by
  have wide : 1 - (Text.ofNat value.natAbs).length = 0 := by
    have positive : 0 < (Text.ofNat value.natAbs).length := Nat.length_toDigits_pos
    omega
  rw [paddedField, Text.ofInt, padLeft, wide]
  rfl

theorem format_default (duration : Duration) :
    duration.format Settings.defaultDurationPattern =
      '[' :: (Text.ofInt duration.hours ++ 'h' :: (Text.ofInt duration.minutes ++ ['m', ']'])) := by
  rw [← paddedField_one, ← paddedField_one]
  rfl

/-- The marks of a duration formatted by the default pattern. -/
def stampMarks (duration : Duration) : List (Option Char) :=
  some '[' :: (numeralMarks duration.hours ++
    some 'h' :: (numeralMarks duration.minutes ++ [some 'm', some ']']))

theorem skeleton_format_default (duration : Duration) :
    skeleton (duration.format Settings.defaultDurationPattern) = duration.stampMarks := by
  rw [format_default, ← paddedField_one, ← paddedField_one,
    skeleton_cons_of_not_digit _ (by decide),
    skeleton_paddedField_append 1 _ (Text.startsOutside_cons.mpr (by decide)),
    skeleton_cons_of_not_digit _ (by decide),
    skeleton_paddedField_append 1 _ (Text.startsOutside_cons.mpr (by decide))]
  rfl

theorem hours_eq {duration : Duration} (nonnegative : 0 ≤ duration.millis) :
    duration.hours = duration.millis / 3600000 := by
  rw [hours]
  rcases Int.lt_or_eq_of_le nonnegative with positive | none_left
  · rw [Int.sign_eq_one_of_pos positive]
    omega
  · rw [← none_left]
    rfl

theorem minutes_eq {duration : Duration} (nonnegative : 0 ≤ duration.millis) :
    duration.minutes = duration.millis % 3600000 / 60000 := by
  rw [minutes]
  rcases Int.lt_or_eq_of_le nonnegative with positive | none_left
  · rw [Int.sign_eq_one_of_pos positive]
    omega
  · rw [← none_left]
    rfl

theorem stampMarks_of_nonneg {duration : Duration} (nonnegative : 0 ≤ duration.millis) :
    duration.stampMarks = [some '[', none, some 'h', none, some 'm', some ']'] := by
  have hoursNonnegative : ¬duration.hours < 0 := by
    rw [hours_eq nonnegative]
    omega
  have minutesNonnegative : ¬duration.minutes < 0 := by
    rw [minutes_eq nonnegative]
    omega
  rw [stampMarks, numeralMarks, if_neg hoursNonnegative, numeralMarks,
    if_neg minutesNonnegative]
  rfl

/-- No minus sign is shown for a duration that is not negative. -/
theorem minus_not_mem_format_default
    {duration : Duration}
    (nonnegative : 0 ≤ duration.millis) :
    '-' ∉ duration.format Settings.defaultDurationPattern := by
  intro member
  have mark := mem_skeleton (by decide) member
  rw [skeleton_format_default, stampMarks_of_nonneg nonnegative] at mark
  exact absurd mark (by decide)

/-- What the default pattern renders for durations that are not negative. -/
inductive LooksStamped : Text → Prop where
  | intro {hours minutes : Text}
      (hoursNonempty : hours ≠ [])
      (hoursDigits : ∀ character ∈ hours, character.isDigit = true)
      (minutesNonempty : minutes ≠ [])
      (minutesDigits : ∀ character ∈ minutes, character.isDigit = true) :
      LooksStamped ('[' :: (hours ++ 'h' :: (minutes ++ ['m', ']'])))

theorem looksStamped_of_skeleton_eq
    {text : Text} {duration : Duration}
    (nonnegative : 0 ≤ duration.millis)
    (shown : skeleton text = duration.stampMarks) :
    LooksStamped text := by
  rw [stampMarks_of_nonneg nonnegative] at shown
  obtain ⟨afterBracket, rfl, bracketShown⟩ := eq_cons_of_skeleton_eq shown
  obtain ⟨hours, afterHours, rfl, hoursNonempty, hoursDigits, hoursShown⟩ :=
    eq_digits_append_of_skeleton_eq bracketShown
  obtain ⟨afterHour, rfl, hourShown⟩ := eq_cons_of_skeleton_eq hoursShown
  obtain ⟨minutes, afterMinutes, rfl, minutesNonempty, minutesDigits, minutesShown⟩ :=
    eq_digits_append_of_skeleton_eq hourShown
  obtain ⟨afterMinute, rfl, minuteShown⟩ := eq_cons_of_skeleton_eq minutesShown
  obtain ⟨rest, rfl, restShown⟩ := eq_cons_of_skeleton_eq minuteShown
  have ended : rest = [] := skeleton_eq_nil_iff.mp restShown
  subst ended
  exact .intro hoursNonempty hoursDigits minutesNonempty minutesDigits

/-- The hours of two durations have the same sign, and so have their minutes. -/
def SignsAgree (left right : Duration) : Prop :=
  (left.hours < 0 ↔ right.hours < 0) ∧ (left.minutes < 0 ↔ right.minutes < 0)

theorem stampMarks_eq_iff {left right : Duration} :
    left.stampMarks = right.stampMarks ↔ left.SignsAgree right := by
  by_cases leftHours : left.hours < 0 <;> by_cases leftMinutes : left.minutes < 0 <;>
    by_cases rightHours : right.hours < 0 <;> by_cases rightMinutes : right.minutes < 0 <;>
      simp [stampMarks, SignsAgree, numeralMarks, leftHours, leftMinutes, rightHours,
        rightMinutes]

/-- A text that looks like a stamp starts with its only bracket and contains no colon. -/
theorem bracketed_of_skeleton_eq
    {text : Text} {duration : Duration}
    (shown : skeleton text = duration.stampMarks) :
    (∃ rest, text = '[' :: rest ∧ '[' ∉ rest) ∧ ':' ∉ text := by
  have marksOf (value : Int) {character : Char} (notMinus : character ≠ '-') :
      some character ∉ numeralMarks value := by
    unfold numeralMarks
    split <;> simp [notMinus]
  obtain ⟨rest, rfl, restShown⟩ := eq_cons_of_skeleton_eq shown
  refine ⟨⟨rest, rfl, ?_⟩, ?_⟩
  · intro member
    have mark := mem_skeleton (by decide) member
    rw [restShown] at mark
    simp [marksOf] at mark
  · intro member
    have mark := mem_skeleton (by decide) member
    rw [shown, stampMarks] at mark
    simp [marksOf] at mark

end Duration

end TitleStamp
