import TitleStamp.Retitle

/-!
# Totals out of range

Durations are added one after the other, and a sum can leave the range of durations on either side.
A saturating sum stops at the end that it leaves.  The total does so above the longest duration, but
below the shortest one it jumps to the longest.  The gap to the saturating sum is then the whole
range, and it closes only if the durations that follow swing that far.
-/

namespace TitleStamp

namespace Duration

theorem neg_longestMillis_le : -longestMillis ≤ longestMillis := by
  decide

/-- The duration of a number of milliseconds, or the end of the range that the number is beyond. -/
def clamped (millis : Int) : Duration :=
  ⟨max (-longestMillis) (min longestMillis millis),
    Int.le_max_left _ _,
    Int.max_le.mpr ⟨neg_longestMillis_le, Int.min_le_left _ _⟩⟩

def shortest : Duration :=
  ⟨-longestMillis, Int.le_refl _, neg_longestMillis_le⟩

def saturatingAdd (left right : Duration) : Duration :=
  clamped (left.millis + right.millis)

/-- The sum as totals take it. -/
def jumpingAdd (left right : Duration) : Duration :=
  (left.add? right).getD longest

variable {left right total higher lower : Duration}

theorem eq_of_millis_eq (same : left.millis = right.millis) : left = right := by
  cases left
  cases right
  cases same
  rfl

theorem millis_saturatingAdd :
    (left.saturatingAdd right).millis =
      max (-longestMillis) (min longestMillis (left.millis + right.millis)) :=
  rfl

/-- Above the range and within it, totals saturate. -/
theorem jumpingAdd_of_le (notBelow : -longestMillis ≤ left.millis + right.millis) :
    left.jumpingAdd right = left.saturatingAdd right := by
  apply eq_of_millis_eq
  rw [jumpingAdd, millis_saturatingAdd]
  cases added : left.add? right with
  | some sum =>
      have isSum := millis_of_ofMillis? added
      have le_longest := sum.le_longest
      rw [Option.getD_some]
      omega
  | none =>
      have outside := ofMillis?_eq_none_iff.mp added
      have isLongest : longest.millis = longestMillis := rfl
      have ordered := neg_longestMillis_le
      rw [Option.getD_none]
      omega

theorem jumpingAdd_of_lt (below : left.millis + right.millis < -longestMillis) :
    left.jumpingAdd right = longest := by
  have outside : left.add? right = none := ofMillis?_eq_none_iff.mpr (Or.inl below)
  rw [jumpingAdd, outside, Option.getD_none]

theorem saturatingAdd_of_lt (below : left.millis + right.millis < -longestMillis) :
    left.saturatingAdd right = shortest := by
  have ordered := neg_longestMillis_le
  have isShortest : shortest.millis = -longestMillis := rfl
  apply eq_of_millis_eq
  rw [millis_saturatingAdd]
  omega

theorem saturatingAdd_mono (ordered : lower.millis ≤ higher.millis) (duration : Duration) :
    (lower.saturatingAdd duration).millis ≤ (higher.saturatingAdd duration).millis := by
  rw [millis_saturatingAdd, millis_saturatingAdd]
  omega

theorem saturatingAdd_le_jumpingAdd (duration : Duration) :
    (total.saturatingAdd duration).millis ≤ (total.jumpingAdd duration).millis := by
  by_cases below : total.millis + duration.millis < -longestMillis
  · rw [jumpingAdd_of_lt below]
    exact (total.saturatingAdd duration).le_longest
  · exact Int.le_of_eq (congrArg millis (jumpingAdd_of_le (Int.not_lt.mp below)).symm)

/-! ## Saturating sums from two starts -/

/-- The highest of the sums of the first durations of a list. -/
def highestSum : List Duration → Int
  | [] => 0
  | duration :: rest => max 0 (duration.millis + highestSum rest)

/-- The lowest of the sums of the first durations of a list. -/
def lowestSum : List Duration → Int
  | [] => 0
  | duration :: rest => min 0 (duration.millis + lowestSum rest)

theorem highestSum_nonneg (durations : List Duration) : 0 ≤ highestSum durations := by
  cases durations with
  | nil => exact Int.le_refl _
  | cons duration rest => exact Int.le_max_left _ _

theorem lowestSum_nonpos (durations : List Duration) : lowestSum durations ≤ 0 := by
  cases durations with
  | nil => exact Int.le_refl _
  | cons duration rest => exact Int.min_le_left _ _

/-- How far the sums of the first durations of a list lie apart. -/
def swing (durations : List Duration) : Int :=
  highestSum durations - lowestSum durations

/-- Saturating sums from two starts meet exactly if the sums in between reach beyond the range,
above the higher start and below the lower one, by as much as the starts lie apart. -/
theorem foldl_saturatingAdd_eq_iff
    (ordered : lower.millis ≤ higher.millis) (durations : List Duration) :
    durations.foldl saturatingAdd higher = durations.foldl saturatingAdd lower ↔
      2 * longestMillis ≤
        max (longestMillis - higher.millis) (highestSum durations) +
          max (longestMillis + lower.millis) (-lowestSum durations) := by
  induction durations generalizing higher lower with
  | nil =>
      have higherBound := higher.le_longest
      have lowerBound := lower.longest_le
      rw [List.foldl_nil, List.foldl_nil, highestSum, lowestSum]
      constructor
      · intro same
        have sameMillis : higher.millis = lower.millis := congrArg millis same
        omega
      · intro reached
        apply eq_of_millis_eq
        omega
  | cons duration rest inductionHypothesis =>
      have higherLower := higher.longest_le
      have higherUpper := higher.le_longest
      have lowerLower := lower.longest_le
      have lowerUpper := lower.le_longest
      have nonneg := highestSum_nonneg rest
      have nonpos := lowestSum_nonpos rest
      rw [List.foldl_cons, List.foldl_cons,
        inductionHypothesis (saturatingAdd_mono ordered duration), millis_saturatingAdd,
        millis_saturatingAdd, highestSum, lowestSum]
      omega

/-- The saturating sums from the two ends of the range meet exactly if the durations swing over the
whole range. -/
theorem foldl_saturatingAdd_longest_eq_iff (durations : List Duration) :
    durations.foldl saturatingAdd longest = durations.foldl saturatingAdd shortest ↔
      2 * longestMillis ≤ swing durations := by
  have nonneg := highestSum_nonneg durations
  have nonpos := lowestSum_nonpos durations
  have isLongest : longest.millis = longestMillis := rfl
  have isShortest : shortest.millis = -longestMillis := rfl
  rw [foldl_saturatingAdd_eq_iff shortest.le_longest, isLongest, isShortest, swing]
  omega

/-! ## Jumping sums -/

theorem foldl_saturatingAdd_mono
    (ordered : lower.millis ≤ higher.millis) (durations : List Duration) :
    (durations.foldl saturatingAdd lower).millis ≤
      (durations.foldl saturatingAdd higher).millis :=
  List.foldl_rel (r := fun lower higher : Duration => lower.millis ≤ higher.millis) ordered
    fun duration _ _ _ ordered => saturatingAdd_mono ordered duration

theorem foldl_saturatingAdd_le_foldl_jumpingAdd
    (ordered : lower.millis ≤ higher.millis) (durations : List Duration) :
    (durations.foldl saturatingAdd lower).millis ≤ (durations.foldl jumpingAdd higher).millis :=
  List.foldl_rel (r := fun lower higher : Duration => lower.millis ≤ higher.millis) ordered
    fun duration _ _ _ ordered =>
      Int.le_trans (saturatingAdd_mono ordered duration) (saturatingAdd_le_jumpingAdd duration)

/-- What holds wherever a list splits at a duration holds at its head and wherever its rest splits.
-/
theorem forall_split_cons_iff {duration : Duration} {rest : List Duration}
    {property : List Duration → Duration → List Duration → Prop} :
    (∀ before last after, duration :: rest = before ++ last :: after →
        property before last after) ↔
      property [] duration rest ∧
        ∀ before last after, rest = before ++ last :: after →
          property (duration :: before) last after := by
  constructor
  · intro holds
    refine ⟨holds [] duration rest rfl, fun before last after isSplit => ?_⟩
    exact holds (duration :: before) last after (congrArg (duration :: ·) isSplit)
  · intro ⟨first, others⟩ before last after isSplit
    cases before with
    | nil =>
        cases isSplit
        exact first
    | cons head before =>
        cases isSplit
        exact others before last after rfl

/-- A sum that jumps is the saturating one exactly if after each of its jumps the durations swing
over the whole range. -/
theorem foldl_jumpingAdd_eq_iff (start : Duration) (durations : List Duration) :
    durations.foldl jumpingAdd start = durations.foldl saturatingAdd start ↔
      ∀ before duration after, durations = before ++ duration :: after →
        (before.foldl jumpingAdd start).millis + duration.millis < -longestMillis →
        2 * longestMillis ≤ swing after := by
  induction durations generalizing start with
  | nil => simp
  | cons duration rest inductionHypothesis =>
      rw [forall_split_cons_iff]
      simp only [List.foldl_nil, List.foldl_cons]
      rw [← inductionHypothesis]
      by_cases below : start.millis + duration.millis < -longestMillis
      · -- the sums part here, and the saturating one from the longest duration lies between them
        have ordered : shortest.millis ≤ longest.millis := shortest.le_longest
        have lowest_le_highest := foldl_saturatingAdd_mono ordered rest
        have highest_le_jumped :=
          foldl_saturatingAdd_le_foldl_jumpingAdd (Int.le_refl longest.millis) rest
        rw [jumpingAdd_of_lt below, saturatingAdd_of_lt below,
          ← foldl_saturatingAdd_longest_eq_iff]
        constructor
        · intro same
          have sameMillis := congrArg millis same
          exact ⟨fun _ => eq_of_millis_eq (by omega), eq_of_millis_eq (by omega)⟩
        · intro ⟨meet, same⟩
          exact same.trans (meet below)
      · rw [jumpingAdd_of_le (Int.not_lt.mp below)]
        exact ⟨fun same => ⟨fun isBelow => absurd isBelow below, same⟩, fun both => both.2⟩

end Duration

/-- The sum of the durations that messages mention, where a sum that leaves the range stops at the
end that it leaves. -/
def saturatedTotal (messages : List Text) : Duration :=
  (messages.filterMap Duration.parse?).foldl Duration.saturatingAdd .zero

/-- The total saturates exactly if, after each message that takes it below the range, the durations
that follow swing over the whole range. -/
theorem totalDuration_eq_saturatedTotal_iff (messages : List Text) :
    totalDuration messages = saturatedTotal messages ↔
      ∀ earlier message later duration, messages = earlier ++ message :: later →
        Duration.parse? message = some duration →
        (totalDuration earlier).millis + duration.millis < -longestMillis →
        2 * longestMillis ≤ Duration.swing (later.filterMap Duration.parse?) := by
  refine (Duration.foldl_jumpingAdd_eq_iff .zero _).trans ?_
  constructor
  · intro swings earlier message later duration isSplit parsed below
    refine swings _ duration _ ?_ below
    rw [isSplit, List.filterMap_append, List.filterMap_cons_some parsed]
  · intro swings before duration after isSplit below
    obtain ⟨front, back, rfl, isBefore, isBack⟩ := List.filterMap_eq_append_iff.mp isSplit
    obtain ⟨skipped, message, later, rfl, allSkipped, parsed, rfl⟩ :=
      List.filterMap_eq_cons_iff.mp isBack
    refine swings (front ++ skipped) message later duration (by simp) parsed ?_
    have noneSkipped : skipped.filterMap Duration.parse? = [] :=
      List.filterMap_eq_nil_iff.mpr allSkipped
    rw [totalDuration, List.filterMap_append, isBefore, noneSkipped, List.append_nil]
    exact below

/-- Two messages that are together below the range have the longest total. -/
theorem totalDuration_negative_pair :
    let messages := ["-5e18ms".toList, "-5e18ms".toList]
    (totalDuration messages).millis = 9223372036854775807 ∧
      (saturatedTotal messages).millis = -9223372036854775807 := by
  decide +kernel

end TitleStamp
