import Mathlib.Tactic.Ring
import TitleStamp.Proofs.Duration.ScannedNumbers

/-!
# Texts without a duration

A text has no duration if none of its mentions names a unit.  There is one more way: the sum of the
mentions can round to a number of milliseconds below the shortest duration.  Above the longest one a
sum is cut off instead.
-/

namespace TitleStamp

namespace Double

/-- The number is nearer to the whole number below the shortest duration than to any duration, or
just as near. -/
inductive RoundsBelowShortest : Double → Prop where
  | finite {scaled : Int} (below : 2 * scaled ≤ -((2 * longestMillis + 1) * one)) :
      RoundsBelowShortest (.finite scaled)
  | infinite : RoundsBelowShortest (.infinite true)

theorem le_roundAway_iff (bound : Nat) (scaled : Int) :
    -(bound : Int) ≤ roundAway scaled ↔ -((2 * bound + 1) * one : Int) < 2 * scaled := by
  have positive := one_pos
  unfold roundAway
  generalize one = step at positive ⊢
  have limit : (2 * bound + 1) * step = 2 * (bound * step) + step := by ring
  have limitInt : ((2 * bound + 1) * step : Int) = 2 * (bound * step : Nat) + step := by
    exact_mod_cast limit
  rw [limitInt]
  by_cases negative : scaled < 0
  · have quotient :
        (2 * scaled.natAbs + step) / (2 * step) < bound + 1 ↔
          2 * scaled.natAbs + step < 2 * (bound * step) + 2 * step := by
      rw [Nat.div_lt_iff_lt_mul (by omega)]
      have expanded : (bound + 1) * (2 * step) = 2 * (bound * step) + 2 * step := by ring
      rw [expanded]
    rw [Int.sign_eq_neg_one_of_neg negative]
    omega
  · have notBelow : 0 ≤ scaled.sign * ((2 * scaled.natAbs + step) / (2 * step) : Nat) :=
      Int.mul_nonneg (Int.sign_nonneg_iff.mpr (Int.not_lt.mp negative)) (Int.natCast_nonneg _)
    constructor
    · intro _
      omega
    · intro _
      omega

theorem ofMillis?_toWord_eq_none_iff (number : Double) :
    Duration.ofMillis? number.toWord = none ↔ number.RoundsBelowShortest := by
  cases number with
  | notANumber => exact iff_of_false (by decide) nofun
  | infinite negative =>
      cases negative with
      | false => exact iff_of_false (by decide) nofun
      | true => exact iff_of_true (by decide) .infinite
  | finite scaled =>
      have notBelow := le_roundAway_iff 9223372036854775807 scaled
      have cut : (finite scaled).toWord < -longestMillis ∨ longestMillis < (finite scaled).toWord ↔
          roundAway scaled < -longestMillis := by
        unfold toWord lowestWord highestWord longestMillis
        dsimp only
        omega
      rw [Duration.ofMillis?_eq_none_iff, cut]
      constructor
      · intro below
        exact .finite (Int.not_lt.mp fun above => Int.not_le.mpr below (notBelow.mpr above))
      · rintro (below | _)
        exact Int.not_le.mp fun above => Int.not_le.mpr (notBelow.mp above) below

end Double

/-- The sum of the durations that a text mentions, before it is rounded. -/
def mentionedSum (text : Text) : Double :=
  ((mentions (dropSeparators text)).filterMap Mention.millis?).foldl Double.add (.finite 0)

/-- A mention contributes to the sum exactly if its word names a unit. -/
theorem millis?_eq_none_iff
    {text : Text} {mention : Mention} (mentioned : mention ∈ mentions text) :
    mention.millis? = none ↔ unitLength? mention.word = none := by
  obtain ⟨negative, digits, power, numberRead⟩ :=
    (spellsAmount_of_mem_mentions mentioned).exists_ofText?
  unfold Mention.millis?
  rw [numberRead]
  cases unitLength? _ <;> simp

/-- A text has no duration exactly if it mentions none or the sum of those that it mentions rounds
below the shortest duration. -/
theorem parse?_eq_none_iff (text : Text) :
    Duration.parse? text = none ↔
      (∀ mention ∈ mentions (dropSeparators text), unitLength? mention.word = none) ∨
        (mentionedSum text).RoundsBelowShortest := by
  have nothing :
      (mentions (dropSeparators text)).filterMap Mention.millis? = [] ↔
        ∀ mention ∈ mentions (dropSeparators text), unitLength? mention.word = none := by
    rw [List.filterMap_eq_nil_iff]
    exact forall₂_congr fun _ mentioned => millis?_eq_none_iff mentioned
  rw [← nothing]
  unfold Duration.parse? mentionedSum
  split
  · rename_i isNil
    exact iff_of_true rfl (Or.inl isNil)
  · rename_i amounts nonempty
    rw [Double.ofMillis?_toWord_eq_none_iff, or_iff_right nonempty]

/-- A text that mentions a very negative duration has none. -/
theorem parse?_very_negative :
    (mentions "-1e300h".toList).map Mention.word = ["h".toList] ∧
      unitLength? "h".toList ≠ none ∧ Duration.parse? "-1e300h".toList = none := by
  decide +kernel

end TitleStamp
