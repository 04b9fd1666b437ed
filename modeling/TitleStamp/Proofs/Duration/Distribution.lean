import Mathlib.Algebra.Ring.Nat
import Mathlib.Data.List.Nodup
import TitleStamp.Duration.Pattern

/-!
# Spreading a duration over units

The counts of the units, each times the length of its unit, make up the whole but for what is left
over at the end.  Where every unit is a multiple of the next, what is left over is the remainder
by the last.
-/

namespace TitleStamp

/-- How many of a unit are counted when a number of milliseconds is spread over units. -/
def unitCount (units : List TimeUnit) (remaining : Nat) (unit : TimeUnit) : Nat :=
  ((distribute units remaining).lookup unit).getD 0

/-- What is left of a number of milliseconds when it has been spread over units. -/
def leftover : List TimeUnit → Nat → Nat
  | [], remaining => remaining
  | unit :: rest, remaining => leftover rest (remaining % unit.millis)

variable {unit other smallest : TimeUnit} {units : List TimeUnit}

theorem unitCount_cons_self (units : List TimeUnit) (remaining : Nat) :
    unitCount (unit :: units) remaining unit = remaining / unit.millis := by
  rw [unitCount, distribute, List.lookup_cons_self, Option.getD_some]

theorem unitCount_cons_of_ne (different : other ≠ unit) (remaining : Nat) :
    unitCount (unit :: units) remaining other =
      unitCount units (remaining % unit.millis) other := by
  rw [unitCount, distribute, List.lookup_cons, beq_false_of_ne different]
  rfl

/-- Nothing is lost: the counts make up the number together with what is left over. -/
theorem sum_unitCount_add_leftover (distinct : units.Nodup) (remaining : Nat) :
    (units.map fun unit => unitCount units remaining unit * unit.millis).sum +
      leftover units remaining = remaining := by
  induction units generalizing remaining with
  | nil => simp [leftover]
  | cons unit rest inductionHypothesis =>
      obtain ⟨fresh, restDistinct⟩ := List.nodup_cons.mp distinct
      have restCounts :
          (rest.map fun other => unitCount (unit :: rest) remaining other * other.millis) =
            rest.map fun other =>
              unitCount rest (remaining % unit.millis) other * other.millis := by
        refine List.map_congr_left fun other member => ?_
        rw [unitCount_cons_of_ne (ne_of_mem_of_not_mem member fresh)]
      have later := inductionHypothesis restDistinct (remaining % unit.millis)
      have here := Nat.div_add_mod' remaining unit.millis
      rw [List.map_cons, List.sum_cons, restCounts, unitCount_cons_self, leftover]
      omega

/-- Each unit is a multiple of the units after it. -/
def Nested (units : List TimeUnit) : Prop :=
  units.Pairwise fun larger smaller => smaller.millis ∣ larger.millis

theorem leftover_eq_mod (nested : Nested (units ++ [smallest])) (remaining : Nat) :
    leftover (units ++ [smallest]) remaining = remaining % smallest.millis := by
  induction units generalizing remaining with
  | nil => rfl
  | cons unit rest inductionHypothesis =>
      obtain ⟨multiple, restNested⟩ := List.pairwise_cons.mp nested
      rw [List.cons_append, leftover, inductionHypothesis restNested]
      exact Nat.mod_mod_of_dvd remaining (multiple smallest (by simp))

theorem nodup_units (set : UnitSet) : set.units.Nodup :=
  List.Nodup.filter _ (by decide)

theorem natAbs_sign_le_one (number : Int) : number.sign.natAbs ≤ 1 := by
  rw [Int.natAbs_sign]
  split <;> decide

/-- The value that a field of a unit shows: the count of the unit with the sign of the duration. -/
theorem lookup_fieldValues (duration : Duration) (set : UnitSet) (unit : TimeUnit) :
    ((fieldValues duration set).lookup unit).getD 0 =
      duration.millis.sign * unitCount set.units duration.millis.natAbs unit := by
  rw [fieldValues, unitCount]
  induction distribute set.units duration.millis.natAbs with
  | nil => simp
  | cons entry rest inductionHypothesis =>
      rw [List.map_cons, List.lookup_cons, List.lookup_cons]
      cases unit == entry.1 with
      | true => rfl
      | false => exact inductionHypothesis

theorem map_fst_distribute (units : List TimeUnit) (remaining : Nat) :
    (distribute units remaining).map Prod.fst = units := by
  induction units generalizing remaining with
  | nil => rfl
  | cons unit rest inductionHypothesis =>
      rw [distribute, List.map_cons, inductionHypothesis]

/-- No field of a listed unit has to fall back on zero. -/
theorem lookup_fieldValues_of_mem
    {set : UnitSet} {unit : TimeUnit} (member : unit ∈ set.units) (duration : Duration) :
    (fieldValues duration set).lookup unit =
      some (duration.millis.sign * unitCount set.units duration.millis.natAbs unit) := by
  have units : (fieldValues duration set).map Prod.fst = set.units := by
    rw [fieldValues, List.map_map]
    exact map_fst_distribute set.units duration.millis.natAbs
  have listed : ((fieldValues duration set).lookup unit).isSome := by
    rw [← units] at member
    obtain ⟨entry, isEntry, rfl⟩ := List.mem_map.mp member
    exact List.lookup_isSome_iff.mpr ⟨entry, isEntry, beq_self_eq_true entry.1⟩
  obtain ⟨value, found⟩ := Option.isSome_iff_exists.mp listed
  have shown := lookup_fieldValues duration set unit
  rw [found, Option.getD_some] at shown
  rw [found, shown]

end TitleStamp
