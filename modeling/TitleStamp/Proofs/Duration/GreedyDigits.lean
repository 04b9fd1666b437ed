import Mathlib.Algebra.BigOperators.Group.Finset.Basic
import TitleStamp.Proofs.Duration.Distribution
import TitleStamp.Proofs.Duration.Format
import TitleStamp.Proofs.Number.Numeral

/-!
# Greedy digits

A duration is spread over units by greedy mixed-radix digits.  A unit takes as many whole units as
the larger ones leave, so that the smaller units and what is dropped in the end never make up one
more of it.  This asks for no unit to be a multiple of the next: years, months and weeks are not.  A
field shows such a digit as a numeral.
-/

namespace TitleStamp

/-! ## Greedy digits -/

/-- The digits of a number of milliseconds in a set of units, each as large as it can be, and what
the digits leave over. -/
structure IsGreedy
    (units : Finset TimeUnit) (millis : Int) (digit : TimeUnit → Int) (left : Nat) : Prop where
  sign : ∀ unit ∈ units, digit unit = 0 ∨ (digit unit).sign = millis.sign
  total : millis.natAbs = ∑ unit ∈ units, (digit unit).natAbs * unit.millis + left
  left_lt : ∀ smallest ∈ units,
    (∀ unit ∈ units, smallest.millis ≤ unit.millis) → left < smallest.millis
  smaller_lt : ∀ unit ∈ units,
    ∑ smaller ∈ units with smaller.millis < unit.millis,
      (digit smaller).natAbs * smaller.millis + left < unit.millis

/-- The units stand in a list from the largest to the smallest. -/
def Descending (units : List TimeUnit) : Prop :=
  units.Pairwise fun larger smaller => smaller.millis < larger.millis

theorem descending_units (set : UnitSet) : Descending set.units := by
  have all : Descending TimeUnit.all := by
    unfold Descending
    decide
  exact all.sublist List.filter_sublist

/-- The counts of some units, each times the length of its unit. -/
def countedMillis (units : List TimeUnit) (remaining : Nat) (counted : List TimeUnit) : Nat :=
  (counted.map fun unit => unitCount units remaining unit * unit.millis).sum

theorem countedMillis_cons_of_not_mem
    {unit : TimeUnit} {units counted : List TimeUnit}
    (absent : unit ∉ counted) (remaining : Nat) :
    countedMillis (unit :: units) remaining counted =
      countedMillis units (remaining % unit.millis) counted := by
  unfold countedMillis
  congr 1
  apply List.map_congr_left
  intro other member
  rw [unitCount_cons_of_ne (ne_of_mem_of_not_mem member absent)]

/-- What the units after one of the list make up with what is left over is less than this unit. -/
theorem countedMillis_smaller_lt
    {units : List TimeUnit} (descending : Descending units)
    {unit : TimeUnit} (member : unit ∈ units) (remaining : Nat) :
    countedMillis units remaining (units.filter (·.millis < unit.millis)) +
      leftover units remaining < unit.millis := by
  induction units generalizing remaining with
  | nil => cases member
  | cons first rest inductionHypothesis =>
      obtain ⟨firstLargest, restDescending⟩ := List.pairwise_cons.mp descending
      have firstAbsent : first ∉ rest := fun inRest =>
        Nat.lt_irrefl _ (firstLargest first inRest)
      have restDistinct : rest.Nodup :=
        restDescending.imp fun {larger smaller} less same => by
          rw [same] at less
          exact Nat.lt_irrefl _ less
      rcases List.mem_cons.mp member with rfl | inRest
      · have smaller : (unit :: rest).filter (·.millis < unit.millis) = rest := by
          rw [List.filter_cons_of_neg (by simp)]
          apply List.filter_eq_self.mpr
          intro other inRest
          exact decide_eq_true (firstLargest other inRest)
        rw [smaller, countedMillis_cons_of_not_mem firstAbsent, leftover]
        have whole := sum_unitCount_add_leftover restDistinct (remaining % unit.millis)
        have below := Nat.mod_lt remaining unit.millis_pos
        unfold countedMillis
        omega
      · have larger := firstLargest unit inRest
        have smaller :
            (first :: rest).filter (·.millis < unit.millis) =
              rest.filter (·.millis < unit.millis) := by
          apply List.filter_cons_of_neg
          simpa using Nat.le_of_lt larger
        have firstNotSmaller : first ∉ rest.filter (·.millis < unit.millis) :=
          fun inFilter => firstAbsent (List.mem_filter.mp inFilter).1
        rw [smaller, countedMillis_cons_of_not_mem firstNotSmaller, leftover]
        exact inductionHypothesis restDescending inRest (remaining % first.millis)

theorem unitCount_zero (units : List TimeUnit) (unit : TimeUnit) : unitCount units 0 unit = 0 := by
  induction units with
  | nil => rfl
  | cons first rest inductionHypothesis =>
      by_cases same : unit = first
      · rw [same, unitCount_cons_self, Nat.zero_div]
      · rw [unitCount_cons_of_ne same, Nat.zero_mod, inductionHypothesis]

theorem natAbs_sign_mul_unitCount (units : List TimeUnit) (millis : Int) (unit : TimeUnit) :
    (millis.sign * unitCount units millis.natAbs unit).natAbs =
      unitCount units millis.natAbs unit := by
  by_cases zero : millis = 0
  · rw [zero, Int.natAbs_zero, unitCount_zero]
    rfl
  · rw [Int.natAbs_mul, Int.natAbs_sign_of_ne_zero zero, Nat.one_mul, Int.natAbs_natCast]

theorem isGreedy_unitCount (set : UnitSet) (millis : Int) :
    IsGreedy set.units.toFinset millis
      (fun unit => millis.sign * unitCount set.units millis.natAbs unit)
      (leftover set.units millis.natAbs) := by
  have summed (counted : List TimeUnit) (distinct : counted.Nodup) :
      ∑ unit ∈ counted.toFinset,
          (millis.sign * unitCount set.units millis.natAbs unit).natAbs * unit.millis =
        countedMillis set.units millis.natAbs counted := by
    simp only [natAbs_sign_mul_unitCount]
    exact List.sum_toFinset _ distinct
  have smaller_lt : ∀ unit ∈ set.units.toFinset,
      ∑ smaller ∈ set.units.toFinset with smaller.millis < unit.millis,
          (millis.sign * unitCount set.units millis.natAbs smaller).natAbs * smaller.millis +
        leftover set.units millis.natAbs < unit.millis := by
    intro unit member
    have smaller :
        set.units.toFinset.filter (·.millis < unit.millis) =
          (set.units.filter (·.millis < unit.millis)).toFinset := by
      ext other
      simp
    rw [smaller, summed _ ((nodup_units set).filter _)]
    exact countedMillis_smaller_lt (descending_units set) (List.mem_toFinset.mp member) _
  refine ⟨?_, ?_, ?_, smaller_lt⟩
  · intro unit _
    by_cases none : unitCount set.units millis.natAbs unit = 0
    · left
      rw [none]
      exact Int.mul_zero _
    · right
      have positive : (0 : Int) < unitCount set.units millis.natAbs unit := by omega
      rw [Int.sign_mul, Int.sign_sign, Int.sign_eq_one_of_pos positive, Int.mul_one]
  · rw [summed _ (nodup_units set)]
    exact (sum_unitCount_add_leftover (nodup_units set) millis.natAbs).symm
  · intro smallest member _
    have below := smaller_lt smallest member
    omega

/-- The units of some fields, as a set. -/
theorem toFinset_units_fieldUnits (parts : List Segment) :
    (fieldUnits parts).units.toFinset = (parts.filterMap Segment.unit?).toFinset := by
  ext unit
  rw [List.mem_toFinset, List.mem_toFinset, mem_units_fieldUnits]

/-! ## Numerals -/

/-- An integer in decimal, with a minus sign if it is negative and with zeros in front of its
numeral where that is shorter than the width. -/
def IsNumeral (width : Nat) (value : Int) (text : Text) : Prop :=
  ∃ digits : Text,
    text = (if value < 0 then ['-'] else []) ++ digits ∧
      (∀ character ∈ digits, character.isDigit = true) ∧
      digitsValue digits = value.natAbs ∧
      digits.length = max width (Text.ofNat value.natAbs).length

theorem isNumeral_paddedField (width : Nat) (value : Int) :
    IsNumeral width value (paddedField width value) := by
  refine ⟨padLeft width (Text.ofNat value.natAbs), ?_, fun _ => isDigit_of_mem_padLeft,
    digitsValue_padLeft width value.natAbs, ?_⟩
  · unfold paddedField
    by_cases negative : value < 0
    · rw [if_pos negative, if_pos negative]
      rfl
    · rw [if_neg negative, if_neg negative]
      rfl
  · rw [padLeft, List.length_append, List.length_replicate]
    omega

/-- A field shows the digit of its unit. -/
theorem isNumeral_shown (duration : Duration) (set : UnitSet) (unit : TimeUnit) (width : Nat) :
    IsNumeral width (duration.millis.sign * unitCount set.units duration.millis.natAbs unit)
      (Segment.shown (fieldValues duration set) (.field unit width)) := by
  rw [Segment.shown, lookup_fieldValues]
  exact isNumeral_paddedField width _

end TitleStamp
