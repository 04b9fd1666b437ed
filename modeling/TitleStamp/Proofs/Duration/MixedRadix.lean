import TitleStamp.Proofs.Duration.PatternPieces

/-!
# The digits of a duration

The fields of a pattern show the greedy mixed-radix digits of the duration, and no step of the
computation leaves the range of 64-bit words.
-/

namespace TitleStamp

/-! ## Computing in words -/

/-- A number, if a 64-bit word with sign can hold it. -/
def inWord? (number : Int) : Option Int :=
  if Double.lowestWord ≤ number ∧ number ≤ Double.highestWord then some number else none

/-- Spreads a number over units as `distribute` does and gives each count a sign.  It fails as soon
as a step leaves the range of 64-bit words. -/
def distributeInWords? (sign : Int) : List TimeUnit → Int → Option (List (TimeUnit × Int))
  | [], _ => some []
  | unit :: rest, remaining => do
      let length ← inWord? unit.millis
      let count ← inWord? (remaining.tdiv length)
      let taken ← inWord? (count * length)
      let left ← inWord? (remaining - taken)
      let value ← inWord? (count * sign)
      let others ← distributeInWords? sign rest left
      return (unit, value) :: others

def fieldValuesInWords? (duration : Duration) (units : UnitSet) :
    Option (List (TimeUnit × Int)) := do
  let millis ← inWord? duration.millis
  let magnitude ← inWord? millis.natAbs
  distributeInWords? millis.sign units.units magnitude

theorem inWord?_of_natAbs_le {number : Int} (small : number.natAbs ≤ longestMillis) :
    inWord? number = some number := by
  rw [longestMillis] at small
  unfold inWord? Double.lowestWord Double.highestWord
  rw [if_pos (by omega)]

theorem inWord?_natCast {number bound : Nat}
    (below : number ≤ bound) (small : (bound : Int) ≤ longestMillis) :
    inWord? (number : Int) = some (number : Int) := by
  apply inWord?_of_natAbs_le
  omega

theorem distributeInWords?_eq
    {sign : Int} (isSign : sign.natAbs ≤ 1) (units : List TimeUnit)
    {remaining : Nat} (small : (remaining : Int) ≤ longestMillis) :
    distributeInWords? sign units remaining =
      some ((distribute units remaining).map fun (unit, count) => (unit, sign * count)) := by
  induction units generalizing remaining with
  | nil => rfl
  | cons unit rest inductionHypothesis =>
      have parts := Nat.div_add_mod' remaining unit.millis
      have lengthFits : inWord? (unit.millis : Int) = some (unit.millis : Int) := by
        cases unit <;> rfl
      have countFits :
          inWord? ((remaining : Int).tdiv unit.millis) =
            some ((remaining / unit.millis : Nat) : Int) := by
        rw [← Int.ofNat_tdiv]
        exact inWord?_natCast (Nat.div_le_self _ _) small
      have takenFits :
          inWord? (((remaining / unit.millis : Nat) : Int) * unit.millis) =
            some ((remaining / unit.millis * unit.millis : Nat) : Int) := by
        rw [← Int.natCast_mul]
        exact inWord?_natCast (Nat.div_mul_le_self _ _) small
      have leftFits :
          inWord? ((remaining : Int) - (remaining / unit.millis * unit.millis : Nat)) =
            some ((remaining % unit.millis : Nat) : Int) := by
        have isRemainder :
            (remaining : Int) - (remaining / unit.millis * unit.millis : Nat) =
              (remaining % unit.millis : Nat) := by
          omega
        rw [isRemainder]
        exact inWord?_natCast (Nat.mod_le _ _) small
      have valueFits :
          inWord? (((remaining / unit.millis : Nat) : Int) * sign) =
            some (sign * ((remaining / unit.millis : Nat) : Int)) := by
        have signed :
            sign.natAbs * (remaining / unit.millis) ≤ remaining :=
          Nat.le_trans (Nat.mul_le_mul_right _ isSign)
            (Nat.le_trans (Nat.le_of_eq (Nat.one_mul _)) (Nat.div_le_self _ _))
        rw [Int.mul_comm]
        apply inWord?_of_natAbs_le
        rw [Int.natAbs_mul, Int.natAbs_natCast]
        exact Int.le_trans (Int.ofNat_le.mpr signed) small
      have leftSmall : ((remaining % unit.millis : Nat) : Int) ≤ longestMillis :=
        Int.le_trans (Int.ofNat_le.mpr (Nat.mod_le _ _)) small
      simp only [distributeInWords?, lengthFits, countFits, takenFits, leftFits, valueFits,
        inductionHypothesis leftSmall, Option.bind_eq_bind, Option.bind_some, Option.pure_def]
      rfl

/-- The values of the fields are computed without leaving the range of words. -/
theorem fieldValuesInWords?_eq (duration : Duration) (units : UnitSet) :
    fieldValuesInWords? duration units = some (fieldValues duration units) := by
  have bounds : duration.millis.natAbs ≤ longestMillis := by
    have lower := duration.longest_le
    have upper := duration.le_longest
    omega
  have isSign := natAbs_sign_le_one duration.millis
  rw [fieldValuesInWords?, inWord?_of_natAbs_le bounds]
  dsimp only [bind, Option.bind]
  rw [inWord?_of_natAbs_le (by rwa [Int.natAbs_natCast])]
  exact distributeInWords?_eq isSign units.units bounds

/-! ## The fields of a pattern -/

/-- The units that have a field in a pattern. -/
def shownUnits (pattern : Text) : Finset TimeUnit :=
  ((segments pattern).filterMap Segment.unit?).toFinset

/-- The fields of a pattern show the greedy digits of a duration in the units of the pattern, each
as a numeral of the width of its field.  They are the fields of the pieces between the quotes.  No
step leaves the range of 64-bit words, and every field finds the value of its unit. -/
theorem format_greedy (duration : Duration) (pattern : Text) :
    ∃ (digit : TimeUnit → Int) (left : Nat) (shown : Segment → Text),
      duration.format pattern = (segments pattern).flatMap shown ∧
        (∀ text, shown (.literal text) = text) ∧
        (∀ unit width, .field unit width ∈ segments pattern →
          IsNumeral width (digit unit) (shown (.field unit width))) ∧
        segments pattern = (piecewiseSegments pattern).filter (· ≠ .literal []) ∧
        IsGreedy (shownUnits pattern) duration.millis digit left ∧
        fieldValuesInWords? duration (fieldUnits (segments pattern)) =
          some (fieldValues duration (fieldUnits (segments pattern))) ∧
        ∀ unit ∈ shownUnits pattern,
          (fieldValues duration (fieldUnits (segments pattern))).lookup unit =
            some (digit unit) := by
  let set := fieldUnits (segments pattern)
  refine ⟨fun unit => duration.millis.sign * unitCount set.units duration.millis.natAbs unit,
    leftover set.units duration.millis.natAbs, Segment.shown (fieldValues duration set),
    rfl, fun _ => rfl, fun unit width _ => isNumeral_shown duration set unit width,
    segments_eq_traced pattern, ?_, fieldValuesInWords?_eq duration set, ?_⟩
  · rw [shownUnits, ← toFinset_units_fieldUnits]
    exact isGreedy_unitCount set duration.millis
  · intro unit member
    rw [shownUnits, ← toFinset_units_fieldUnits, List.mem_toFinset] at member
    exact lookup_fieldValues_of_mem member duration

end TitleStamp
