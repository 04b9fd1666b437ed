import TitleStamp.Duration.TimeUnit

/-!
# Sets of units

A set of units has one bit for each unit, the lowest bit for the largest unit.
-/

namespace TitleStamp

structure UnitSet where
  bits : BitVec 8
  deriving DecidableEq, Repr

namespace UnitSet

/-- The position of the bit of a unit. -/
def position : TimeUnit → Nat
  | .year => 0
  | .month => 1
  | .week => 2
  | .day => 3
  | .hour => 4
  | .minute => 5
  | .second => 6
  | .millisecond => 7

/-- The set without units. -/
def empty : UnitSet :=
  ⟨0⟩

def singleton (unit : TimeUnit) : UnitSet :=
  ⟨1 <<< position unit⟩

/-- The units in either set. -/
def union (left right : UnitSet) : UnitSet :=
  ⟨left.bits ||| right.bits⟩

/-- The units in the first set and not in the second. -/
def difference (left right : UnitSet) : UnitSet :=
  ⟨left.bits &&& ~~~right.bits⟩

def complement (set : UnitSet) : UnitSet :=
  ⟨~~~set.bits⟩

def contains (set : UnitSet) (unit : TimeUnit) : Bool :=
  set.bits.getLsbD (position unit)

/-- The units in the set, the largest first. -/
def units (set : UnitSet) : List TimeUnit :=
  TimeUnit.all.filter set.contains

def ofList (units : List TimeUnit) : UnitSet :=
  units.foldr (fun unit set => (singleton unit).union set) empty

theorem contains_singleton (unit other : TimeUnit) :
    (singleton unit).contains other = decide (unit = other) := by
  cases unit <;> cases other <;> decide

theorem contains_union (left right : UnitSet) (unit : TimeUnit) :
    (left.union right).contains unit = (left.contains unit || right.contains unit) := by
  simp [union, contains]

theorem contains_difference (left right : UnitSet) (unit : TimeUnit) :
    (left.difference right).contains unit = (left.contains unit && !right.contains unit) := by
  cases unit <;> simp [difference, contains, position]

theorem contains_complement (set : UnitSet) (unit : TimeUnit) :
    set.complement.contains unit = !set.contains unit := by
  cases unit <;> simp [complement, contains, position]

theorem contains_ofList (units : List TimeUnit) (unit : TimeUnit) :
    (ofList units).contains unit = decide (unit ∈ units) := by
  induction units with
  | nil => simp [ofList, empty, contains]
  | cons head tail inductionHypothesis =>
      rw [ofList, List.foldr_cons, contains_union, contains_singleton]
      rw [ofList] at inductionHypothesis
      rw [inductionHypothesis]
      by_cases same : head = unit
      · simp [same]
      · simp [same, Ne.symm same]

end UnitSet

end TitleStamp
