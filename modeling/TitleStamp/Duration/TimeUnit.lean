import TitleStamp.Text.Basic

/-!
# Units of time

The units of duration patterns.  No calendar is involved: a year has 365 days and a month has
30 days.
-/

namespace TitleStamp

/-- A unit that a duration pattern can ask for. -/
inductive TimeUnit where
  | year
  | month
  | week
  | day
  | hour
  | minute
  | second
  | millisecond
  deriving DecidableEq, Repr

namespace TimeUnit

/-- All units, the largest first. -/
def all : List TimeUnit :=
  [year, month, week, day, hour, minute, second, millisecond]

/-- The length of a unit in milliseconds. -/
def millis : TimeUnit → Nat
  | year => 365 * 24 * 60 * 60 * 1000
  | month => 30 * 24 * 60 * 60 * 1000
  | week => 7 * 24 * 60 * 60 * 1000
  | day => 24 * 60 * 60 * 1000
  | hour => 60 * 60 * 1000
  | minute => 60 * 1000
  | second => 1000
  | millisecond => 1

/-- The letter that stands for a unit in a pattern. -/
def letter : TimeUnit → Char
  | year => 'y'
  | month => 'M'
  | week => 'w'
  | day => 'd'
  | hour => 'h'
  | minute => 'm'
  | second => 's'
  | millisecond => 'S'

/-- The unit that a letter stands for. -/
def ofLetter? (letter : Char) : Option TimeUnit :=
  all.find? (·.letter = letter)

theorem ofLetter?_letter (unit : TimeUnit) : ofLetter? unit.letter = some unit := by
  cases unit <;> rfl

theorem mem_all (unit : TimeUnit) : unit ∈ all := by
  cases unit <;> decide

theorem millis_pos (unit : TimeUnit) : 0 < unit.millis := by
  cases unit <;> decide

end TimeUnit

end TitleStamp
