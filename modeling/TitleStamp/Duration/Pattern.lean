import TitleStamp.Duration.Basic
import TitleStamp.Duration.UnitSet

/-!
# Duration patterns

A duration pattern is read character by character.  Text between quotes is copied.  Outside
quotes a run of one repeated unit letter is a field, whose width is the length of the run, and
every other run is copied.  The duration is spread over exactly the units that have fields.
-/

namespace TitleStamp

/-- A part of a duration pattern. -/
inductive Segment where
  | literal (text : Text)
  | field (unit : TimeUnit) (width : Nat)
  deriving DecidableEq, Repr

namespace Segment

/-- The segment of a run of one repeated character outside quotes. -/
def ofRun (repeated : Char) (count : Nat) : Segment :=
  match TimeUnit.ofLetter? repeated with
  | some unit => field unit count
  | none => literal (List.replicate count repeated)

/-- The segment of quoted text, of which an empty one leaves no trace. -/
def ofQuoted (text : Text) : List Segment :=
  if text.isEmpty then [] else [literal text]

/-- What a reader of a duration pattern has in hand. -/
inductive Reading where
  /-- Nothing: the pattern starts, or a quote has just closed. -/
  | fresh
  /-- A run of a character outside quotes. -/
  | run (repeated : Char) (count : Nat)
  /-- The quoted text so far. -/
  | quoted (text : Text)

/-- Reads the rest of a pattern into segments. -/
def readFrom : Reading → Text → List Segment
  | .fresh, [] => []
  | .fresh, character :: rest =>
      if character = '\'' then
        readFrom (.quoted []) rest
      else
        readFrom (.run character 1) rest
  | .run repeated count, [] => [ofRun repeated count]
  | .run repeated count, character :: rest =>
      if character = '\'' then
        ofRun repeated count :: readFrom (.quoted []) rest
      else if character = repeated then
        readFrom (.run repeated (count + 1)) rest
      else
        ofRun repeated count :: readFrom (.run character 1) rest
  | .quoted text, [] => ofQuoted text
  | .quoted text, character :: rest =>
      if character = '\'' then
        ofQuoted text ++ readFrom .fresh rest
      else
        readFrom (.quoted (text ++ [character])) rest

/-- The unit of a field. -/
def unit? : Segment → Option TimeUnit
  | literal _ => none
  | field unit _ => some unit

end Segment

/-- The segments of a duration pattern. -/
def segments (pattern : Text) : List Segment :=
  Segment.readFrom .fresh pattern

/-- The units that have a field among the segments. -/
def fieldUnits (segments : List Segment) : UnitSet :=
  UnitSet.ofList (segments.filterMap Segment.unit?)

theorem mem_units_fieldUnits {segments : List Segment} {unit : TimeUnit} :
    unit ∈ (fieldUnits segments).units ↔ unit ∈ segments.filterMap Segment.unit? := by
  rw [UnitSet.units, List.mem_filter, fieldUnits, UnitSet.contains_ofList, decide_eq_true_iff,
    and_iff_right (TimeUnit.mem_all unit)]

/-- Spreads a number of milliseconds over units, the first taking as many whole units as there
are.  What is left at the end is dropped. -/
def distribute : List TimeUnit → Nat → List (TimeUnit × Nat)
  | [], _ => []
  | unit :: rest, remaining =>
      (unit, remaining / unit.millis) :: distribute rest (remaining % unit.millis)

/-- A field value with its sign and at least the given number of digits.  A width has no upper
limit: fields wider than 65535 are filled up too, which a formatter that keeps widths in sixteen
bits refuses. -/
def paddedField (width : Nat) (value : Int) : Text :=
  if value < 0 then
    '-' :: padLeft width (Text.ofNat value.natAbs)
  else
    padLeft width (Text.ofNat value.natAbs)

/-- The value that each unit of a pattern shows for a duration.  Every value has the sign of
the duration. -/
def fieldValues (duration : Duration) (units : UnitSet) : List (TimeUnit × Int) :=
  (distribute units.units duration.millis.natAbs).map fun (unit, count) =>
    (unit, duration.millis.sign * count)

/-- The text of one segment, given the values of the units. -/
def Segment.shown (values : List (TimeUnit × Int)) : Segment → Text
  | .literal text => text
  | .field unit width => paddedField width ((values.lookup unit).getD 0)

def Duration.format (duration : Duration) (pattern : Text) : Text :=
  let parts := segments pattern
  let values := fieldValues duration (fieldUnits parts)
  parts.flatMap (·.shown values)

end TitleStamp
