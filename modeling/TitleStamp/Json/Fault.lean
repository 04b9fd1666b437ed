/-!
# Faults of JSON texts

Reading stops at the first problem in reading order, and the kind of that problem is the answer.
-/

namespace TitleStamp.Json

/-- What is wrong with a JSON text. -/
inductive Fault where
  /-- The text ends inside a value. -/
  | endsEarly
  /-- The text is not JSON. -/
  | malformed
  /-- The text is JSON so far but not of the expected shape. -/
  | mismatch
  deriving DecidableEq, Repr

/-- A place at which a text stops being JSON.  A value that is only skipped is read less
strictly than one that is used, so the two may find different faults at the same place. -/
structure Breach where
  /-- The fault found when the value is used. -/
  used : Fault
  /-- The fault found when the value is skipped. -/
  skipped : Fault
  deriving DecidableEq, Repr

def Breach.atEnd : Breach :=
  ⟨.endsEarly, .endsEarly⟩

/-- The breach at a character that cannot stand where it does. -/
def Breach.atCharacter : Breach :=
  ⟨.malformed, .malformed⟩

end TitleStamp.Json
