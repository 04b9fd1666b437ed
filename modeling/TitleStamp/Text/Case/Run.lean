import TitleStamp.Text.Basic

/-!
# Runs of case pairs

A case mapping lists the characters it changes as runs: equally spaced code points that all
move by the same distance.
-/

namespace TitleStamp

/-- Equally spaced code points whose mapping moves each by the same distance. -/
structure CaseRun where
  first : Nat
  last : Nat
  step : Nat
  distance : Int

namespace CaseRun

def contains (run : CaseRun) (codePoint : Nat) : Bool :=
  run.first ≤ codePoint && codePoint ≤ run.last && (codePoint - run.first) % run.step = 0

/-- Moves a character by the distance of the run that lists it; other characters stay. -/
def apply (runs : List CaseRun) (character : Char) : Char :=
  match runs.find? (·.contains character.toNat) with
  | some run => Char.ofNat (character.toNat + run.distance).toNat
  | none => character

end CaseRun

end TitleStamp
