import TitleStamp.Text.Basic

/-!
# Ranges of code points

A property of characters is given as the ranges of code points that have it.
-/

namespace TitleStamp

/-- Inclusive ranges of code points, from the lowest to the highest. -/
abbrev CodePointRanges := List (Nat × Nat)

/-- Whether a character lies in one of the ranges. -/
def CodePointRanges.contains
    (ranges : CodePointRanges) (character : Char) : Bool :=
  ranges.any fun range => range.1 ≤ character.toNat && character.toNat ≤ range.2

end TitleStamp
