import TitleStamp.Text.Basic

/-!
# Replacement

Replacing what a finder matches, once or everywhere.  A finder looks only at the start of the
text it is given, so the leftmost match wins and matches do not overlap.
-/

namespace TitleStamp

/-- Finds a non-empty match at the start of a text and gives what follows it. -/
abbrev Finder := Text → Option Text

namespace Text

/-- The text with its leftmost match replaced. -/
def replaceFirst (find : Finder) (replacement : Text) : Text → Text
  | [] => []
  | character :: rest =>
      match find (character :: rest) with
      | some remainder => replacement ++ remainder
      | none => character :: replaceFirst find replacement rest

/-- Replaces every match in a text of which the first characters belong to the match before. -/
def replaceAllFrom (find : Finder) (replacement : Text) : (matched : Nat) → Text → Text
  | _, [] => []
  | matched + 1, _ :: rest => replaceAllFrom find replacement matched rest
  | 0, character :: rest =>
      match find (character :: rest) with
      | some remainder =>
          replacement ++
            replaceAllFrom find replacement (rest.length - remainder.length) rest
      | none => character :: replaceAllFrom find replacement 0 rest

/-- The text with its matches replaced, from left to right. -/
def replaceAll (find : Finder) (replacement text : Text) : Text :=
  replaceAllFrom find replacement 0 text

end Text

end TitleStamp
