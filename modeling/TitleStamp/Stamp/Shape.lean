import TitleStamp.Regex.Basic

/-!
# The shape of a rendered duration

The shape of a text is the regular expression that its digits generalize to: every longest run
of decimal digits stands for any such run and every other character for itself.
-/

namespace TitleStamp

/-- Writes the shape of the rest of a text; a digit directly after another adds nothing. -/
def shapeFrom (afterDigit : Bool) : Text → Text
  | [] => []
  | character :: rest =>
      if character.isDigit then
        (if afterDigit then [] else Regex.digitsText) ++ shapeFrom true rest
      else
        Regex.escapeCharacter character ++ shapeFrom false rest

def shape (text : Text) : Text :=
  shapeFrom false text

end TitleStamp
