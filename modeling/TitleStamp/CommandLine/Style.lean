import TitleStamp.Text.Basic

/-!
# Styles

What is meant for a display may be set off by colors and weight.
-/

namespace TitleStamp

inductive Style where
  | bold
  | dim
  | red
  | green
  | yellow
  | blue
  | cyan
  | gray
  deriving DecidableEq, Repr

namespace Style

def code : Style → Text
  | bold => "\x1b[1m".toList
  | dim => "\x1b[2m".toList
  | red => "\x1b[31m".toList
  | green => "\x1b[32m".toList
  | yellow => "\x1b[33m".toList
  | blue => "\x1b[34m".toList
  | cyan => "\x1b[36m".toList
  | gray => "\x1b[90m".toList

def reset : Text :=
  "\x1b[0m".toList

/-- The text in a style, if styles are shown. -/
def paint (shown : Bool) (style : Style) (text : Text) : Text :=
  if shown then style.code ++ text ++ reset else text

end Style

end TitleStamp
