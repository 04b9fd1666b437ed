import TitleStamp.Text.CodePoints

/-!
# Blanks

The white space that trimming removes and that may stand between a number and its unit.
-/

namespace TitleStamp

/-- The code points with the property White_Space. -/
def blankRanges : CodePointRanges :=
  [(0x0009, 0x000D), (0x0020, 0x0020), (0x0085, 0x0085), (0x00A0, 0x00A0), (0x1680, 0x1680),
   (0x2000, 0x200A), (0x2028, 0x2029), (0x202F, 0x202F), (0x205F, 0x205F), (0x3000, 0x3000)]

/-- Whether a character is white space. -/
def isBlank (character : Char) : Bool :=
  blankRanges.contains character

namespace Text

/-- The text without the blanks it starts with. -/
def trimLeft (text : Text) : Text :=
  text.dropWhile isBlank

/-- The text without the blanks it ends with. -/
def trimRight (text : Text) : Text :=
  (text.reverse.dropWhile isBlank).reverse

/-- The text without the blanks at either end. -/
def trim (text : Text) : Text :=
  trimRight (trimLeft text)

end Text

end TitleStamp
