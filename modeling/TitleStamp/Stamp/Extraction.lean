import TitleStamp.Regex.Basic
import TitleStamp.Template.Lexeme
import TitleStamp.Text.Replace

/-!
# The regular expression that extracts a title

A title pattern becomes a regular expression whose first group captures the title.  The pattern
is escaped and then changed step by step.  A later step sees the text that an earlier one
inserted.
-/

namespace TitleStamp

/-- What follows a parenthesis that may be escaped. -/
def afterParenthesis? (parenthesis : Char) (text : Text) : Option Text :=
  match text with
  | '\\' :: rest => Text.after? [parenthesis] rest
  | _ => Text.after? [parenthesis] text

/-- Finds a call, escaped or not, whose whole argument is the given placeholder. -/
def wrapped (placeholder : Text) : Finder := fun text =>
  if text.takeWhile isNameCharacter = [] then
    none
  else do
    let argument ← afterParenthesis? '(' (text.dropWhile isNameCharacter)
    let closing ← Text.after? placeholder argument
    afterParenthesis? ')' closing

/-- Finds a call with unescaped parentheses. -/
def anyCall : Finder := fun text =>
  (Lexeme.readCall text).map fun lexeme => text.drop lexeme.source.length

/-- Finds a placeholder of any name. -/
def anyPlaceholder : Finder := fun text =>
  (Lexeme.readPlaceholder text).map fun lexeme => text.drop lexeme.source.length

def titlePlaceholder : Text :=
  ":title".toList

def durationPlaceholder : Text :=
  ":duration".toList

/-- The written regular expression that extracts the title from a text rendered by a title
pattern around the given duration text.  The first call of the title alone becomes the group
and the first call of the duration alone becomes the duration text; then the first bare
placeholder of each does the same; all other calls and placeholders stand for any text. -/
def extraction (titlePattern durationText : Text) : Text :=
  let durationRegex := Regex.escape durationText
  Regex.escape titlePattern
    |> Text.replaceFirst (wrapped titlePlaceholder) Regex.groupText
    |> Text.replaceFirst (wrapped durationPlaceholder) durationRegex
    |> Text.replaceFirst (Text.after? titlePlaceholder) Regex.groupText
    |> Text.replaceFirst (Text.after? durationPlaceholder) durationRegex
    |> Text.replaceAll anyCall Regex.lineText
    |> Text.replaceAll anyPlaceholder Regex.lineText

end TitleStamp
