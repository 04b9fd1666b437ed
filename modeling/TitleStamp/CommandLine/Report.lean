import TitleStamp.CommandLine.Style
import TitleStamp.Template.Trace
import TitleStamp.Text.Quoted

/-!
# The report of a rendering

A report shows the tokens of a pattern, runs of literals as one entry, and the rendered text.
-/

namespace TitleStamp.Report

def kindStyle : TokenKind → Style
  | .placeholder => .blue
  | .function => .cyan
  | .literal => .gray

/-- The label of a kind of token, filled up to the width of the longest. -/
def paddedLabel (kind : TokenKind) : Text :=
  kind.label ++ List.replicate (11 - kind.label.length) ' '

def tokenEntry (styled : Bool) (token : Token) : Text :=
  Style.paint styled .yellow (Text.ofNat token.start ++ "..".toList ++ Text.ofNat token.stop) ++
    ' ' :: Style.paint styled (kindStyle token.kind) (paddedLabel token.kind) ++
    ' ' :: Style.paint styled .dim token.source.quoted ++
    ' ' :: Style.paint styled .dim ['→'] ++
    ' ' :: Style.paint styled .green token.value.quoted

/-- The lines of tokens, numbered from the given number on. -/
def tokenLines (styled : Bool) : (number : Nat) → List Token → Text
  | _, [] => []
  | number, token :: rest =>
      "  ".toList ++ Style.paint styled .gray ('[' :: Text.ofNat number ++ [']']) ++
        ' ' :: tokenEntry styled token ++ '\n' :: tokenLines styled (number + 1) rest

/-- The report of a rendering with the given variables. -/
def report (styled : Bool) (values : Variables) (pattern : Text) : Text :=
  let tokens := trace values pattern
  let heading := Style.paint styled .cyan ("⚙  Rendering: ".toList ++ pattern.quoted)
  let output := Style.paint styled .green (Text.quoted (tokens.flatMap (·.value)))
  '\n' :: Style.paint styled .bold heading ++ "\n\n".toList ++
    Style.paint styled .gray "━━━ Tokens ━━━".toList ++ '\n' ::
    (if tokens.isEmpty then
      Style.paint styled .dim "  Empty pattern".toList ++ ['\n']
    else
      tokenLines styled 0 (mergeLiterals tokens)) ++
    '\n' :: Style.paint styled .gray "━━━ Output ━━━".toList ++ "\n  ".toList ++
    Style.paint styled .bold output ++ "\n\n".toList

end TitleStamp.Report
