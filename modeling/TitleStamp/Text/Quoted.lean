import TitleStamp.Text.Printable

/-!
# Quotations

A text shown inside a message stands between double quotes, with every character that could be
misread written as an escape.
-/

namespace TitleStamp

/-- How one character is shown inside a quotation. -/
def quotedCharacter (character : Char) : Text :=
  match character with
  | '\x00' => ['\\', '0']
  | '\t' => ['\\', 't']
  | '\n' => ['\\', 'n']
  | '\r' => ['\\', 'r']
  | '\\' => ['\\', '\\']
  | '"' => ['\\', '"']
  | other =>
      if isPrintable other then
        [other]
      else
        ['\\', 'u', '{'] ++ Nat.toDigits 16 other.toNat ++ ['}']

def Text.quoted (text : Text) : Text :=
  '"' :: text.flatMap quotedCharacter ++ ['"']

end TitleStamp
