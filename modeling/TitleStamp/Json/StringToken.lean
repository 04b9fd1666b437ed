import TitleStamp.Json.Fault
import TitleStamp.Text.Basic

/-!
# JSON strings

Reading a string after its opening quote.  A string that is used is decoded; one that is skipped
is only followed to its closing quote, and surrogate escapes in it need no partner.
-/

namespace TitleStamp.Json

/-- The value of a hexadecimal digit. -/
def hexDigit? (character : Char) : Option Nat :=
  if character.isDigit then some (character.toNat - '0'.toNat)
  else if 'a' ≤ character ∧ character ≤ 'f' then some (character.toNat - 'a'.toNat + 10)
  else if 'A' ≤ character ∧ character ≤ 'F' then some (character.toNat - 'A'.toNat + 10)
  else none

/-- The number that four hexadecimal digits at the start of a text denote.  The text has to go
on for four bytes before the digits are looked at. -/
def hexUnit (text : Text) : Except Fault Nat :=
  let digits := text.take 4
  if Text.byteLength digits < 4 then
    .error .endsEarly
  else
    match digits.mapM hexDigit? with
    | some values => .ok (values.foldl (fun unit value => 16 * unit + value) 0)
    | none => .error .malformed

/-- The character that a one-letter escape stands for. -/
def shortEscape? : Char → Option Char
  | '"' => some '"'
  | '\\' => some '\\'
  | '/' => some '/'
  | 'b' => some '\x08'
  | 'f' => some '\x0c'
  | 'n' => some '\n'
  | 'r' => some '\r'
  | 't' => some '\t'
  | _ => none

/-- Whether a unit is the first half of a surrogate pair. -/
def isHighSurrogate (unit : Nat) : Bool :=
  0xD800 ≤ unit && unit < 0xDC00

/-- Whether a unit is the second half of a surrogate pair. -/
def isLowSurrogate (unit : Nat) : Bool :=
  0xDC00 ≤ unit && unit < 0xE000

/-- The character that a surrogate pair stands for. -/
def joinSurrogates (high low : Nat) : Char :=
  Char.ofNat (0x10000 + (high - 0xD800) * 0x400 + (low - 0xDC00))

/-- What an escape sequence, read after its backslash, stands for, and how many characters it
takes. -/
def readEscape : Text → Except Fault (Char × Nat)
  | [] => .error .endsEarly
  | 'u' :: digits => do
      let unit ← hexUnit digits
      if isLowSurrogate unit then
        .error .malformed
      else if isHighSurrogate unit then
        match digits.drop 4 with
        | [] => .error .endsEarly
        | ['\\'] => .error .endsEarly
        | '\\' :: 'u' :: more => do
            let low ← hexUnit more
            if isLowSurrogate low then
              .ok (joinSurrogates unit low, 11)
            else
              .error .malformed
        | _ => .error .malformed
      else
        .ok (Char.ofNat unit, 5)
  | letter :: _ =>
      match shortEscape? letter with
      | some character => .ok (character, 1)
      | none => .error .malformed

/-- How many characters a skipped escape sequence takes after its backslash. -/
def skipEscape : Text → Except Fault Nat
  | [] => .error .endsEarly
  | 'u' :: digits => (hexUnit digits).map fun _ => 5
  | letter :: _ => if (shortEscape? letter).isSome then .ok 1 else .error .malformed

/-- Decodes a string up to its closing quote; the first characters of the text belong to the
escape sequence before. -/
def decodeFrom : (covered : Nat) → Text → Except Fault Text
  | _, [] => .error .endsEarly
  | covered + 1, _ :: rest => decodeFrom covered rest
  | 0, character :: rest =>
      if character = '"' then
        .ok []
      else if character = '\\' then do
        let (decoded, length) ← readEscape rest
        let others ← decodeFrom length rest
        .ok (decoded :: others)
      else if character.toNat < 0x20 then
        .error .malformed
      else do
        let others ← decodeFrom 0 rest
        .ok (character :: others)

/-- The content of a string, read after its opening quote. -/
def decodeString (text : Text) : Except Fault Text :=
  decodeFrom 0 text

/-- Counts the characters of a string up to and with its closing quote; the first characters of
the text belong to the escape sequence before. -/
def skipFrom : (covered : Nat) → Text → Except Fault Nat
  | _, [] => .error .endsEarly
  | covered + 1, _ :: rest => (skipFrom covered rest).map (· + 1)
  | 0, character :: rest =>
      if character = '"' then
        .ok 1
      else if character = '\\' then do
        let length ← skipEscape rest
        (skipFrom length rest).map (· + 1)
      else if character.toNat < 0x20 then
        .error .malformed
      else
        (skipFrom 0 rest).map (· + 1)

/-- How many characters a string takes after its opening quote. -/
def skipString (text : Text) : Except Fault Nat :=
  skipFrom 0 text

end TitleStamp.Json
