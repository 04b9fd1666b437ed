import TitleStamp.Json.NumberToken
import TitleStamp.Json.StringToken

/-!
# Tokens of a JSON text

A text is cut into tokens before its structure is looked at.  A token that cannot be finished is
the last one; whether its breach matters depends on where it stands.
-/

namespace TitleStamp.Json

/-- A token of a JSON text. -/
inductive Token where
  | openArray
  | closeArray
  | openObject
  | closeObject
  | comma
  | colon
  | null
  | boolean (value : Bool)
  /-- A number; used as such it may be out of range, and only some are natural numbers. -/
  | number (natural : Except Fault (Option Nat))
  /-- A string; used as such it may hold half a surrogate pair. -/
  | string (content : Except Fault Text)
  /-- A number or a word that breaks off. -/
  | brokenValue (breach : Breach)
  /-- A string that breaks off. -/
  | brokenString (breach : Breach)
  /-- A character that starts no token. -/
  | stray

/-- Whether a character may stand between tokens. -/
def isJsonBlank (character : Char) : Bool :=
  [' ', '\n', '\t', '\r'].contains character

/-- A token and the number of characters after its first, which is unknown for a token that
cannot be finished. -/
abbrev TokenReading := Token × Option Nat

/-- Reads the rest of a word. -/
def readWord (token : Token) (expected text : Text) : TokenReading :=
  match Text.after? expected text with
  | some _ => (token, some expected.length)
  | none =>
      if (Text.after? text expected).isSome then
        (.brokenValue Breach.atEnd, none)
      else
        (.brokenValue Breach.atCharacter, none)

/-- Reads a string after its opening quote. -/
def readString (text : Text) : TokenReading :=
  match skipString text, decodeString text with
  | .ok length, content => (.string content, some length)
  | .error skipped, .error used => (.brokenString ⟨used, skipped⟩, none)
  | .error skipped, .ok _ => (.brokenString ⟨skipped, skipped⟩, none)

/-- Reads a number from its first character on. -/
def readNumberToken (text : Text) : TokenReading :=
  match readNumber text with
  | .ok parts =>
      (.number (if parts.isOutOfRange then .error .malformed else .ok parts.natural?),
        some (parts.length - 1))
  | .error breach => (.brokenValue breach, none)

/-- Reads the token that starts with a character. -/
def readToken (first : Char) (rest : Text) : TokenReading :=
  match first with
  | '[' => (.openArray, some 0)
  | ']' => (.closeArray, some 0)
  | '\x7b' => (.openObject, some 0)
  | '\x7d' => (.closeObject, some 0)
  | ',' => (.comma, some 0)
  | ':' => (.colon, some 0)
  | '"' => readString rest
  | 'n' => readWord .null "ull".toList rest
  | 't' => readWord (.boolean true) "rue".toList rest
  | 'f' => readWord (.boolean false) "alse".toList rest
  | other =>
      if other = '-' ∨ other.isDigit then
        readNumberToken (other :: rest)
      else
        (.stray, none)

/-- The tokens of a text of which the first characters belong to the token before. -/
def tokensFrom : (covered : Nat) → Text → List Token
  | _, [] => []
  | covered + 1, _ :: rest => tokensFrom covered rest
  | 0, first :: rest =>
      if isJsonBlank first then
        tokensFrom 0 rest
      else
        match readToken first rest with
        | (token, some length) => token :: tokensFrom length rest
        | (token, none) => [token]

def tokens (text : Text) : List Token :=
  tokensFrom 0 text

end TitleStamp.Json
