import TitleStamp.Text.Basic

/-!
# Lexemes of a title pattern

A pattern is scanned from left to right.  At each position an ordered list of rules is tried
and the first rule that reads a lexeme there wins: a placeholder, then a call unless calls are
inert, then a single character.
-/

namespace TitleStamp

/-- Whether the name of a placeholder or a call may contain a character. -/
def isNameCharacter (character : Char) : Bool :=
  character.isAlpha || character = '_'

/-- Whether calls in a pattern are applied or stay inert text. -/
inductive Calls where
  | applied
  | inert
  deriving DecidableEq, Repr

/-- A unit of a title pattern. -/
inductive Lexeme where
  /-- A colon and a name. -/
  | placeholder (name : Text)
  /-- A name and an argument in parentheses. -/
  | call (name argument : Text)
  /-- Text that stands for itself. -/
  | literal (text : Text)
  deriving DecidableEq, Repr

namespace Lexeme

/-- The pattern text of a lexeme. -/
def source : Lexeme → Text
  | placeholder name => ':' :: name
  | call name argument => name ++ '(' :: argument ++ [')']
  | literal text => text

/-- Reads a colon and the longest name after it. -/
def readPlaceholder : Text → Option Lexeme
  | ':' :: rest =>
      match rest.takeWhile isNameCharacter with
      | [] => none
      | name => some (placeholder name)
  | _ => none

/-- The text before the last closing parenthesis of the current line, if the line has one. -/
def argumentOnLine : Text → Option Text
  | [] => none
  | character :: rest =>
      if character = '\n' then
        none
      else
        match argumentOnLine rest with
        | some argument => some (character :: argument)
        | none => if character = ')' then some [] else none

/-- Reads a name and, directly after it, an argument that reaches to the last closing
parenthesis of the line. -/
def readCall (text : Text) : Option Lexeme :=
  match text.takeWhile isNameCharacter, text.dropWhile isNameCharacter with
  | [], _ => none
  | name, '(' :: rest => (argumentOnLine rest).map (call name)
  | _, _ => none

/-- Reads any one character. -/
def readCharacter : Text → Option Lexeme
  | [] => none
  | character :: _ => some (literal [character])

end Lexeme

/-- A rule reads one lexeme at the start of a text or declines. -/
abbrev ScanRule := Text → Option Lexeme

/-- The rules of title patterns, in the order in which they are tried. -/
def scanRules : Calls → List ScanRule
  | .applied => [Lexeme.readPlaceholder, Lexeme.readCall, Lexeme.readCharacter]
  | .inert => [Lexeme.readPlaceholder, Lexeme.readCharacter]

/-- Where a scan stopped because no rule applied, and the text found there. -/
structure ScanStop where
  position : Nat
  snippet : Text

/-- Scans a text of which the first characters belong to the lexeme before.  The position is
the byte at which the text starts. -/
def scanFrom (rules : List ScanRule) :
    (position covered : Nat) → Text → Except ScanStop (List Lexeme)
  | _, _, [] => .ok []
  | position, covered + 1, character :: rest =>
      scanFrom rules (position + character.utf8Size) covered rest
  | position, 0, character :: rest =>
      match rules.findSome? (· (character :: rest)) with
      | none => .error ⟨position, (character :: rest).take 16⟩
      | some lexeme =>
          match scanFrom rules (position + character.utf8Size)
              (lexeme.source.length - 1) rest with
          | .ok lexemes => .ok (lexeme :: lexemes)
          | .error stop => .error stop

/-- Splits a text into lexemes by the given rules. -/
def scan (rules : List ScanRule) (text : Text) : Except ScanStop (List Lexeme) :=
  scanFrom rules 0 0 text

/-- The lexemes of a pattern.  A pattern that could not be scanned would be literal as a
whole. -/
def lexemes (calls : Calls) (pattern : Text) : List Lexeme :=
  match scan (scanRules calls) pattern with
  | .ok found => found
  | .error _ => [.literal pattern]

end TitleStamp
