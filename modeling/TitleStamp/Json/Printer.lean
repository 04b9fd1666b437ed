import TitleStamp.Text.Basic

/-!
# Printing JSON

Values are printed over several lines, indented by two spaces a level, with members in the order
given.  Only quotes, backslashes and control characters are escaped.
-/

namespace TitleStamp.Json

/-- A value to be printed. -/
inductive Output where
  | natural (number : Nat)
  | string (content : Text)
  | object (members : List (Text × Output))

/-- A number as four hexadecimal digits. -/
def fourHexDigits (number : Nat) : Text :=
  let digits := Nat.toDigits 16 number
  List.replicate (4 - digits.length) '0' ++ digits

/-- A character as it stands inside a string. -/
def printCharacter (character : Char) : Text :=
  match character with
  | '"' => ['\\', '"']
  | '\\' => ['\\', '\\']
  | '\x08' => ['\\', 'b']
  | '\x0c' => ['\\', 'f']
  | '\n' => ['\\', 'n']
  | '\r' => ['\\', 'r']
  | '\t' => ['\\', 't']
  | other => if other.toNat < 0x20 then ['\\', 'u'] ++ fourHexDigits other.toNat else [other]

def printString (content : Text) : Text :=
  '"' :: content.flatMap printCharacter ++ ['"']

/-- The start of a line at a given level. -/
def newLine (level : Nat) : Text :=
  '\n' :: List.replicate (2 * level) ' '

mutual

/-- Prints a value that stands at a given level. -/
def Output.printAt (level : Nat) : Output → Text
  | .natural number => Text.ofNat number
  | .string content => printString content
  | .object [] => ['\x7b', '\x7d']
  | .object (member :: members) =>
      '\x7b' :: newLine (level + 1) ++ printMember (level + 1) member ++
        printMembers (level + 1) members ++ newLine level ++ ['\x7d']

def printMember (level : Nat) : Text × Output → Text
  | (name, value) => printString name ++ [':', ' '] ++ value.printAt level

/-- Prints the members after the first. -/
def printMembers (level : Nat) : List (Text × Output) → Text
  | [] => []
  | member :: members =>
      ',' :: newLine level ++ printMember level member ++ printMembers level members

end

def Output.print (output : Output) : Text :=
  output.printAt 0

end TitleStamp.Json
