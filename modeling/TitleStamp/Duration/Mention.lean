import TitleStamp.Duration.Basic
import TitleStamp.Number.Decimal
import TitleStamp.Text.Blank
import TitleStamp.Text.Case.Lower
import TitleStamp.Text.Letter

/-!
# Durations mentioned in a text

A text mentions a duration wherever a number stands before the name of a unit.  The mentions of
a text are found from left to right and summed.  A number without a known unit is skipped.
-/

namespace TitleStamp

/-- A number, the blanks after it and the word that follows. -/
structure Mention where
  number : Text
  blanks : Text
  word : Text
  deriving DecidableEq, Repr

namespace Mention

def source (mention : Mention) : Text :=
  mention.number ++ mention.blanks ++ mention.word

/-- The longest digits with at most one point that a text starts with, of which at least one
is a digit. -/
def readMagnitude? (text : Text) : Option Text :=
  match text.takeWhile Char.isDigit, text.dropWhile Char.isDigit with
  | [], '.' :: rest =>
      match rest.takeWhile Char.isDigit with
      | [] => none
      | fraction => some ('.' :: fraction)
  | [], _ => none
  | whole, '.' :: rest => some (whole ++ '.' :: rest.takeWhile Char.isDigit)
  | whole, _ => some whole

/-- The exponent that a text starts with, or nothing. -/
def readExponent : Text → Text
  | [] => []
  | marker :: rest =>
      if marker = 'e' ∨ marker = 'E' then
        match rest with
        | [] => []
        | sign :: digits =>
            if sign = '+' ∨ sign = '-' then
              match digits.takeWhile Char.isDigit with
              | [] => []
              | exponent => marker :: sign :: exponent
            else
              match rest.takeWhile Char.isDigit with
              | [] => []
              | exponent => marker :: exponent
      else
        []

/-- The number without sign that a text starts with. -/
def readUnsigned? (text : Text) : Option Text :=
  (readMagnitude? text).map fun magnitude =>
    magnitude ++ readExponent (text.drop magnitude.length)

/-- The number that a text starts with. -/
def readNumber? : Text → Option Text
  | '-' :: rest => (readUnsigned? rest).map ('-' :: ·)
  | text => readUnsigned? text

/-- The mention that a text starts with. -/
def read? (text : Text) : Option Mention :=
  (readNumber? text).map fun number =>
    let afterNumber := text.drop number.length
    ⟨number, afterNumber.takeWhile isBlank,
      (afterNumber.dropWhile isBlank).takeWhile isLetterUpToCase⟩

/-- Collects the mentions of a text of which the first characters belong to the mention
before. -/
def collectFrom : (covered : Nat) → Text → List Mention
  | _, [] => []
  | covered + 1, _ :: rest => collectFrom covered rest
  | 0, character :: rest =>
      match read? (character :: rest) with
      | some mention => mention :: collectFrom (mention.source.length - 1) rest
      | none => collectFrom 0 rest

end Mention

/-- The mentions of a text, from left to right. -/
def mentions (text : Text) : List Mention :=
  Mention.collectFrom 0 text

/-- A double that is a whole number of milliseconds. -/
def wholeMillis (millis : Nat) : Double :=
  Double.ofInt millis

/-- The names of units that texts use, with the lengths of the units in milliseconds.  Months
and years have their average lengths. -/
def unitNames : List (List String × Double) :=
  [(["ns", "nanosecond"], Double.ofDecimal false 1 (-6)),
   (["us", "µs", "μs", "microsecond"], Double.ofDecimal false 1 (-3)),
   (["ms", "millisecond", "msec"], wholeMillis 1),
   (["s", "sec", "second"], wholeMillis 1000),
   (["m", "min", "minute"], wholeMillis 60000),
   (["h", "hr", "hour"], wholeMillis 3600000),
   (["d", "day"], wholeMillis 86400000),
   (["w", "wk", "week"], wholeMillis 604800000),
   (["b", "month"], wholeMillis 2629800000),
   (["y", "yr", "year"], wholeMillis 31557600000)]

/-- The length of the unit with exactly the given name. -/
def exactUnitLength? (name : Text) : Option Double :=
  (unitNames.find? fun entry => entry.1.any (·.toList = name)).map (·.2)

/-- The length of the unit that a word names, in any case and with or without a plural s. -/
def unitLength? (word : Text) : Option Double :=
  let name := Text.lowercase word
  match exactUnitLength? name with
  | some length => some length
  | none => (Text.before? ['s'] name).bind exactUnitLength?

/-- The milliseconds that a mention contributes, if its word names a unit. -/
def Mention.millis? (mention : Mention) : Option Double :=
  match unitLength? mention.word, Double.ofText? mention.number with
  | some length, some amount => some (amount.mul length)
  | _, _ => none

/-- The text without the separators that stand between two digits.  A digit already used on
the right of one separator does not count on the left of the next. -/
def dropSeparators : Text → Text
  | left :: separator :: right :: rest =>
      if left.isDigit ∧ (separator = ',' ∨ separator = '_') ∧ right.isDigit then
        left :: right :: dropSeparators rest
      else
        left :: dropSeparators (separator :: right :: rest)
  | text => text

/-- The sum of the durations mentioned in a text, if it mentions any. -/
def Duration.parse? (text : Text) : Option Duration :=
  match (mentions (dropSeparators text)).filterMap Mention.millis? with
  | [] => none
  | amounts => Duration.ofMillis? (amounts.foldl Double.add (.finite 0)).toWord

end TitleStamp
