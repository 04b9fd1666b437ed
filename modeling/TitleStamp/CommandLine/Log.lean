import TitleStamp.CommandLine.Style
import TitleStamp.Text.Blank
import TitleStamp.Text.Case.Lower
import TitleStamp.Text.ControlSequence

/-!
# Log lines

What a run reports beside its output.  Which records are shown is governed by directives, each a
level for all targets or for the targets that start with a name.
-/

namespace TitleStamp.Log

/-- How important a record is, and how much a directive lets through. -/
inductive Level where
  | off
  | error
  | warn
  | info
  | debug
  | trace
  deriving DecidableEq, Repr

namespace Level

/-- The rank of a level; a directive lets through what does not rank above it. -/
def rank : Level → Nat
  | off => 0
  | error => 1
  | warn => 2
  | info => 3
  | debug => 4
  | trace => 5

/-- The level with a name, in any case and between blanks.  Every other name means the level
of plain information. -/
def ofName (name : Text) : Level :=
  let known := Text.lowercase (Text.trim name)
  if known = "trace".toList then trace
  else if known = "debug".toList then debug
  else if known = "warn".toList then warn
  else if known = "error".toList then error
  else if known = "off".toList then off
  else info

/-- A level as a line shows it, filled up to five characters. -/
def label : Level → Text
  | off => "OFF  ".toList
  | error => "ERROR".toList
  | warn => "WARN ".toList
  | info => "INFO ".toList
  | debug => "DEBUG".toList
  | trace => "TRACE".toList

def style : Level → Style
  | off => .gray
  | error => .red
  | warn => .yellow
  | info => .green
  | debug => .blue
  | trace => .cyan

end Level

structure Record where
  level : Level
  target : Text
  message : Text
  deriving DecidableEq, Repr

/-- A level for all targets, or for those that start with a name. -/
structure Directive where
  target : Option Text
  level : Level
  deriving DecidableEq, Repr

namespace Directive

/-- Reads a directive: a level, or a target and a level with an equals sign between them. -/
def ofText (text : Text) : Directive :=
  match Text.splitOnce? '=' text with
  | some (target, level) => ⟨some (Text.trim target), Level.ofName level⟩
  | none => ⟨none, Level.ofName text⟩

def covers (directive : Directive) (target : Text) : Bool :=
  match directive.target with
  | some start => (Text.after? start target).isSome
  | none => true

def specificity (directive : Directive) : Nat :=
  match directive.target with
  | some start => Text.byteLength start
  | none => 0

end Directive

/-- The directives in force, at most one for each target. -/
abbrev Filter := List Directive

namespace Filter

/-- Adds a directive in place of an earlier one for the same target. -/
def add : Filter → Directive → Filter
  | [], added => [added]
  | directive :: filter, added =>
      if directive.target = added.target then
        added :: filter
      else
        directive :: add filter added

/-- Reads directives separated by commas. -/
def ofText (text : Text) : Filter :=
  (Text.splitOn ',' text).foldl (fun filter part => filter.add (Directive.ofText part)) []

/-- The directive that decides about a target: the most specific one about it, and the last of
equally specific ones. -/
def deciding? (filter : Filter) (target : Text) : Option Directive :=
  (filter.filter (·.covers target)).foldl
    (fun best directive =>
      match best with
      | none => some directive
      | some chosen =>
          if chosen.specificity ≤ directive.specificity then some directive else some chosen)
    none

def shows (filter : Filter) (record : Record) : Bool :=
  match filter.deciding? record.target with
  | some directive => record.level.rank ≤ directive.level.rank
  | none => false

end Filter

/-- The line of a record.  Further lines of the message are indented.  Unless styles are shown,
nothing in the line steers a display. -/
def Record.line (styled : Bool) (record : Record) : Text :=
  let message :=
    record.message.flatMap fun character =>
      if character = '\n' then "\n    ".toList else [character]
  let line :=
    Style.paint styled .gray ['['] ++
      Style.paint styled record.level.style record.level.label ++ ' ' :: record.target ++
      Style.paint styled .gray [']'] ++ ' ' :: message ++ ['\n']
  if styled then line else line.withoutControls

/-- The lines of the records that are shown. -/
def lines (styled : Bool) (filter : Filter) (records : List Record) : Text :=
  (records.filter filter.shows).flatMap (Record.line styled)

end TitleStamp.Log
