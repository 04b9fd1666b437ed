import TitleStamp.Text.Basic

/-!
# Options of a command line

Arguments are read from left to right.  An option has a long name, some have a letter, and an
option with a value takes it after an equals sign or from the next argument, which may not look
like an option.  After two hyphens every argument is a plain one.

Whether an option may be given again, or with an empty value, is asked when it is complete: at
once if the value came with it, and with the next argument if the value was an argument.
-/

namespace TitleStamp

structure OptionRule where
  /-- The name after two hyphens. -/
  name : String
  /-- The letter after one hyphen. -/
  letter : Option Char := none
  takesValue : Bool := true
  repeatable : Bool := false
  mayBeEmpty : Bool := true

/-- Why a command line gives no command to run. -/
inductive Halt where
  | usage
  | help
  | version
  deriving DecidableEq, Repr

/-- The arguments of one command: the options with their values, of which a switch has an empty
one, and the plain arguments, each list in order. -/
structure Arguments where
  options : List (String × Text)
  plain : List Text
  deriving DecidableEq, Repr

namespace Arguments

def none : Arguments :=
  ⟨[], []⟩

def values (arguments : Arguments) (name : String) : List Text :=
  arguments.options.filterMap fun (given, value) => if given = name then some value else .none

def value? (arguments : Arguments) (name : String) : Option Text :=
  (arguments.values name).head?

def has (arguments : Arguments) (name : String) : Bool :=
  (arguments.value? name).isSome

def addOption (arguments : Arguments) (rule : OptionRule) (value : Text) :
    Except Halt Arguments :=
  if arguments.has rule.name ∧ ¬rule.repeatable then
    .error .usage
  else if value = [] ∧ rule.takesValue ∧ ¬rule.mayBeEmpty then
    .error .usage
  else
    .ok ⟨arguments.options ++ [(rule.name, value)], arguments.plain⟩

/-- Adds a plain argument, unless there are as many as the command takes. -/
def addPlain (limit : Nat) (arguments : Arguments) (argument : Text) : Except Halt Arguments :=
  if arguments.plain.length < limit then
    .ok ⟨arguments.options, arguments.plain ++ [argument]⟩
  else
    .error .usage

end Arguments

/-- What a command takes: its options, the number of plain arguments, and the words that start a
command of its own. -/
structure Grammar where
  rules : List OptionRule
  plainLimit : Nat
  commands : List String

/-- How far the reading of arguments has come. -/
inductive Progress where
  /-- All options read so far are taken. -/
  | settled (arguments : Arguments)
  /-- An option waits for its value. -/
  | awaiting (arguments : Arguments) (rule : OptionRule)
  /-- An option got its value from an argument of its own and is taken with what follows. -/
  | untaken (arguments : Arguments) (rule : OptionRule) (value : Text)

namespace Progress

/-- The arguments, once nothing more belongs to the last option. -/
def settle : Progress → Except Halt Arguments
  | settled arguments => .ok arguments
  | awaiting _ _ => .error .usage
  | untaken arguments rule value => arguments.addOption rule value

end Progress

/-- What was read of the arguments of a command and, where another command follows, its word and
its arguments.  The word of a command settles nothing: whether the option before it is welcome
is asked after the command that follows. -/
structure Division where
  progress : Progress
  command : Option (String × List Text)

namespace Grammar

/-- Takes an option given by its long name, with a value after an equals sign if there is one. -/
def takeLong (grammar : Grammar) (arguments : Arguments) (name : Text) (attached : Option Text) :
    Except Halt Progress :=
  match grammar.rules.find? (·.name.toList = name) with
  | some rule =>
      match rule.takesValue, attached with
      | true, some value => (arguments.addOption rule value).map .settled
      | true, none => .ok (.awaiting arguments rule)
      | false, some _ => .error .usage
      | false, none => (arguments.addOption rule []).map .settled
  | none =>
      if attached = none ∧ name = "help".toList then .error .help
      else if attached = none ∧ name = "version".toList then .error .version
      else .error .usage

/-- Takes options given by their letters.  What follows the letter of an option with a value is
the value. -/
def takeLetters (grammar : Grammar) (arguments : Arguments) : Text → Except Halt Progress
  | [] => .ok (.settled arguments)
  | letter :: rest =>
      match grammar.rules.find? (·.letter = some letter) with
      | some rule =>
          if rule.takesValue then
            match rest with
            | [] => .ok (.awaiting arguments rule)
            | '=' :: value => (arguments.addOption rule value).map .settled
            | value => (arguments.addOption rule value).map .settled
          else
            match arguments.addOption rule [] with
            | .ok arguments => takeLetters grammar arguments rest
            | .error halt => .error halt
      | none =>
          if letter = 'h' then .error .help
          else if letter = 'V' then .error .version
          else .error .usage

def takePlain (grammar : Grammar) : Arguments → List Text → Except Halt Arguments
  | arguments, [] => .ok arguments
  | arguments, argument :: rest => do
      let arguments ← arguments.addPlain grammar.plainLimit argument
      takePlain grammar arguments rest

def divideFrom (grammar : Grammar) : Progress → List Text → Except Halt Division
  | progress, [] => .ok ⟨progress, none⟩
  | .awaiting arguments rule, argument :: rest =>
      match argument with
      | '-' :: _ :: _ => .error .usage
      | value => divideFrom grammar (.untaken arguments rule value) rest
  | progress, argument :: rest =>
      match grammar.commands.find? (·.toList = argument) with
      | some command => .ok ⟨progress, some (command, rest)⟩
      | none => do
          let arguments ← progress.settle
          match argument with
          | ['-', '-'] =>
              let arguments ← takePlain grammar arguments rest
              .ok ⟨.settled arguments, none⟩
          | '-' :: '-' :: long =>
              let progress ←
                match Text.splitOnce? '=' long with
                | some (name, value) => takeLong grammar arguments name (some value)
                | none => takeLong grammar arguments long none
              divideFrom grammar progress rest
          | '-' :: letter :: letters =>
              let progress ← takeLetters grammar arguments (letter :: letters)
              divideFrom grammar progress rest
          | plain =>
              let arguments ← arguments.addPlain grammar.plainLimit plain
              divideFrom grammar (.settled arguments) rest

def divide (grammar : Grammar) (given : List Text) : Except Halt Division :=
  divideFrom grammar (.settled .none) given

end Grammar

end TitleStamp
