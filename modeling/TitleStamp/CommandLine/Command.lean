import TitleStamp.CommandLine.Options
import TitleStamp.Settings
import TitleStamp.Template.Lexeme

/-!
# Commands

What the program can be asked to do.  A value that is not given as an option is taken from the
environment, and if it is not there either, from the defaults.
-/

namespace TitleStamp

inductive Command where
  /-- Render a pattern; the variables are given as names and values with an equals sign between
  them. -/
  | render (pattern : Text) (bindings : List Text) (calls : Calls) (explain : Bool)
  /-- Clean a title. -/
  | clean (title durationPattern titlePattern : Text)
  /-- Sum the durations that a text mentions, and format the sum if a pattern is given. -/
  | duration (text : Text) (pattern : Option Text)
  /-- Print the request that looks up the pull request of an event. -/
  | query (eventName eventPath : Text)
  /-- Print the request that retitles the pull request in an answer. -/
  | retitle (response : Text) (eventName : Option Text) (settings : Settings)
  deriving DecidableEq, Repr

/-- A command and how its run is shown. -/
structure Invocation where
  logLevel : Option Text
  color : Bool
  command : Command
  deriving DecidableEq, Repr

/-- The values of environment variables, by name. -/
abbrev Environment := String → Option Text

namespace Command

def sharedRules : List OptionRule :=
  [{ name := "log-level" },
   { name := "color", takesValue := false },
   { name := "no-color", takesValue := false }]

def patternRules : List OptionRule :=
  [{ name := "duration-pattern" }, { name := "title-pattern" }]

def words : List String :=
  ["render", "clean", "duration", "query", "retitle"]

/-- The word that asks for help in place of a command. -/
def helpWord : String :=
  "help"

/-- What may stand before the word of a command. -/
def outerGrammar : Grammar :=
  ⟨sharedRules, 0, words ++ [helpWord]⟩

/-- What comes of asking for help on the given topics: at most one, and that one a word. -/
def helpOn : List Text → Halt
  | [] => .help
  | [topic] => if (words ++ [helpWord]).any (·.toList = topic) then .help else .usage
  | _ => .usage

/-- What may stand after the word of a command. -/
def innerGrammar (word : String) : Grammar :=
  match word with
  | "render" =>
      ⟨sharedRules ++
        [{ name := "var", letter := some 'v', repeatable := true },
         { name := "no-functions", takesValue := false },
         { name := "explain", takesValue := false }], 1, []⟩
  | "clean" => ⟨sharedRules ++ patternRules, 1, []⟩
  | "duration" => ⟨sharedRules ++ [{ name := "pattern" }], 1, []⟩
  | "query" =>
      ⟨sharedRules ++ [{ name := "event-name" }, { name := "event-path", mayBeEmpty := false }],
        0, []⟩
  | _ =>
      ⟨sharedRules ++ patternRules ++
        [{ name := "response" }, { name := "event-name" }, { name := "scan-comments" },
         { name := "scan-pull-request-body" }], 0, []⟩

/-- The value of an option, or else of an environment variable. -/
def given? (arguments : Arguments) (environment : Environment) (option name : String) :
    Option Text :=
  arguments.value? option <|> environment name

def durationPattern (arguments : Arguments) (environment : Environment) : Text :=
  (given? arguments environment "duration-pattern" "INPUT_DURATIONPATTERN").getD
    Settings.defaultDurationPattern

def titlePattern (arguments : Arguments) (environment : Environment) : Text :=
  (given? arguments environment "title-pattern" "INPUT_TITLEPATTERN").getD
    Settings.defaultTitlePattern

def settings (arguments : Arguments) (environment : Environment) : Settings where
  durationPattern := durationPattern arguments environment
  titlePattern := titlePattern arguments environment
  scanComments :=
    ((given? arguments environment "scan-comments" "INPUT_SCANCOMMENTS").map
      Settings.isOn).getD false
  scanBody :=
    ((given? arguments environment "scan-pull-request-body" "INPUT_SCANPULLREQUESTBODY").map
      Settings.isOn).getD false

/-- The command with a given word and arguments.  The path of an event may not be empty. -/
def ofArguments (word : String) (arguments : Arguments) (environment : Environment) :
    Except Halt Command :=
  match word, arguments.plain with
  | "render", [pattern] =>
      .ok (.render pattern (arguments.values "var")
        (if arguments.has "no-functions" then .inert else .applied) (arguments.has "explain"))
  | "clean", [title] =>
      .ok (.clean title (durationPattern arguments environment)
        (titlePattern arguments environment))
  | "duration", [text] => .ok (.duration text (arguments.value? "pattern"))
  | "query", [] =>
      match given? arguments environment "event-name" "GITHUB_EVENT_NAME",
          given? arguments environment "event-path" "GITHUB_EVENT_PATH" with
      | some name, some path => if path = [] then .error .usage else .ok (.query name path)
      | _, _ => .error .usage
  | "retitle", [] =>
      .ok (.retitle ((arguments.value? "response").getD ['-'])
        (given? arguments environment "event-name" "GITHUB_EVENT_NAME")
        (settings arguments environment))
  | _, _ => .error .usage

end Command

/-- Whether both of two options that exclude each other are given. -/
def Arguments.conflicting (arguments : Arguments) : Bool :=
  arguments.has "color" && arguments.has "no-color"

namespace Invocation

/-- Reads a command line without the name of the program.  Where it gives no command to run, the
word of the command that it stopped at is given too. -/
def ofArguments (given : List Text) (environment : Environment) :
    Except (Halt × Option String) Invocation :=
  match Command.outerGrammar.divide given with
  | .error halt => .error (halt, none)
  | .ok ⟨_, none⟩ => .error (.usage, none)
  | .ok ⟨outer, some (word, rest)⟩ =>
      if word = Command.helpWord then
        .error (Command.helpOn rest, none)
      else
        match (Command.innerGrammar word).divide rest >>= (·.progress.settle) with
        | .error halt => .error (halt, some word)
        | .ok inner =>
            match outer.settle with
            | .error halt => .error (halt, none)
            | .ok outer =>
                if outer.conflicting ∨ inner.conflicting then
                  .error (.usage, some word)
                else
                  match Command.ofArguments word inner environment with
                  | .error halt => .error (halt, some word)
                  | .ok command =>
                      .ok ⟨inner.value? "log-level" <|> outer.value? "log-level" <|>
                          environment "PRTIME_LOG",
                        inner.has "color" || outer.has "color", command⟩

end Invocation

end TitleStamp
