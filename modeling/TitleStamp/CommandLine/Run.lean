import TitleStamp.CommandLine.Command
import TitleStamp.CommandLine.Records
import TitleStamp.CommandLine.Report
import TitleStamp.PullRequest.Response

/-!
# Running a command line

A run is a function of the arguments and the surroundings.  A command that fails prints nothing
to the standard output.  The records of its steps, up to where it failed, are filtered and go to the
standard error.
-/

namespace TitleStamp

structure Surroundings where
  environment : Environment
  /-- The standard input, or why it cannot be read. -/
  standardInput : Except Text Text
  /-- The content of a file, or why it cannot be read. -/
  file : Text → Except Text Text

structure Outcome where
  exitCode : Nat
  standardOutput : Text
  standardError : Text
  deriving DecidableEq, Repr

structure Execution where
  records : List Log.Record
  result : Except Failure Text

def programTarget : Text :=
  "prtime".toList

/-- The bindings given as names and values with an equals sign between them. -/
def readBindings : List Text → Except Failure (List (Text × Text))
  | [] => .ok []
  | argument :: rest =>
      match Text.splitOnce? '=' argument with
      | none => .error (.invalidVariable argument)
      | some binding => (readBindings rest).map (binding :: ·)

/-- Where a command reads a document from. -/
inductive Source where
  | standardInput
  | file (path : Text)
  deriving DecidableEq, Repr

namespace Source

/-- The source that a name stands for: a hyphen means the standard input. -/
def ofName (name : Text) : Source :=
  if name = ['-'] then standardInput else file name

def read (source : Source) (surroundings : Surroundings) : Except Failure Text :=
  match source with
  | standardInput =>
      match surroundings.standardInput with
      | .ok content => .ok content
      | .error reason => .error (.unreadable "<stdin>".toList reason)
  | file path =>
      match surroundings.file path with
      | .ok content => .ok content
      | .error reason => .error (.unreadable path reason)

end Source

namespace Command

def runRender (color : Bool) (pattern : Text) (bindings : List Text) (calls : Calls)
    (explain : Bool) : Execution :=
  match readBindings bindings with
  | .error failure => ⟨[], .error failure⟩
  | .ok bindings =>
      let values := Variables.ofBindings bindings
      if explain then
        ⟨(if calls = .inert then
            [⟨.warn, programTarget, "--explain always renders with functions enabled".toList⟩]
          else
            []) ++ renderRecords .applied values pattern,
          .ok (Report.report color values pattern)⟩
      else
        ⟨renderRecords calls values pattern,
          .ok (TitleStamp.render calls values pattern ++ ['\n'])⟩

def runClean (title durationPattern titlePattern : Text) : Execution :=
  ⟨cleanTitleRecords title durationPattern titlePattern,
    .ok (cleanTitle title durationPattern titlePattern ++ ['\n'])⟩

def runDuration (text : Text) (pattern : Option Text) : Execution :=
  match Duration.parse? text with
  | none => ⟨Duration.parseRecords text, .error (.noDuration text)⟩
  | some total =>
      let shown :=
        match pattern with
        | some pattern => '\t' :: total.format pattern
        | none => []
      ⟨Duration.parseRecords text, .ok (Text.ofInt total.millis ++ shown ++ ['\n'])⟩

/-- The lookup of an event in a file.  The name of the event is checked before its payload is
read. -/
def lookupOf (eventName eventPath : Text) (surroundings : Surroundings) :
    Except Failure Request := do
  let _ ← Event.kindOfName eventName
  let payload ← (Source.file eventPath).read surroundings
  let event ← Event.ofText eventName payload
  Request.lookup event

/-- Runs the command that prints the lookup of an event. -/
def runQuery (eventName eventPath : Text) (surroundings : Surroundings) : Execution :=
  match lookupOf eventName eventPath surroundings with
  | .error failure => ⟨[], .error failure⟩
  | .ok request => ⟨request.lookupRecords, .ok (request.body.print ++ ['\n'])⟩

/-- What is reported of a title that a retitle leaves as it is. -/
def unchangedRecords (retitle : Retitle) : List Log.Record :=
  if retitle.isChanged then
    []
  else
    [⟨.info, programTarget,
      "title of ".toList ++ retitle.pullRequestId ++ " is already up to date".toList⟩]

/-- Runs the command that retitles a pull request.  The name of the event, if there is one, is
checked before the answer is read. -/
def runRetitle (response : Text) (eventName : Option Text) (settings : Settings)
    (surroundings : Surroundings) : Execution :=
  let found : Except Failure PullRequest := do
    match eventName with
    | some name => discard (Event.kindOfName name)
    | none => pure ()
    let answer ← (Source.ofName response).read surroundings
    Response.parse answer
  match found with
  | .error failure => ⟨[], .error failure⟩
  | .ok pullRequest =>
      let retitle := pullRequest.retitle settings
      ⟨pullRequest.retitleRecords settings ++ unchangedRecords retitle,
        .ok (retitle.request.body.print ++ ['\n'])⟩

def run (color : Bool) (surroundings : Surroundings) : Command → Execution
  | render pattern bindings calls explain => runRender color pattern bindings calls explain
  | clean title durationPattern titlePattern => runClean title durationPattern titlePattern
  | duration text pattern => runDuration text pattern
  | query eventName eventPath => runQuery eventName eventPath surroundings
  | retitle response eventName settings => runRetitle response eventName settings surroundings

/-- The source that a command reads, if it reads one. -/
def source? : Command → Option Source
  | query _ eventPath => some (.file eventPath)
  | retitle response _ _ => some (.ofName response)
  | _ => none

end Command

/-- The outcome of an execution under a filter of records. -/
def Execution.outcome (execution : Execution) (styled : Bool) (filter : Log.Filter) : Outcome :=
  match execution.result with
  | .ok output => ⟨0, output, Log.lines styled filter execution.records⟩
  | .error (.unsupportedEvent name) =>
      ⟨Failure.exitCode (.unsupportedEvent name), [],
        Log.lines styled filter (execution.records ++
          [⟨.info, programTarget,
            "event '".toList ++ name ++ "' is not handled, nothing to do".toList⟩])⟩
  | .error failure =>
      ⟨failure.exitCode, [],
        Log.lines styled filter execution.records ++ "error: ".toList ++ failure.message ++
          ['\n']⟩

/-- Whether an environment asks for styles where no display is at hand. -/
def stylesForced (environment : Environment) : Bool :=
  (environment "NO_COLOR").getD [] = [] && (environment "CLICOLOR_FORCE").getD [] ≠ []

namespace Invocation

/-- The directives in force, as they are written. -/
def directives (invocation : Invocation) : Text :=
  invocation.logLevel.getD "info".toList

/-- The execution of the command.  The directives are reported first. -/
def execution (invocation : Invocation) (surroundings : Surroundings) : Execution :=
  let executed := invocation.command.run invocation.color surroundings
  ⟨⟨.debug, "prtime::logging".toList, "log level ".toList ++ invocation.directives⟩ ::
    executed.records, executed.result⟩

def run (invocation : Invocation) (surroundings : Surroundings) : Outcome :=
  (invocation.execution surroundings).outcome (stylesForced surroundings.environment)
    (Log.Filter.ofText invocation.directives)

end Invocation

/-- The name under which a command reports its version. -/
def versionName (word : Option String) : Text :=
  match word with
  | some word => "prtime-".toList ++ word.toList
  | none => "prtime".toList

/-- A summary of the commands.  It stands in for the help of an option parser, whose wording is not
modelled. -/
def usageText : Text :=
  "usage: prtime [--log-level LEVEL] [--color | --no-color] COMMAND\n\n".toList ++
    "commands:\n".toList ++
    "  render PATTERN [-v KEY=VALUE]... [--no-functions] [--explain]\n".toList ++
    "  clean TEXT [--duration-pattern PATTERN] [--title-pattern PATTERN]\n".toList ++
    "  duration TEXT [--pattern PATTERN]\n".toList ++
    "  query --event-name NAME --event-path PATH\n".toList ++
    "  retitle [--response PATH] [--event-name NAME] [--scan-comments BOOL]\n".toList ++
    "          [--scan-pull-request-body BOOL] [--duration-pattern PATTERN]\n".toList ++
    "          [--title-pattern PATTERN]\n".toList

/-- The outcome of a command line that gives no command to run.  The exit code counts, and which of
the two outputs is written; the wording of help and of complaints about usage belongs to the option
parser and is not modelled, so the texts here only stand in for it. -/
def haltOutcome : Halt → Option String → Outcome
  | .usage, _ => ⟨2, [], "error: invalid arguments\n\n".toList ++ usageText⟩
  | .help, _ => ⟨0, usageText, []⟩
  | .version, word => ⟨0, versionName word ++ " 0.1.0\n".toList, []⟩

/-- Runs a command line without the name of the program. -/
def runCommandLine (given : List Text) (surroundings : Surroundings) : Outcome :=
  match Invocation.ofArguments given surroundings.environment with
  | .ok invocation => invocation.run surroundings
  | .error (halt, word) => haltOutcome halt word

end TitleStamp
