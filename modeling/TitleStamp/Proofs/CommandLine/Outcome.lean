import TitleStamp.CommandLine.Run

/-!
# What a run leaves behind

A command that fails prints nothing, and its exit code tells documents that cannot be used from
input that is missing.  A command that succeeds always prints something.  Nothing printed and no
failure reported therefore means one thing only: the command was given an event of an unknown
kind, which is found out before anything is read.
-/

namespace TitleStamp

namespace Failure

/-- A document could not be read or is not JSON of the expected shape. -/
inductive IsUnusableDocument : Failure → Prop where
  | unreadable (path reason : Text) : IsUnusableDocument (.unreadable path reason)
  | invalidJson (fault : Json.Fault) : IsUnusableDocument (.invalidJson fault)

/-- Something that the command needs was not given. -/
inductive IsMissingInput : Failure → Prop where
  | missingPayloadPart (part : PayloadPart) : IsMissingInput (.missingPayloadPart part)
  | missingPullRequest : IsMissingInput .missingPullRequest
  | invalidVariable (argument : Text) : IsMissingInput (.invalidVariable argument)
  | noDuration (text : Text) : IsMissingInput (.noDuration text)

variable {failure : Failure}

theorem exitCode_eq_one_iff : failure.exitCode = 1 ↔ failure.IsUnusableDocument := by
  constructor
  · intro code
    cases failure with
    | unreadable path reason => exact .unreadable path reason
    | invalidJson fault => exact .invalidJson fault
    | _ => exact absurd code (by simp [exitCode])
  · rintro (_ | _) <;> rfl

theorem exitCode_eq_two_iff : failure.exitCode = 2 ↔ failure.IsMissingInput := by
  constructor
  · intro code
    cases failure with
    | missingPayloadPart part => exact .missingPayloadPart part
    | missingPullRequest => exact .missingPullRequest
    | invalidVariable argument => exact .invalidVariable argument
    | noDuration text => exact .noDuration text
    | _ => exact absurd code (by simp [exitCode])
  · rintro (_ | _) <;> rfl

theorem exitCode_eq_zero_iff :
    failure.exitCode = 0 ↔ ∃ name, failure = .unsupportedEvent name := by
  cases failure <;> simp [exitCode]

theorem IsUnusableDocument.ne_unsupportedEvent
    (unusable : failure.IsUnusableDocument) (name : Text) :
    failure ≠ .unsupportedEvent name := by
  rintro rfl
  cases unusable

theorem IsMissingInput.ne_unsupportedEvent
    (missing : failure.IsMissingInput) (name : Text) :
    failure ≠ .unsupportedEvent name := by
  rintro rfl
  cases missing

end Failure

/-! ## Where failures come from -/

variable {failure : Failure}

theorem isMissingInput_of_readBindings
    {bindings : List Text}
    (failed : readBindings bindings = .error failure) :
    failure.IsMissingInput := by
  induction bindings with
  | nil => cases failed
  | cons argument rest inductionHypothesis =>
      unfold readBindings at failed
      split at failed
      · cases failed
        exact .invalidVariable argument
      · cases readRest : readBindings rest with
        | ok bindings =>
            rw [readRest] at failed
            cases failed
        | error restFailure =>
            rw [readRest] at failed
            cases failed
            exact inductionHypothesis readRest

theorem Source.isUnusableDocument_of_read
    {source : Source} {surroundings : Surroundings}
    (failed : source.read surroundings = .error failure) :
    failure.IsUnusableDocument := by
  unfold Source.read at failed
  split at failed <;> split at failed <;> cases failed <;> exact .unreadable _ _

theorem Request.isMissingInput_of_lookup
    {event : Event}
    (failed : Request.lookup event = .error failure) :
    failure.IsMissingInput := by
  unfold Request.lookup at failed
  split at failed
  · cases failed
    exact .missingPayloadPart .repository
  · split at failed <;> cases failed
    exact .missingPayloadPart .numberOrBranch

theorem Response.ne_unsupportedEvent_of_parse
    {text : Text}
    (failed : Response.parse text = .error failure) (name : Text) :
    failure ≠ .unsupportedEvent name := by
  rintro rfl
  unfold Response.parse at failed
  grind

namespace Event

variable {name : Text}

theorem kindOfName_eq_ok_iff {kind : EventKind} :
    kindOfName name = .ok kind ↔ kind.name = name := by
  have found : EventKind.named? name = some kind ↔ kind.name = name := by
    constructor
    · intro isNamed
      simpa using List.find?_some isNamed
    · rintro rfl
      cases kind <;> decide
  rw [← found, kindOfName]
  cases EventKind.named? name <;> simp

theorem kindOfName_eq_error_iff :
    kindOfName name = .error failure ↔
      (∀ kind : EventKind, kind.name ≠ name) ∧ failure = .unsupportedEvent name := by
  constructor
  · intro failed
    refine ⟨fun kind isName => ?_, ?_⟩
    · rw [kindOfName_eq_ok_iff.mpr isName] at failed
      cases failed
    · unfold kindOfName at failed
      split at failed <;> cases failed
      rfl
  · rintro ⟨unknown, rfl⟩
    cases read : kindOfName name with
    | ok kind => exact absurd (kindOfName_eq_ok_iff.mp read) (unknown kind)
    | error failure =>
        unfold kindOfName at read
        split at read <;> cases read
        rfl

theorem isUnusableDocument_of_ofText
    {kind : EventKind} {payload : Text}
    (known : kindOfName name = .ok kind)
    (failed : ofText name payload = .error failure) :
    failure.IsUnusableDocument := by
  rw [ofText, known] at failed
  dsimp only [bind, Except.bind] at failed
  split at failed <;> cases failed
  exact .invalidJson _

end Event

namespace Command

/-- The name of an event that a command is given. -/
def eventName? : Command → Option Text
  | query eventName _ => some eventName
  | retitle _ eventName _ => eventName
  | _ => none

/-- The command is given the name of an event that is of no kind. -/
def NamesUnsupportedEvent (command : Command) : Prop :=
  ∃ name, command.eventName? = some name ∧ ∀ kind : EventKind, kind.name ≠ name

/-- A query or a retitle for an unknown kind of event fails before it reads anything. -/
theorem run_of_unsupported
    {command : Command} {name : Text}
    (isGiven : command.eventName? = some name)
    (unknown : ∀ kind : EventKind, kind.name ≠ name)
    (color : Bool) (surroundings : Surroundings) :
    command.run color surroundings = ⟨[], .error (.unsupportedEvent name)⟩ := by
  have refused : Event.kindOfName name = .error (.unsupportedEvent name) :=
    Event.kindOfName_eq_error_iff.mpr ⟨unknown, rfl⟩
  cases command with
  | query eventName eventPath =>
      cases isGiven
      simp only [run, runQuery, lookupOf, refused]
      rfl
  | retitle response eventName settings =>
      cases isGiven
      simp only [run, runRetitle, refused]
      rfl
  | _ => cases isGiven

theorem ne_unsupportedEvent_of_lookupOf
    {eventName eventPath : Text} {surroundings : Surroundings} {kind : EventKind}
    (known : Event.kindOfName eventName = .ok kind)
    (failed : lookupOf eventName eventPath surroundings = .error failure)
    (name : Text) :
    failure ≠ .unsupportedEvent name := by
  rw [lookupOf, known] at failed
  dsimp only [bind, Except.bind] at failed
  split at failed
  · rename_i unread
    cases failed
    exact (Source.isUnusableDocument_of_read unread).ne_unsupportedEvent name
  split at failed
  · rename_i noEvent
    cases failed
    exact (Event.isUnusableDocument_of_ofText known noEvent).ne_unsupportedEvent name
  · exact (Request.isMissingInput_of_lookup failed).ne_unsupportedEvent name

/-- The name of a known kind of event makes no difference to a retitle. -/
theorem runRetitle_of_known
    {eventName : Option Text}
    (known : ∀ given ∈ eventName, ∃ kind, Event.kindOfName given = .ok kind)
    (response : Text) (settings : Settings) (surroundings : Surroundings) :
    runRetitle response eventName settings surroundings =
      runRetitle response none settings surroundings := by
  cases eventName with
  | none => rfl
  | some given =>
      obtain ⟨kind, isKind⟩ := known given rfl
      simp only [runRetitle, isKind]
      rfl

theorem ne_unsupportedEvent_of_runRetitle
    {response : Text} {eventName : Option Text} {settings : Settings}
    {surroundings : Surroundings}
    (known : ∀ given ∈ eventName, ∃ kind, Event.kindOfName given = .ok kind)
    (failed : (runRetitle response eventName settings surroundings).result = .error failure)
    (name : Text) :
    failure ≠ .unsupportedEvent name := by
  rw [runRetitle_of_known known] at failed
  dsimp only [runRetitle, bind, Except.bind] at failed
  cases content : (Source.ofName response).read surroundings with
  | error unread =>
      rw [content] at failed
      cases failed
      exact (Source.isUnusableDocument_of_read content).ne_unsupportedEvent name
  | ok answer =>
      rw [content] at failed
      dsimp only at failed
      cases parsed : Response.parse answer with
      | error unparsed =>
          rw [parsed] at failed
          cases failed
          exact Response.ne_unsupportedEvent_of_parse parsed name
      | ok pullRequest =>
          rw [parsed] at failed
          cases failed

/-- No other command fails for want of a known kind of event. -/
theorem namesUnsupportedEvent_of_run
    {command : Command} {color : Bool} {surroundings : Surroundings} {name : Text}
    (failed : (command.run color surroundings).result = .error (.unsupportedEvent name)) :
    command.NamesUnsupportedEvent := by
  cases command with
  | render pattern bindings calls explain =>
      dsimp only [run, runRender] at failed
      split at failed
      · rename_i unread
        cases failed
        exact absurd rfl ((isMissingInput_of_readBindings unread).ne_unsupportedEvent name)
      · split at failed <;> cases failed
  | clean title durationPattern titlePattern => cases failed
  | duration text pattern =>
      dsimp only [run, runDuration] at failed
      split at failed <;> cases failed
  | query eventName eventPath =>
      dsimp only [run, runQuery] at failed
      split at failed
      · rename_i notFound
        cases failed
        cases kindRead : Event.kindOfName eventName with
        | ok kind => exact absurd rfl (ne_unsupportedEvent_of_lookupOf kindRead notFound name)
        | error failure =>
            exact ⟨eventName, rfl, (Event.kindOfName_eq_error_iff.mp kindRead).1⟩
      · cases failed
  | retitle response eventName settings =>
      by_cases known : ∀ given ∈ eventName, ∃ kind, Event.kindOfName given = .ok kind
      · exact absurd rfl (ne_unsupportedEvent_of_runRetitle known failed name)
      · simp only [Classical.not_forall, not_exists] at known
        obtain ⟨given, isGiven, unknown⟩ := known
        exact ⟨given, isGiven, fun kind isName =>
          unknown kind (Event.kindOfName_eq_ok_iff.mpr isName)⟩

/-- What a successful command prints is not empty. -/
theorem output_ne_nil_of_run
    {command : Command} {color : Bool} {surroundings : Surroundings} {output : Text}
    (printed : (command.run color surroundings).result = .ok output) :
    output ≠ [] := by
  have ended (text : Text) : text ++ ['\n'] ≠ [] :=
    List.append_ne_nil_of_right_ne_nil text (List.cons_ne_nil _ _)
  cases command with
  | render pattern bindings calls explain =>
      dsimp only [run, runRender] at printed
      split at printed
      · cases printed
      · split at printed
        · rw [← Except.ok.inj printed]
          exact List.cons_ne_nil _ _
        · rw [← Except.ok.inj printed]
          exact ended _
  | clean title durationPattern titlePattern =>
      rw [← Except.ok.inj printed]
      exact ended _
  | duration text pattern =>
      dsimp only [run, runDuration] at printed
      split at printed
      · cases printed
      · rw [← Except.ok.inj printed]
        exact ended _
  | query eventName eventPath =>
      dsimp only [run, runQuery] at printed
      split at printed
      · cases printed
      · rw [← Except.ok.inj printed]
        exact ended _
  | retitle response eventName settings =>
      dsimp only [run, runRetitle] at printed
      split at printed
      · cases printed
      · rw [← Except.ok.inj printed]
        exact ended _

end Command

/-! ## Outcomes -/

variable {given : List Text} {surroundings : Surroundings} {invocation : Invocation}

theorem Execution.outcome_of_ok
    {execution : Execution} {output : Text}
    (printed : execution.result = .ok output)
    (styled : Bool) (filter : Log.Filter) :
    (execution.outcome styled filter).standardOutput = output ∧
      (execution.outcome styled filter).exitCode = 0 := by
  rw [outcome, printed]
  exact ⟨rfl, rfl⟩

theorem Execution.outcome_of_error
    {execution : Execution}
    (failed : execution.result = .error failure)
    (styled : Bool) (filter : Log.Filter) :
    (execution.outcome styled filter).standardOutput = [] ∧
      (execution.outcome styled filter).exitCode = failure.exitCode := by
  rw [outcome, failed]
  cases failure <;> exact ⟨rfl, rfl⟩

private theorem runCommandLine_of_accepted
    (accepted : Invocation.ofArguments given surroundings.environment = .ok invocation) :
    runCommandLine given surroundings = invocation.run surroundings := by
  rw [runCommandLine, accepted]

theorem runCommandLine_of_error
    (accepted : Invocation.ofArguments given surroundings.environment = .ok invocation)
    (failed : (invocation.command.run invocation.color surroundings).result = .error failure) :
    (runCommandLine given surroundings).standardOutput = [] ∧
      (runCommandLine given surroundings).exitCode = failure.exitCode := by
  have failedLater : (invocation.execution surroundings).result = .error failure := failed
  rw [runCommandLine_of_accepted accepted]
  exact Execution.outcome_of_error failedLater _ _

theorem runCommandLine_of_ok
    {output : Text}
    (accepted : Invocation.ofArguments given surroundings.environment = .ok invocation)
    (printed : (invocation.command.run invocation.color surroundings).result = .ok output) :
    (runCommandLine given surroundings).standardOutput = output ∧
      output ≠ [] ∧ (runCommandLine given surroundings).exitCode = 0 := by
  have printedLater : (invocation.execution surroundings).result = .ok output := printed
  rw [runCommandLine_of_accepted accepted]
  obtain ⟨shown, code⟩ :=
    Execution.outcome_of_ok printedLater (stylesForced surroundings.environment)
      (Log.Filter.ofText invocation.directives)
  exact ⟨shown, Command.output_ne_nil_of_run printed, code⟩

/-- An exit code other than zero is the code of a failure. -/
theorem exitCode_runCommandLine_eq_iff
    {code : Nat} (notSuccess : code ≠ 0)
    (accepted : Invocation.ofArguments given surroundings.environment = .ok invocation) :
    (runCommandLine given surroundings).exitCode = code ↔
      ∃ failure, (invocation.command.run invocation.color surroundings).result = .error failure ∧
        failure.exitCode = code := by
  cases ended : (invocation.command.run invocation.color surroundings).result with
  | ok output =>
      obtain ⟨_, _, success⟩ := runCommandLine_of_ok accepted ended
      simp [success, Ne.symm notSuccess]
  | error failure =>
      obtain ⟨_, ofFailure⟩ := runCommandLine_of_error accepted ended
      simp [ofFailure]

/-- Success without any output means that there is nothing to do for the kind of event. -/
theorem runCommandLine_silent_iff
    (accepted : Invocation.ofArguments given surroundings.environment = .ok invocation) :
    (runCommandLine given surroundings).exitCode = 0 ∧
        (runCommandLine given surroundings).standardOutput = [] ↔
      invocation.command.NamesUnsupportedEvent := by
  constructor
  · rintro ⟨success, silent⟩
    cases ended : (invocation.command.run invocation.color surroundings).result with
    | ok output =>
        obtain ⟨shown, nonempty, _⟩ := runCommandLine_of_ok accepted ended
        exact absurd (shown.symm.trans silent) nonempty
    | error failure =>
        obtain ⟨_, ofFailure⟩ := runCommandLine_of_error accepted ended
        obtain ⟨name, rfl⟩ := Failure.exitCode_eq_zero_iff.mp (ofFailure.symm.trans success)
        exact Command.namesUnsupportedEvent_of_run ended
  · rintro ⟨name, isGiven, unknown⟩
    have failed := congrArg Execution.result
      (Command.run_of_unsupported isGiven unknown invocation.color surroundings)
    exact (runCommandLine_of_error accepted failed).symm

theorem runCommandLine_eq_of_unsupported
    {other : Surroundings}
    (accepted : Invocation.ofArguments given surroundings.environment = .ok invocation)
    (unsupported : invocation.command.NamesUnsupportedEvent)
    (sameEnvironment : other.environment = surroundings.environment) :
    runCommandLine given other = runCommandLine given surroundings := by
  obtain ⟨name, isGiven, unknown⟩ := unsupported
  rw [runCommandLine_of_accepted accepted, runCommandLine_of_accepted (sameEnvironment ▸ accepted),
    Invocation.run, Invocation.run, Invocation.execution, Invocation.execution,
    Command.run_of_unsupported isGiven unknown, Command.run_of_unsupported isGiven unknown,
    sameEnvironment]

/-- The outcome of a command line that gives a command to run.  Every failure shows in the exit
code alone and every success in the output; only a command for an unknown kind of event does
neither, and then nothing that could be read makes a difference. -/
theorem outcome_of_accepted
    (accepted : Invocation.ofArguments given surroundings.environment = .ok invocation) :
    let result := (invocation.command.run invocation.color surroundings).result
    let outcome := runCommandLine given surroundings
    (∀ failure, result = .error failure →
      outcome.standardOutput = [] ∧ outcome.exitCode = failure.exitCode) ∧
    (∀ output, result = .ok output →
      outcome.standardOutput = output ∧ output ≠ [] ∧ outcome.exitCode = 0) ∧
    (outcome.exitCode = 1 ↔ ∃ failure, result = .error failure ∧ failure.IsUnusableDocument) ∧
    (outcome.exitCode = 2 ↔ ∃ failure, result = .error failure ∧ failure.IsMissingInput) ∧
    (outcome.exitCode = 0 ∧ outcome.standardOutput = [] ↔
      invocation.command.NamesUnsupportedEvent) ∧
    (invocation.command.NamesUnsupportedEvent →
      ∀ other : Surroundings, other.environment = surroundings.environment →
        runCommandLine given other = outcome) := by
  intro result outcome
  refine ⟨?onError, ?onOutput, ?unusable, ?missing, ?silent, ?unread⟩
  case onError => exact fun _ failed => runCommandLine_of_error accepted failed
  case onOutput => exact fun _ printed => runCommandLine_of_ok accepted printed
  case unusable =>
    simp only [← Failure.exitCode_eq_one_iff]
    exact exitCode_runCommandLine_eq_iff Nat.one_ne_zero accepted
  case missing =>
    simp only [← Failure.exitCode_eq_two_iff]
    exact exitCode_runCommandLine_eq_iff (by decide) accepted
  case silent => exact runCommandLine_silent_iff accepted
  case unread =>
    exact fun unsupported _ same => runCommandLine_eq_of_unsupported accepted unsupported same

/-- Surroundings without environment in which nothing can be read. -/
private def unreadableSurroundings : Surroundings :=
  ⟨fun _ => none, .error "gone".toList, fun _ => .error "gone".toList⟩

/-- A release is looked up without a payload and without a complaint. -/
theorem outcome_of_query_release :
    let given := ["query", "--event-name", "release", "--event-path", "e.json"].map String.toList
    let query := Command.query "release".toList "e.json".toList
    Invocation.ofArguments given unreadableSurroundings.environment =
        .ok ⟨none, false, query⟩ ∧
      (runCommandLine given unreadableSurroundings).exitCode = 0 ∧
      (runCommandLine given unreadableSurroundings).standardOutput = [] ∧
      ∀ content : Text → Except Text Text,
        runCommandLine given { unreadableSurroundings with file := content } =
          runCommandLine given unreadableSurroundings := by
  intro given query
  have accepted :
      Invocation.ofArguments given unreadableSurroundings.environment =
        .ok ⟨none, false, query⟩ := by
    rfl
  have unsupported : query.NamesUnsupportedEvent :=
    ⟨"release".toList, rfl, by intro kind; cases kind <;> decide⟩
  obtain ⟨_, _, _, _, silent, unread⟩ := outcome_of_accepted accepted
  obtain ⟨code, output⟩ := silent.mpr unsupported
  exact ⟨accepted, code, output, fun content => unread unsupported _ rfl⟩

end TitleStamp
