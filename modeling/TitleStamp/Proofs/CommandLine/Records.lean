import TitleStamp.Proofs.CommandLine.Outcome
import TitleStamp.Proofs.Number.Shown

/-!
# What is reported

The steps of a run are reported in more detail than plain information.  Unless a directive asks for
details, a command that succeeds therefore writes nothing to the standard error, except that a
retitle is summed up and that an explanation may come with a warning.
-/

namespace TitleStamp

namespace Log

/-- A record that is below plain information. -/
def Record.IsDetail (record : Record) : Prop :=
  Level.info.rank < record.level.rank

theorem Record.isDetail_debug (target message : Text) : IsDetail ⟨.debug, target, message⟩ := by
  change Level.info.rank < Level.debug.rank
  decide

theorem Record.isDetail_trace (target message : Text) : IsDetail ⟨.trace, target, message⟩ := by
  change Level.info.rank < Level.trace.rank
  decide

/-- No directive lets details through. -/
def Filter.IsQuiet (filter : Filter) : Prop :=
  ∀ directive ∈ filter, directive.level.rank ≤ Level.info.rank

instance (filter : Filter) : Decidable filter.IsQuiet :=
  inferInstanceAs (Decidable (∀ directive ∈ filter, directive.level.rank ≤ Level.info.rank))

theorem Filter.mem_of_deciding?
    {filter : Filter} {target : Text} {directive : Directive}
    (decides : filter.deciding? target = some directive) :
    directive ∈ filter := by
  have chosen : ∀ best ∈ filter.deciding? target, best ∈ filter := by
    refine List.foldlRecOn (motive := fun best => ∀ directive ∈ best, directive ∈ filter)
      _ _ nofun ?_
    intro best kept candidate isCandidate
    have listed : candidate ∈ filter := (List.mem_filter.mp isCandidate).1
    split
    · simpa using listed
    · split
      · simpa using listed
      · exact kept
  exact chosen directive decides

theorem Filter.shows_eq_false_of_isDetail
    {filter : Filter} {record : Record}
    (quiet : filter.IsQuiet) (detail : record.IsDetail) :
    filter.shows record = false := by
  unfold shows
  split
  · rename_i directive decides
    have bound := quiet directive (mem_of_deciding? decides)
    exact decide_eq_false (Nat.not_le.mpr (Nat.lt_of_le_of_lt bound detail))
  · rfl

theorem lines_eq_nil_of_isDetail
    {filter : Filter} {records : List Record}
    (quiet : filter.IsQuiet) (details : ∀ record ∈ records, record.IsDetail) (styled : Bool) :
    lines styled filter records = [] := by
  have hidden : records.filter filter.shows = [] := by
    apply List.filter_eq_nil_iff.mpr
    intro record member
    rw [Filter.shows_eq_false_of_isDetail quiet (details record member)]
    exact Bool.false_ne_true
  rw [lines, hidden, List.flatMap_nil]

end Log

/-! ## The records of the steps -/

section Details

variable {values : Variables} {pattern : Text} {record : Log.Record}

theorem isDetail_of_mem_scanRecords
    {entries : List (Lexeme × List Log.Record)}
    (details : ∀ entry ∈ entries, ∀ record ∈ entry.2, record.IsDetail)
    {start : Nat} (member : record ∈ scanRecords start entries) :
    record.IsDetail := by
  induction entries generalizing start with
  | nil => cases member
  | cons entry entries inductionHypothesis =>
      obtain ⟨now, later⟩ := List.forall_mem_cons.mp details
      rw [scanRecords, List.cons_append, List.mem_cons, List.mem_append] at member
      rcases member with rfl | reported | further
      · exact Log.Record.isDetail_trace _ _
      · exact now record reported
      · exact inductionHypothesis later further

theorem Variables.isDetail_of_mem_records
    {name : Text} (member : record ∈ values.records name) : record.IsDetail := by
  unfold records at member
  split at member
  · cases member
  · rw [List.mem_singleton.mp member]
    exact Log.Record.isDetail_debug _ _

theorem isDetail_of_mem_renderInertRecords
    (member : record ∈ renderInertRecords values pattern) : record.IsDetail := by
  refine isDetail_of_mem_scanRecords ?_ member
  intro entry isEntry reported isReported
  obtain ⟨lexeme, _, rfl⟩ := List.mem_map.mp isEntry
  cases lexeme with
  | placeholder name => exact Variables.isDetail_of_mem_records isReported
  | call name argument => cases isReported
  | literal text => cases isReported

theorem isDetail_of_mem_renderAppliedRecords (pattern : Text) :
    ∀ record ∈ renderAppliedRecords values pattern, record.IsDetail := by
  intro record member
  rw [renderAppliedRecords_eq_scanRecords] at member
  refine isDetail_of_mem_scanRecords ?_ member
  intro entry isEntry reported isReported
  obtain ⟨lexeme, isLexeme, rfl⟩ := List.mem_map.mp isEntry
  cases lexeme with
  | placeholder name => exact Variables.isDetail_of_mem_records isReported
  | call name argument =>
      have shorter := argument_length_lt isLexeme
      dsimp only [Lexeme.appliedRecords] at isReported
      split at isReported
      · exact isDetail_of_mem_renderAppliedRecords argument reported isReported
      · rcases List.mem_cons.mp isReported with rfl | inert
        · exact Log.Record.isDetail_debug _ _
        · exact isDetail_of_mem_renderInertRecords inert
  | literal text => cases isReported
termination_by pattern.length

theorem isDetail_of_mem_renderRecords
    {calls : Calls} (member : record ∈ renderRecords calls values pattern) : record.IsDetail := by
  cases calls with
  | applied => exact isDetail_of_mem_renderAppliedRecords pattern record member
  | inert => exact isDetail_of_mem_renderInertRecords member

theorem isDetail_of_mem_parseRecords
    {text : Text} (member : record ∈ Duration.parseRecords text) : record.IsDetail := by
  obtain ⟨mention, _, reported⟩ := List.mem_filterMap.mp member
  obtain ⟨amount, _, rfl⟩ := Option.map_eq_some_iff.mp reported
  exact Log.Record.isDetail_trace _ _

theorem isDetail_of_mem_cleanTitleRecords
    {current durationPattern titlePattern : Text}
    (member : record ∈ cleanTitleRecords current durationPattern titlePattern) :
    record.IsDetail := by
  rcases List.mem_append.mp member with mentioned | cleaned
  · exact isDetail_of_mem_parseRecords mentioned
  · rw [List.mem_singleton.mp cleaned]
    exact Log.Record.isDetail_debug _ _

theorem isDetail_of_mem_lookupRecords
    {request : Request} (member : record ∈ request.lookupRecords) : record.IsDetail := by
  cases request with
  | updateTitle pullRequestId title => cases member
  | _ =>
      rw [List.mem_singleton.mp member]
      exact Log.Record.isDetail_debug _ _

end Details

/-- The record of a mention gives its milliseconds in a form that reads back. -/
theorem Mention.exists_of_record?
    {mention : Mention} {record : Log.Record} (reported : mention.record? = some record) :
    ∃ amount text, mention.millis? = some amount ∧ Double.ofText? text = some amount ∧
      record.message =
        "duration term ".toList ++ mention.source.quoted ++ " = ".toList ++ text ++
          " ms".toList := by
  obtain ⟨amount, counted, rfl⟩ := Option.map_eq_some_iff.mp reported
  have rounded : Double.IsRounded amount := by
    unfold millis? at counted
    split at counted
    · cases counted
      exact Double.isRounded_mul _ _
    · cases counted
  exact ⟨amount, _, counted, Double.ofText?_shown rounded _, rfl⟩

/-! ## Runs -/

/-- A command that neither retitles nor explains. -/
def Command.IsPlain : Command → Prop
  | .render _ _ _ explain => explain = false
  | .retitle _ _ _ => False
  | _ => True

theorem Command.isDetail_of_mem_run
    {command : Command} (plain : command.IsPlain)
    {color : Bool} {surroundings : Surroundings} {record : Log.Record}
    (member : record ∈ (command.run color surroundings).records) :
    record.IsDetail := by
  cases command with
  | render pattern bindings calls explain =>
      obtain rfl : explain = false := plain
      dsimp only [run, runRender] at member
      split at member
      · cases member
      · exact isDetail_of_mem_renderRecords member
  | clean title durationPattern titlePattern => exact isDetail_of_mem_cleanTitleRecords member
  | duration text pattern =>
      dsimp only [run, runDuration] at member
      split at member
      · exact isDetail_of_mem_parseRecords member
      · exact isDetail_of_mem_parseRecords member
  | query eventName eventPath =>
      dsimp only [run, runQuery] at member
      split at member
      · cases member
      · exact isDetail_of_mem_lookupRecords member
  | retitle response eventName settings => cases plain

theorem Execution.standardError_of_ok
    {execution : Execution} {output : Text}
    (printed : execution.result = .ok output)
    (styled : Bool) (filter : Log.Filter) :
    (execution.outcome styled filter).standardError =
      Log.lines styled filter execution.records := by
  rw [outcome, printed]

theorem Execution.standardError_of_error
    {execution : Execution} {failure : Failure}
    (failed : execution.result = .error failure)
    (supported : ∀ name, failure ≠ .unsupportedEvent name)
    (styled : Bool) (filter : Log.Filter) :
    (execution.outcome styled filter).standardError =
      Log.lines styled filter execution.records ++ "error: ".toList ++ failure.message ++
        ['\n'] := by
  rw [outcome, failed]
  cases failure with
  | unsupportedEvent name => exact absurd rfl (supported name)
  | _ => rfl

/-- A plain command under directives that let no details through reports a failure and nothing
else. -/
theorem standardError_of_isQuiet
    {given : List Text} {surroundings : Surroundings} {invocation : Invocation}
    (accepted : Invocation.ofArguments given surroundings.environment = .ok invocation)
    (plain : invocation.command.IsPlain)
    (quiet : (Log.Filter.ofText invocation.directives).IsQuiet) :
    let result := (invocation.command.run invocation.color surroundings).result
    (∀ output, result = .ok output → (runCommandLine given surroundings).standardError = []) ∧
    ∀ failure, result = .error failure → (∀ name, failure ≠ .unsupportedEvent name) →
      (runCommandLine given surroundings).standardError =
        "error: ".toList ++ failure.message ++ ['\n'] := by
  intro result
  have details : ∀ record ∈ (invocation.execution surroundings).records, record.IsDetail := by
    intro record member
    rcases List.mem_cons.mp member with rfl | later
    · exact Log.Record.isDetail_debug _ _
    · exact Command.isDetail_of_mem_run plain later
  have silent := Log.lines_eq_nil_of_isDetail quiet details (stylesForced surroundings.environment)
  have ran : runCommandLine given surroundings = invocation.run surroundings := by
    rw [runCommandLine, accepted]
  rw [ran, Invocation.run]
  constructor
  · intro output printed
    have printedLater : (invocation.execution surroundings).result = .ok output := printed
    rw [Execution.standardError_of_ok printedLater, silent]
  · intro failure failed supported
    have failedLater : (invocation.execution surroundings).result = .error failure := failed
    rw [Execution.standardError_of_error failedLater supported, silent, List.nil_append]

-- without directives nothing but plain information is let through
example : (Log.Filter.ofText "info".toList).IsQuiet := by
  decide

-- a directive that asks for details makes a rendering report what it did not find
example :
    runCommandLine (["--log-level", "debug", "render", ":x"].map String.toList)
        ⟨fun _ => none, .ok [], fun _ => .ok []⟩ =
      ⟨0, ['\n'],
        ("[DEBUG prtime::logging] log level debug\n[DEBUG prtime::template] " ++
          "placeholder :x has no value, substituting an empty string\n").toList⟩ := by
  decide +kernel

end TitleStamp
