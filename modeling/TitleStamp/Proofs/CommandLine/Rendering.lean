import TitleStamp.Proofs.CommandLine.Outcome
import TitleStamp.Proofs.CommandLine.Reading

/-!
# The command that renders

The command prints what the pattern renders to with the variables of the command line.  A variable
is split at its first equals sign, and of two that have the same name the later one counts.
-/

namespace TitleStamp

/-! ## Bindings -/

/-- How a name and a value are given. -/
def bindingText (binding : Text × Text) : Text :=
  binding.1 ++ '=' :: binding.2

theorem splitOnce?_bindingText
    {binding : Text × Text} (apart : '=' ∉ binding.1) :
    Text.splitOnce? '=' (bindingText binding) = some binding :=
  Text.splitOnce?_eq_some_iff.mpr ⟨rfl, apart⟩

theorem eq_of_bindingText_eq
    {left right : Text × Text}
    (apartLeft : '=' ∉ left.1) (apartRight : '=' ∉ right.1)
    (same : bindingText left = bindingText right) :
    left = right := by
  have parts := splitOnce?_bindingText apartLeft
  rw [same, splitOnce?_bindingText apartRight] at parts
  exact (Option.some.inj parts).symm

theorem readBindings_bindingText
    {bindings : List (Text × Text)} (apart : ∀ binding ∈ bindings, '=' ∉ binding.1) :
    readBindings (bindings.map bindingText) = .ok bindings := by
  induction bindings with
  | nil => rfl
  | cons binding rest inductionHypothesis =>
      obtain ⟨apartHere, apartLater⟩ := List.forall_mem_cons.mp apart
      rw [List.map_cons, readBindings, splitOnce?_bindingText apartHere]
      dsimp only
      rw [inductionHypothesis apartLater]
      rfl

theorem exists_bindings
    {arguments : List Text} (assigned : ∀ argument ∈ arguments, '=' ∈ argument) :
    ∃ bindings : List (Text × Text), arguments = bindings.map bindingText ∧
      ∀ binding ∈ bindings, '=' ∉ binding.1 := by
  induction arguments with
  | nil => exact ⟨[], rfl, fun _ member => nomatch member⟩
  | cons argument rest inductionHypothesis =>
      obtain ⟨assignedHere, assignedLater⟩ := List.forall_mem_cons.mp assigned
      obtain ⟨bindings, rfl, apart⟩ := inductionHypothesis assignedLater
      obtain ⟨name, value, rfl, apartHere⟩ := List.eq_append_cons_of_mem assignedHere
      exact ⟨(name, value) :: bindings, rfl, List.forall_mem_cons.mpr ⟨apartHere, apart⟩⟩

/-- The first argument without an equals sign is refused, whatever follows it. -/
theorem readBindings_of_unassigned
    {before after : List Text} {argument : Text}
    (assigned : ∀ earlier ∈ before, '=' ∈ earlier)
    (unassigned : '=' ∉ argument) :
    readBindings (before ++ argument :: after) = .error (.invalidVariable argument) := by
  induction before with
  | nil => rw [List.nil_append, readBindings, Text.splitOnce?_eq_none_iff.mpr unassigned]
  | cons earlier rest inductionHypothesis =>
      obtain ⟨assignedHere, assignedLater⟩ := List.forall_mem_cons.mp assigned
      cases parts : Text.splitOnce? '=' earlier with
      | none => exact absurd assignedHere (Text.splitOnce?_eq_none_iff.mp parts)
      | some binding =>
          rw [List.cons_append, readBindings, parts]
          dsimp only
          rw [inductionHypothesis assignedLater]
          rfl

/-- The last of the arguments with this name gives it this value. -/
def IsLastBinding (arguments : List Text) (name value : Text) : Prop :=
  ∃ before after, arguments = before ++ bindingText (name, value) :: after ∧ '=' ∉ name ∧
    ∀ later ∈ after, ∀ other, later ≠ bindingText (name, other)

theorem ofBindings_eq_some_iff
    {bindings : List (Text × Text)}
    (apart : ∀ binding ∈ bindings, '=' ∉ binding.1)
    (name value : Text) :
    Variables.ofBindings bindings name = some value ↔
      IsLastBinding (bindings.map bindingText) name value := by
  rw [Variables.ofBindings, List.lookup_eq_some_iff]
  constructor
  · rintro ⟨later, earlier, split, notLater⟩
    have parts : bindings = earlier.reverse ++ (name, value) :: later.reverse := by
      simpa using congrArg List.reverse split
    subst parts
    refine ⟨earlier.reverse.map bindingText, later.reverse.map bindingText, by simp,
      apart (name, value) (by simp), ?_⟩
    intro text member other same
    obtain ⟨binding, isLater, rfl⟩ := List.mem_map.mp member
    have sameBinding : binding = (name, other) :=
      eq_of_bindingText_eq (apart binding (by simp [isLater])) (apart (name, value) (by simp)) same
    have otherName := notLater binding (List.mem_reverse.mp isLater)
    simp [sameBinding] at otherName
  · rintro ⟨before, after, split, notEqual, notLater⟩
    obtain ⟨earlier, found, rfl, rfl, sameFound⟩ := List.map_eq_append_iff.mp split
    obtain ⟨binding, later, rfl, sameText, rfl⟩ := List.map_eq_cons_iff.mp sameFound
    obtain rfl : binding = (name, value) :=
      eq_of_bindingText_eq (apart binding (by simp)) notEqual sameText
    refine ⟨later.reverse, earlier.reverse, by simp, ?_⟩
    intro other isLater
    rw [List.mem_reverse] at isLater
    rw [bne_iff_ne]
    rintro rfl
    exact notLater _ (List.mem_map_of_mem isLater) other.2 rfl

/-! ## Command lines that render -/

theorem lettersTakeValues_outer : Command.outerGrammar.LettersTakeValues := by
  decide

theorem lettersTakeValues_render : (Command.innerGrammar "render").LettersTakeValues := by
  decide

variable {given arguments : List Text} {environment : Environment} {invocation : Invocation}
  {pattern : Text} {calls : Calls} {explain : Bool}

theorem Command.eq_of_ofArguments_render
    {word : String} {read : Arguments}
    (command : Command.ofArguments word read environment =
      .ok (.render pattern arguments calls explain)) :
    word = "render" ∧ read.plain = [pattern] ∧ arguments = read.values "var" ∧
      calls = (if read.has "no-functions" then .inert else .applied) ∧
      explain = read.has "explain" := by
  unfold Command.ofArguments at command
  split at command
  · rename_i plain
    cases command
    exact ⟨rfl, plain, rfl, rfl, rfl⟩
  · cases command
  · cases command
  · split at command
    · split at command <;> cases command
    · cases command
  · cases command
  · cases command

/-- After the word of a command that has no commands of its own, all words are read. -/
theorem reads_of_inner
    {grammar : Grammar} {words : List Text} {read : Arguments}
    (lettersTakeValues : grammar.LettersTakeValues)
    (noCommands : grammar.commands = [])
    (divided : (grammar.divide words >>= (·.progress.settle)) = .ok read) :
    grammar.Reads words read := by
  obtain ⟨⟨progress, command⟩, division, settles⟩ := Grammar.exists_of_bind_eq_ok divided
  obtain ⟨front, split, listed, reads⟩ :=
    Grammar.reads_of_divide lettersTakeValues division settles
  cases command with
  | none =>
      rw [Grammar.unread, List.append_nil] at split
      rwa [split]
  | some named =>
      have member := listed named rfl
      rw [noCommands] at member
      cases member

/-- An accepted command line has a word of a command, and the words on both sides of it are
accepted. -/
theorem Invocation.exists_of_ofArguments_eq_ok
    (accepted : Invocation.ofArguments given environment = .ok invocation) :
    ∃ outer word rest shared read,
      Command.outerGrammar.divide given = .ok ⟨outer, some (word, rest)⟩ ∧
      outer.settle = .ok shared ∧
      ((Command.innerGrammar word).divide rest >>= (·.progress.settle)) = .ok read ∧
      Command.ofArguments word read environment = .ok invocation.command := by
  unfold ofArguments at accepted
  split at accepted
  · cases accepted
  · cases accepted
  · rename_i outer word rest divided
    split at accepted
    · cases accepted
    split at accepted
    · cases accepted
    rename_i read innerRead
    split at accepted
    · cases accepted
    rename_i shared sharedRead
    split at accepted
    · cases accepted
    split at accepted
    · cases accepted
    rename_i command commandRead
    cases accepted
    exact ⟨outer, word, rest, shared, read, divided, sharedRead, innerRead, commandRead⟩

theorem exists_read_of_accepted
    (accepted : Invocation.ofArguments given environment = .ok invocation)
    (isRender : invocation.command = .render pattern arguments calls explain) :
    ∃ outer inner shared read, given = outer ++ "render".toList :: inner ∧
      Command.outerGrammar.Reads outer shared ∧ (Command.innerGrammar "render").Reads inner read ∧
      read.plain = [pattern] ∧ arguments = read.values "var" ∧
      calls = (if read.has "no-functions" then .inert else .applied) ∧
      explain = read.has "explain" := by
  obtain ⟨_, _, inner, shared, read, divided, sharedRead, innerRead, commandRead⟩ :=
    Invocation.exists_of_ofArguments_eq_ok accepted
  rw [isRender] at commandRead
  obtain ⟨rfl, plain, values, mode, explained⟩ := Command.eq_of_ofArguments_render commandRead
  obtain ⟨outer, split, _, sharedReads⟩ :=
    Grammar.reads_of_divide lettersTakeValues_outer divided sharedRead
  exact ⟨outer, inner, shared, read, split, sharedReads,
    reads_of_inner lettersTakeValues_render rfl innerRead, plain, values, mode, explained⟩

/-! ## Every pattern and every list of bindings can be given -/

open Grammar

/-- A command line that renders a pattern with the given bindings. -/
def renderWords (pattern : Text) (bindings : List Text) (calls : Calls) : List Text :=
  "render".toList :: (bindings.map ("--var=".toList ++ ·) ++
    ((if calls = .inert then ["--no-functions".toList] else []) ++ ["--".toList, pattern]))

theorem takeWord_attached
    {grammar : Grammar} {long name value : Text}
    (parts : Text.splitOnce? '=' long = some (name, value))
    (read : Arguments) :
    grammar.takeWord read ('-' :: '-' :: long) = grammar.takeLong read name (some value) := by
  rw [takeWord, parts]

theorem addOption_var (read : Arguments) (binding : Text) :
    read.addOption { name := "var", letter := some 'v', repeatable := true } binding =
      .ok (read.added "var" binding) := by
  rw [Arguments.addOption, if_neg (by simp), if_neg (by simp)]
  rfl

theorem takeWord_var (read : Arguments) (binding : Text) :
    (Command.innerGrammar "render").takeWord read ("--var=".toList ++ binding) =
      .ok (.settled (read.added "var" binding)) := by
  have parts : Text.splitOnce? '=' ("var=".toList ++ binding) = some ("var".toList, binding) :=
    Text.splitOnce?_eq_some_iff.mpr ⟨rfl, by decide⟩
  refine (takeWord_attached parts read).trans ?_
  change (read.addOption _ binding).map Progress.settled = _
  rw [addOption_var]
  rfl

theorem divideFrom_bindings (bindings rest : List Text) (read : Arguments) :
    (Command.innerGrammar "render").divideFrom (.settled read)
        (bindings.map ("--var=".toList ++ ·) ++ rest) =
      (Command.innerGrammar "render").divideFrom
        (.settled ⟨read.options ++ bindings.map ("var", ·), read.plain⟩) rest := by
  induction bindings generalizing read with
  | nil => simp
  | cons binding later inductionHypothesis =>
      rw [List.map_cons, List.cons_append,
        divideFrom_settled rfl (by simp), takeWord_var]
      change (Command.innerGrammar "render").divideFrom (.settled (read.added "var" binding)) _ = _
      rw [inductionHypothesis, Arguments.added, List.append_assoc]
      rfl

theorem values_bindings (bindings : List Text) (plain : List Text) (name : String) :
    (Arguments.mk (bindings.map ("var", ·)) plain).values name =
      if name = "var" then bindings else [] := by
  rw [Arguments.values, List.filterMap_map]
  change bindings.filterMap (fun binding => if "var" = name then some binding else none) = _
  by_cases isVar : name = "var"
  · simp [isVar]
  · simp [Ne.symm isVar, isVar]

theorem values_append
    (front back : List (String × Text)) (plain : List Text) (name : String) :
    (Arguments.mk (front ++ back) plain).values name =
      (Arguments.mk front plain).values name ++ (Arguments.mk back plain).values name :=
  List.filterMap_append

theorem addOption_noFunctions (bindings : List Text) :
    (Arguments.mk (bindings.map ("var", ·)) []).addOption
        { name := "no-functions", takesValue := false } [] =
      .ok ⟨bindings.map ("var", ·) ++ [("no-functions", [])], []⟩ := by
  have absent : (Arguments.mk (bindings.map ("var", ·)) []).has "no-functions" = false := by
    rw [Arguments.has, Arguments.value?, values_bindings]
    rfl
  rw [Arguments.addOption, if_neg (by simp [absent]), if_neg (by simp)]

theorem divide_renderWords (pattern : Text) (bindings : List Text) (calls : Calls) :
    (Command.innerGrammar "render").divide (bindings.map ("--var=".toList ++ ·) ++
        ((if calls = .inert then ["--no-functions".toList] else []) ++ ["--".toList, pattern])) =
      .ok ⟨.settled ⟨bindings.map ("var", ·) ++
        (if calls = .inert then [("no-functions", [])] else []), [pattern]⟩, none⟩ := by
  rw [divide, divideFrom_bindings]
  cases calls with
  | applied =>
      rw [if_neg (by simp), if_neg (by simp), List.append_nil]
      rfl
  | inert =>
      rw [if_pos rfl, if_pos rfl, List.singleton_append,
        divideFrom_settled rfl (by simp)]
      change
        ((Arguments.mk (bindings.map ("var", ·)) []).addOption _ []).map Progress.settled >>= _ = _
      rw [addOption_noFunctions]
      rfl

/-- Every pattern can be rendered with every list of bindings. -/
theorem ofArguments_renderWords
    (pattern : Text) (bindings : List Text) (calls : Calls) (environment : Environment) :
    Invocation.ofArguments (renderWords pattern bindings calls) environment =
      .ok ⟨environment "PRTIME_LOG", false, .render pattern bindings calls false⟩ := by
  have outer : Command.outerGrammar.divide (renderWords pattern bindings calls) =
      .ok ⟨.settled .none, some ("render", (renderWords pattern bindings calls).tail)⟩ := by
    rfl
  have inner := divide_renderWords pattern bindings calls
  rw [Invocation.ofArguments, outer]
  dsimp only
  rw [renderWords, List.tail_cons, inner, if_neg (by simp [Command.helpWord])]
  dsimp only [bind, Except.bind, Progress.settle]
  simp only [Command.ofArguments, Arguments.conflicting, Arguments.has, Arguments.value?,
    values_append, values_bindings]
  cases calls <;> simp [Arguments.values, Arguments.none]

/-! ## What the command prints -/

theorem runRender_of_bindings
    {bindings : List (Text × Text)}
    (apart : ∀ binding ∈ bindings, '=' ∉ binding.1)
    (color : Bool) (pattern : Text) (calls : Calls) :
    (Command.runRender color pattern (bindings.map bindingText) calls false).result =
      .ok (render calls (Variables.ofBindings bindings) pattern ++ ['\n']) := by
  rw [Command.runRender, readBindings_bindingText apart]
  rfl

theorem runRender_of_unassigned
    {before after : List Text} {argument : Text}
    (assigned : ∀ earlier ∈ before, '=' ∈ earlier)
    (unassigned : '=' ∉ argument)
    (color : Bool) (pattern : Text) (calls : Calls) (explain : Bool) :
    (Command.runRender color pattern (before ++ argument :: after) calls explain).result =
      .error (.invalidVariable argument) := by
  rw [Command.runRender, readBindings_of_unassigned assigned unassigned]

/-- A command line that renders prints what the pattern renders to with the last value of each
variable, and treats calls as text if and only if it says so.  It fails with the first argument
that has no equals sign. -/
theorem runCommandLine_render
    {surroundings : Surroundings}
    (accepted : Invocation.ofArguments given surroundings.environment = .ok invocation)
    (isRender : invocation.command = .render pattern arguments calls false) :
    (∃ outer inner shared read, given = outer ++ "render".toList :: inner ∧
      Command.outerGrammar.Reads outer shared ∧
      (Command.innerGrammar "render").Reads inner read ∧
      read.plain = [pattern] ∧ arguments = read.values "var" ∧
      (calls = .inert ↔ read.has "no-functions" = true)) ∧
    ((∀ argument ∈ arguments, '=' ∈ argument) →
      ∃ values : Variables,
        (∀ name value, values name = some value ↔ IsLastBinding arguments name value) ∧
        (invocation.command.run invocation.color surroundings).result =
          .ok (render calls values pattern ++ ['\n']) ∧
        (runCommandLine given surroundings).standardOutput = render calls values pattern ++ ['\n'] ∧
        (runCommandLine given surroundings).exitCode = 0) ∧
    ∀ before argument after, arguments = before ++ argument :: after →
      (∀ earlier ∈ before, '=' ∈ earlier) → '=' ∉ argument →
      (invocation.command.run invocation.color surroundings).result =
          .error (.invalidVariable argument) ∧
        (runCommandLine given surroundings).standardOutput = [] ∧
        (runCommandLine given surroundings).exitCode = 2 := by
  refine ⟨?_, ?_, ?_⟩
  · obtain ⟨outer, inner, shared, read, split, sharedReads, reads, plain, values, mode, _⟩ :=
      exists_read_of_accepted accepted isRender
    refine ⟨outer, inner, shared, read, split, sharedReads, reads, plain, values, ?_⟩
    rw [mode]
    cases read.has "no-functions" <;> simp
  · intro assigned
    obtain ⟨bindings, rfl, apart⟩ := exists_bindings assigned
    have printed :
        (invocation.command.run invocation.color surroundings).result =
          .ok (render calls (Variables.ofBindings bindings) pattern ++ ['\n']) := by
      rw [isRender]
      exact runRender_of_bindings apart invocation.color pattern calls
    obtain ⟨shown, _, code⟩ := runCommandLine_of_ok accepted printed
    exact ⟨Variables.ofBindings bindings, ofBindings_eq_some_iff apart, printed, shown, code⟩
  · rintro before argument after rfl assigned unassigned
    have failed :
        (invocation.command.run invocation.color surroundings).result =
          .error (.invalidVariable argument) := by
      rw [isRender]
      exact runRender_of_unassigned assigned unassigned invocation.color pattern calls false
    exact ⟨failed, runCommandLine_of_error accepted failed⟩

private def quietSurroundings : Surroundings :=
  ⟨fun _ => none, .error "gone".toList, fun _ => .error "gone".toList⟩

/-- The value given last counts, and a name alone is refused before another one that follows. -/
theorem runCommandLine_render_again :
    let given := ["--color", "render", "-va=1", "--no-functions", "--var", "b=x=y", "-v=a=2",
      "upper(:a:b)"].map String.toList
    let arguments := ["a=1", "b=x=y", "a=2"].map String.toList
    let refused := ["render", "--var=a=1", "--var", "b", "-vc", ":a"].map String.toList
    (Invocation.ofArguments given quietSurroundings.environment =
        .ok ⟨none, true, .render "upper(:a:b)".toList arguments .inert false⟩ ∧
      (∃ values : Variables,
        (∀ name value, values name = some value ↔ IsLastBinding arguments name value) ∧
        (runCommandLine given quietSurroundings).standardOutput =
          render .inert values "upper(:a:b)".toList ++ ['\n'])) ∧
    runCommandLine given quietSurroundings = ⟨0, "upper(2x=y)\n".toList, []⟩ ∧
    (runCommandLine refused quietSurroundings).standardOutput = [] ∧
    (runCommandLine refused quietSurroundings).exitCode = 2 := by
  intro given arguments refused
  have accepted : Invocation.ofArguments given quietSurroundings.environment =
      .ok ⟨none, true, .render "upper(:a:b)".toList arguments .inert false⟩ := by
    rfl
  have refusedLater : Invocation.ofArguments refused quietSurroundings.environment =
      .ok ⟨none, false,
        .render ":a".toList (["a=1", "b", "c"].map String.toList) .applied false⟩ := by
    rfl
  obtain ⟨_, printed, _⟩ := runCommandLine_render accepted rfl
  obtain ⟨_, _, failed⟩ := runCommandLine_render refusedLater rfl
  obtain ⟨values, last, _, shown, _⟩ := printed (by decide)
  refine ⟨⟨accepted, values, last, shown⟩, by decide +kernel, ?_⟩
  exact (failed ["a=1".toList] "b".toList ["c".toList] rfl (by decide) (by decide)).2

end TitleStamp
