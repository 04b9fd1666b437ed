import TitleStamp.CommandLine.Options

/-!
# What the words of a command line say

The words in front of a command or after it spell options, each in one word or two, and plain
arguments.  Whatever the reading accepts is spelled so.
-/

namespace TitleStamp

namespace Text

variable {separator : Char} {text : Text}

theorem splitOnce?_eq_some_iff {before after : Text} :
    splitOnce? separator text = some (before, after) ↔
      text = before ++ separator :: after ∧ separator ∉ before := by
  induction text generalizing before with
  | nil => simp [splitOnce?]
  | cons character rest inductionHypothesis =>
      rw [splitOnce?]
      by_cases here : character = separator
      · rw [if_pos here]
        cases before with
        | nil => simp [here]
        | cons first others =>
            simp only [Option.some.injEq, Prod.mk.injEq, List.cons_append, List.cons.injEq]
            refine iff_of_false (fun same => nomatch same.1) ?_
            rintro ⟨⟨same, _⟩, apart⟩
            exact apart (by rw [← here, same]; exact List.mem_cons_self)
      · rw [if_neg here, Option.map_eq_some_iff]
        cases before with
        | nil => simp [here]
        | cons first others =>
            constructor
            · rintro ⟨⟨front, back⟩, parts, same⟩
              simp only [Prod.mk.injEq, List.cons.injEq] at same
              obtain ⟨⟨rfl, rfl⟩, rfl⟩ := same
              obtain ⟨rfl, apart⟩ := inductionHypothesis.mp parts
              exact ⟨rfl, mt List.mem_cons.mp (not_or.mpr ⟨Ne.symm here, apart⟩)⟩
            · rintro ⟨same, apart⟩
              rw [List.cons_append, List.cons.injEq] at same
              obtain ⟨rfl, rfl⟩ := same
              exact ⟨(others, after),
                inductionHypothesis.mpr ⟨rfl, fun member => apart (List.mem_cons_of_mem _ member)⟩,
                rfl⟩

theorem splitOnce?_eq_none_iff : splitOnce? separator text = none ↔ separator ∉ text := by
  constructor
  · intro absent member
    obtain ⟨before, after, rfl, apart⟩ := List.eq_append_cons_of_mem member
    rw [splitOnce?_eq_some_iff.mpr ⟨rfl, apart⟩] at absent
    cases absent
  · intro apart
    cases parts : splitOnce? separator text with
    | none => rfl
    | some found =>
        obtain ⟨rfl, _⟩ := splitOnce?_eq_some_iff.mp parts
        exact absurd (List.mem_append_right _ List.mem_cons_self) apart

end Text

/-- A word that starts no option: it does not start with a hyphen, or is one. -/
def IsPlainWord : Text → Prop
  | '-' :: _ :: _ => False
  | _ => True

def Arguments.added (arguments : Arguments) (name : String) (value : Text) : Arguments :=
  ⟨arguments.options ++ [(name, value)], arguments.plain⟩

theorem Arguments.eq_added_of_addOption
    {arguments next : Arguments} {rule : OptionRule} {value : Text}
    (added : arguments.addOption rule value = .ok next) :
    next = arguments.added rule.name value := by
  unfold addOption at added
  split at added
  · cases added
  split at added
  · cases added
  · exact (Except.ok.inj added).symm

theorem Arguments.eq_of_addPlain
    {arguments next : Arguments} {limit : Nat} {word : Text}
    (added : arguments.addPlain limit word = .ok next) :
    next = ⟨arguments.options, arguments.plain ++ [word]⟩ := by
  unfold addPlain at added
  split at added
  · exact (Except.ok.inj added).symm
  · cases added

namespace Grammar

variable {grammar : Grammar}

/-- The words that spell one option with its value; a switch has an empty one. -/
inductive Spells (grammar : Grammar) : List Text → String × Text → Prop where
  | switch {rule : OptionRule} (listed : rule ∈ grammar.rules) (single : rule.takesValue = false) :
      Spells grammar ['-' :: '-' :: rule.name.toList] (rule.name, [])
  | attached {rule : OptionRule} (value : Text) (listed : rule ∈ grammar.rules)
      (valued : rule.takesValue = true) :
      Spells grammar ['-' :: '-' :: (rule.name.toList ++ '=' :: value)] (rule.name, value)
  | apart {rule : OptionRule} {value : Text} (listed : rule ∈ grammar.rules)
      (valued : rule.takesValue = true) (plain : IsPlainWord value) :
      Spells grammar ['-' :: '-' :: rule.name.toList, value] (rule.name, value)
  | letterEquals {rule : OptionRule} {letter : Char} (value : Text) (listed : rule ∈ grammar.rules)
      (named : rule.letter = some letter) (valued : rule.takesValue = true) :
      Spells grammar ['-' :: letter :: '=' :: value] (rule.name, value)
  | letterAttached {rule : OptionRule} {letter first : Char} (rest : Text)
      (listed : rule ∈ grammar.rules) (named : rule.letter = some letter)
      (valued : rule.takesValue = true) (apart : first ≠ '=') :
      Spells grammar ['-' :: letter :: first :: rest] (rule.name, first :: rest)
  | letterApart {rule : OptionRule} {letter : Char} {value : Text} (listed : rule ∈ grammar.rules)
      (named : rule.letter = some letter) (valued : rule.takesValue = true)
      (plain : IsPlainWord value) :
      Spells grammar [['-', letter], value] (rule.name, value)

/-- The words that spell the given arguments, in their order. -/
inductive Reads (grammar : Grammar) : List Text → Arguments → Prop where
  | nil : Reads grammar [] .none
  | option {words rest : List Text} {option : String × Text} {arguments : Arguments}
      (spells : grammar.Spells words option) (reads : Reads grammar rest arguments) :
      Reads grammar (words ++ rest) ⟨option :: arguments.options, arguments.plain⟩
  | plain {word : Text} {rest : List Text} {arguments : Arguments} (plain : IsPlainWord word)
      (reads : Reads grammar rest arguments) :
      Reads grammar (word :: rest) ⟨arguments.options, word :: arguments.plain⟩
  | plainRest (words : List Text) : Reads grammar ("--".toList :: words) ⟨[], words⟩

/-- No letter stands for a switch, so that a word has room for one letter only. -/
def LettersTakeValues (grammar : Grammar) : Prop :=
  ∀ rule ∈ grammar.rules, rule.letter ≠ none → rule.takesValue = true

instance (grammar : Grammar) : Decidable grammar.LettersTakeValues :=
  inferInstanceAs
    (Decidable (∀ rule ∈ grammar.rules, rule.letter ≠ none → rule.takesValue = true))

theorem exists_of_bind_eq_ok
    {first second : Type} {result : Except Halt first} {next : first → Except Halt second}
    {value : second}
    (bound : result >>= next = .ok value) :
    ∃ found, result = .ok found ∧ next found = .ok value := by
  cases result with
  | error halt => cases bound
  | ok found => exact ⟨found, rfl, bound⟩

theorem eq_settled_added
    {arguments : Arguments} {rule : OptionRule} {value : Text} {next : Progress}
    (taken : (arguments.addOption rule value).map .settled = .ok next) :
    next = .settled (arguments.added rule.name value) := by
  cases added : arguments.addOption rule value with
  | error halt =>
      rw [added] at taken
      cases taken
  | ok sum =>
      rw [added] at taken
      rw [← Except.ok.inj taken, arguments.eq_added_of_addOption added]

theorem takeLong_eq_ok
    {arguments : Arguments} {name : Text} {attached : Option Text} {next : Progress}
    (taken : grammar.takeLong arguments name attached = .ok next) :
    ∃ rule ∈ grammar.rules, rule.name.toList = name ∧
      ((rule.takesValue = true ∧ ∃ value, attached = some value ∧
          next = .settled (arguments.added rule.name value)) ∨
        (rule.takesValue = true ∧ attached = none ∧ next = .awaiting arguments rule) ∨
        (rule.takesValue = false ∧ attached = none ∧
          next = .settled (arguments.added rule.name []))) := by
  unfold takeLong at taken
  split at taken
  · rename_i rule found
    refine ⟨rule, List.mem_of_find?_eq_some found, by simpa using List.find?_some found, ?_⟩
    split at taken
    · rename_i value valued
      exact Or.inl ⟨valued, value, rfl, eq_settled_added taken⟩
    · rename_i valued
      exact Or.inr (Or.inl ⟨valued, rfl, (Except.ok.inj taken).symm⟩)
    · cases taken
    · rename_i single
      exact Or.inr (Or.inr ⟨single, rfl, eq_settled_added taken⟩)
  · split at taken
    · cases taken
    · split at taken <;> cases taken

theorem takeLetters_eq_ok
    {arguments : Arguments} {letter : Char} {rest : Text} {next : Progress}
    (lettersTakeValues : grammar.LettersTakeValues)
    (taken : grammar.takeLetters arguments (letter :: rest) = .ok next) :
    ∃ rule ∈ grammar.rules, rule.letter = some letter ∧ rule.takesValue = true ∧
      ((rest = [] ∧ next = .awaiting arguments rule) ∨
        (∃ value, rest = '=' :: value ∧ next = .settled (arguments.added rule.name value)) ∨
        (∃ first others, rest = first :: others ∧ first ≠ '=' ∧
          next = .settled (arguments.added rule.name rest))) := by
  unfold takeLetters at taken
  split at taken
  · rename_i rule found
    have listed := List.mem_of_find?_eq_some found
    have named : rule.letter = some letter := by
      simpa using List.find?_some found
    have valued : rule.takesValue = true :=
      lettersTakeValues rule listed (by rw [named]; exact Option.some_ne_none letter)
    refine ⟨rule, listed, named, valued, ?_⟩
    rw [if_pos valued] at taken
    split at taken
    · exact Or.inl ⟨rfl, (Except.ok.inj taken).symm⟩
    · exact Or.inr (Or.inl ⟨_, rfl, eq_settled_added taken⟩)
    · rename_i nonempty notEqual
      cases rest with
      | nil => exact absurd rfl nonempty
      | cons first others =>
          refine Or.inr (Or.inr ⟨first, others, rfl, ?_, eq_settled_added taken⟩)
          rintro rfl
          exact notEqual others rfl
  · split at taken
    · cases taken
    · split at taken <;> cases taken

theorem eq_of_takePlain
    {arguments next : Arguments} {words : List Text}
    (taken : grammar.takePlain arguments words = .ok next) :
    next = ⟨arguments.options, arguments.plain ++ words⟩ := by
  induction words generalizing arguments with
  | nil =>
      rw [← Except.ok.inj taken, List.append_nil]
  | cons word rest inductionHypothesis =>
      rw [takePlain] at taken
      obtain ⟨sum, added, taken⟩ := exists_of_bind_eq_ok taken
      rw [inductionHypothesis taken, Arguments.eq_of_addPlain added, List.append_assoc,
        List.singleton_append]

/-- Takes one word where no option waits for its value. -/
def takeWord (grammar : Grammar) (arguments : Arguments) : Text → Except Halt Progress
  | '-' :: '-' :: long =>
      match Text.splitOnce? '=' long with
      | some (name, value) => grammar.takeLong arguments name (some value)
      | none => grammar.takeLong arguments long none
  | '-' :: letter :: letters => grammar.takeLetters arguments (letter :: letters)
  | word => (arguments.addPlain grammar.plainLimit word).map .settled

section Word

variable {progress : Progress} {word : Text} {rest : List Text}
  (notAwaiting : ∀ arguments rule, progress ≠ .awaiting arguments rule)

include notAwaiting

theorem divideFrom_of_command
    {command : String}
    (found : grammar.commands.find? (·.toList = word) = some command) :
    grammar.divideFrom progress (word :: rest) = .ok ⟨progress, some (command, rest)⟩ := by
  rw [divideFrom, found]
  exact notAwaiting

theorem divideFrom_of_word
    (noCommand : grammar.commands.find? (·.toList = word) = none) :
    grammar.divideFrom progress (word :: rest) = progress.settle >>= fun start =>
      if word = ['-', '-'] then
        grammar.takePlain start rest >>= fun read => .ok ⟨.settled read, none⟩
      else
        grammar.takeWord start word >>= (grammar.divideFrom · rest) := by
  rw [divideFrom, noCommand]
  · refine congrArg (progress.settle >>= ·) (funext fun start => ?_)
    dsimp only [bind, Except.bind]
    split
    · rfl
    · rename_i long notEnd
      rw [if_neg (by simpa using notEnd), takeWord]
      cases Text.splitOnce? '=' long <;> rfl
    · rename_i notEnd notLong
      rw [if_neg (by simpa using notEnd), takeWord]
      exact notLong
    · rename_i notEnd notLong notLetters
      rw [if_neg notEnd, takeWord]
      · cases start.addPlain grammar.plainLimit word <;> rfl
      · exact notLong
      · exact notLetters
  · exact notAwaiting

/-- Unless an option waits for its value, a word is that of a command, ends the options or is
taken on its own. -/
theorem divideFrom_cons_cases
    {division : Division}
    (divided : grammar.divideFrom progress (word :: rest) = .ok division) :
    (∃ command ∈ grammar.commands, command.toList = word ∧
      division = ⟨progress, some (command, rest)⟩) ∨
    ∃ start, progress.settle = .ok start ∧
      ((word = ['-', '-'] ∧
          division = ⟨.settled ⟨start.options, start.plain ++ rest⟩, none⟩) ∨
        ∃ next, grammar.takeWord start word = .ok next ∧
          grammar.divideFrom next rest = .ok division) := by
  cases found : grammar.commands.find? (·.toList = word) with
  | some command =>
      rw [divideFrom_of_command notAwaiting found] at divided
      exact Or.inl ⟨command, List.mem_of_find?_eq_some found, by simpa using List.find?_some found,
        (Except.ok.inj divided).symm⟩
  | none =>
      rw [divideFrom_of_word notAwaiting found] at divided
      obtain ⟨start, settled, divided⟩ := exists_of_bind_eq_ok divided
      refine Or.inr ⟨start, settled, ?_⟩
      by_cases isEnd : word = ['-', '-']
      · rw [if_pos isEnd] at divided
        obtain ⟨read, taken, same⟩ := exists_of_bind_eq_ok divided
        rw [← Except.ok.inj same, eq_of_takePlain taken]
        exact Or.inl ⟨isEnd, rfl⟩
      · rw [if_neg isEnd] at divided
        exact Or.inr (exists_of_bind_eq_ok divided)

end Word

theorem divideFrom_settled
    {read : Arguments} {word : Text}
    (noCommand : grammar.commands.find? (·.toList = word) = none)
    (notEnd : word ≠ ['-', '-'])
    (rest : List Text) :
    grammar.divideFrom (.settled read) (word :: rest) =
      grammar.takeWord read word >>= (grammar.divideFrom · rest) := by
  rw [divideFrom_of_word (fun _ _ => Progress.noConfusion) noCommand]
  exact if_neg notEnd

/-- A word spells an option, starts one whose value is the next word, or stands for itself. -/
theorem takeWord_cases
    {start : Arguments} {word : Text} {next : Progress}
    (lettersTakeValues : grammar.LettersTakeValues)
    (taken : grammar.takeWord start word = .ok next) :
    (∃ name value, grammar.Spells [word] (name, value) ∧
      next = .settled (start.added name value)) ∨
    (∃ rule, next = .awaiting start rule ∧
      ∀ value, IsPlainWord value → grammar.Spells [word, value] (rule.name, value)) ∨
    (IsPlainWord word ∧ next = .settled ⟨start.options, start.plain ++ [word]⟩) := by
  unfold takeWord at taken
  split at taken
  · rename_i long
    split at taken
    · rename_i name value parts
      obtain ⟨rule, listed, rfl, ⟨valued, _, ⟨⟩, rfl⟩ | ⟨_, absent, _⟩ | ⟨_, absent, _⟩⟩ :=
        takeLong_eq_ok taken
      · obtain ⟨rfl, _⟩ := Text.splitOnce?_eq_some_iff.mp parts
        exact Or.inl ⟨rule.name, value, .attached value listed valued, rfl⟩
      · cases absent
      · cases absent
    · obtain ⟨rule, listed, rfl, ⟨_, _, present, _⟩ | ⟨valued, _, rfl⟩ | ⟨single, _, rfl⟩⟩ :=
        takeLong_eq_ok taken
      · cases present
      · exact Or.inr (Or.inl ⟨rule, rfl, fun _ plain => .apart listed valued plain⟩)
      · exact Or.inl ⟨rule.name, [], .switch listed single, rfl⟩
  · obtain ⟨rule, listed, named, valued, ⟨rfl, rfl⟩ | ⟨value, rfl, rfl⟩ |
      ⟨first, others, rfl, apart, rfl⟩⟩ := takeLetters_eq_ok lettersTakeValues taken
    · exact Or.inr (Or.inl ⟨rule, rfl, fun _ plain => .letterApart listed named valued plain⟩)
    · exact Or.inl ⟨rule.name, value, .letterEquals value listed named valued, rfl⟩
    · exact Or.inl ⟨rule.name, _, .letterAttached others listed named valued apart, rfl⟩
  · rename_i notLong notLetters
    refine Or.inr (Or.inr ⟨?_, ?_⟩)
    · unfold IsPlainWord
      split
      · exact notLetters _ _ rfl
      · trivial
    · cases added : start.addPlain grammar.plainLimit word with
      | error halt =>
          rw [added] at taken
          cases taken
      | ok sum =>
          rw [added] at taken
          rw [← Except.ok.inj taken, Arguments.eq_of_addPlain added]

/-- An option that waits for its value gets it from the next word. -/
theorem divideFrom_awaiting
    {start arguments : Arguments} {rule : OptionRule} {words : List Text} {final : Progress}
    {command : Option (String × List Text)}
    (divided : grammar.divideFrom (.awaiting start rule) words = .ok ⟨final, command⟩)
    (settles : final.settle = .ok arguments) :
    ∃ value more, words = value :: more ∧ IsPlainWord value ∧
      grammar.divideFrom (.untaken start rule value) more = .ok ⟨final, command⟩ := by
  unfold divideFrom at divided
  split at divided
  · cases divided
    cases settles
  · rename_i value more same
    cases same
    split at divided
    · cases divided
    · rename_i noOption
      refine ⟨value, more, rfl, ?_, divided⟩
      unfold IsPlainWord
      split
      · exact noOption _ _ rfl
      · trivial
  · rename_i notAwaiting
    exact absurd rfl (notAwaiting _ _)

/-- The words that are left for the command that follows. -/
def unread : Option (String × List Text) → List Text
  | none => []
  | some (command, rest) => command.toList :: rest

/-- What is accepted of a command line reads as the arguments that come of it. -/
theorem reads_of_divideFrom
    {words : List Text} {progress final : Progress} {command : Option (String × List Text)}
    {arguments : Arguments}
    (lettersTakeValues : grammar.LettersTakeValues)
    (notAwaiting : ∀ arguments rule, progress ≠ .awaiting arguments rule)
    (divided : grammar.divideFrom progress words = .ok ⟨final, command⟩)
    (settles : final.settle = .ok arguments) :
    ∃ start read said, progress.settle = .ok start ∧ words = read ++ unread command ∧
      (∀ named ∈ command, named.1 ∈ grammar.commands) ∧ grammar.Reads read said ∧
      arguments = ⟨start.options ++ said.options, start.plain ++ said.plain⟩ := by
  match words with
  | [] =>
      rw [divideFrom] at divided
      cases divided
      refine ⟨arguments, [], .none, settles, rfl, fun _ absent => (nomatch absent), .nil, ?_⟩
      rw [Arguments.none, List.append_nil, List.append_nil]
  | word :: rest =>
      rcases divideFrom_cons_cases notAwaiting divided with
        ⟨name, listed, rfl, same⟩ | ⟨start, started, ⟨rfl, same⟩ | ⟨next, taken, divided⟩⟩
      · cases same
        refine ⟨arguments, [], .none, settles, rfl, ?_, .nil, ?_⟩
        · rintro _ ⟨⟩
          exact listed
        rw [Arguments.none, List.append_nil, List.append_nil]
      · cases same
        cases settles
        refine ⟨start, _, ⟨[], rest⟩, started, (List.append_nil _).symm,
          fun _ absent => (nomatch absent), .plainRest rest, ?_⟩
        rw [List.append_nil]
      · rcases takeWord_cases lettersTakeValues taken with
          ⟨name, value, spells, rfl⟩ | ⟨rule, rfl, spells⟩ | ⟨plain, rfl⟩
        · obtain ⟨_, read, said, ⟨⟩, rfl, listed, reads, rfl⟩ :=
            reads_of_divideFrom lettersTakeValues (fun _ _ => Progress.noConfusion) divided settles
          refine ⟨start, _, _, started, rfl, listed, .option spells reads, ?_⟩
          rw [Arguments.added, List.append_assoc, List.singleton_append]
        · obtain ⟨value, more, rfl, plain, divided⟩ := divideFrom_awaiting divided settles
          obtain ⟨_, read, said, added, rfl, listed, reads, rfl⟩ :=
            reads_of_divideFrom lettersTakeValues (fun _ _ => Progress.noConfusion) divided settles
          rw [Arguments.eq_added_of_addOption added]
          refine ⟨start, _, _, started, rfl, listed, .option (spells value plain) reads, ?_⟩
          rw [Arguments.added, List.append_assoc, List.singleton_append]
        · obtain ⟨_, read, said, ⟨⟩, rfl, listed, reads, rfl⟩ :=
            reads_of_divideFrom lettersTakeValues (fun _ _ => Progress.noConfusion) divided settles
          refine ⟨start, _, _, started, rfl, listed, .plain plain reads, ?_⟩
          rw [List.append_assoc, List.singleton_append]
termination_by words.length

theorem reads_of_divide
    {words : List Text} {final : Progress} {command : Option (String × List Text)}
    {arguments : Arguments}
    (lettersTakeValues : grammar.LettersTakeValues)
    (divided : grammar.divide words = .ok ⟨final, command⟩)
    (settles : final.settle = .ok arguments) :
    ∃ read, words = read ++ unread command ∧ (∀ named ∈ command, named.1 ∈ grammar.commands) ∧
      grammar.Reads read arguments := by
  obtain ⟨_, read, said, ⟨⟩, split, listed, reads, rfl⟩ :=
    reads_of_divideFrom lettersTakeValues (fun _ _ => Progress.noConfusion) divided settles
  exact ⟨read, split, listed, reads⟩

end Grammar

end TitleStamp
