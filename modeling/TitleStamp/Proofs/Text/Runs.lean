import TitleStamp.Text.Basic

/-!
# Runs of a class of characters

Readers take the longest run of characters of one class.  Such a run ends where the rest of the
text starts outside the class.
-/

namespace TitleStamp.Text

section Decidability

-- There are finitely many characters, and a statement about the characters of a text must not be
-- decided by going through all of them.

variable (property : Char → Prop) [DecidablePred property]

instance (priority := 2000) (text : Text) : Decidable (∀ character ∈ text, property character) :=
  List.decidableBAll property text

instance (priority := 2000) (first : Option Char) :
    Decidable (∀ character ∈ first, property character) :=
  Option.decidableForallMem first

end Decidability

/-- The text is empty or starts with a character outside the class. -/
def StartsOutside (inClass : Char → Bool) (text : Text) : Prop :=
  ∀ character ∈ text.head?, inClass character = false

instance (inClass : Char → Bool) (text : Text) : Decidable (StartsOutside inClass text) :=
  inferInstanceAs (Decidable (∀ character ∈ text.head?, inClass character = false))

variable {inClass : Char → Bool} {run rest : Text}

theorem startsOutside_nil : StartsOutside inClass [] := by
  simp [StartsOutside]

theorem startsOutside_cons {character : Char} :
    StartsOutside inClass (character :: rest) ↔ inClass character = false := by
  simp [StartsOutside]

theorem startsOutside_of_forall (outside : ∀ character ∈ run, inClass character = false) :
    StartsOutside inClass run :=
  fun character isFirst => outside character (List.mem_of_mem_head? isFirst)

theorem startsOutside_append
    (runOutside : StartsOutside inClass run)
    (restOutside : StartsOutside inClass rest) :
    StartsOutside inClass (run ++ rest) := by
  cases run with
  | nil => exact restOutside
  | cons first others =>
      exact startsOutside_cons.mpr (startsOutside_cons.mp runOutside)

theorem startsOutside_dropWhile (inClass : Char → Bool) (text : Text) :
    StartsOutside inClass (text.dropWhile inClass) := by
  intro character isFirst
  have outside := List.head?_dropWhile_not inClass text
  rw [isFirst] at outside
  simpa using outside

theorem takeWhile_of_startsOutside (stops : StartsOutside inClass rest) :
    rest.takeWhile inClass = [] := by
  cases rest with
  | nil => rfl
  | cons first others =>
      have outside := startsOutside_cons.mp stops
      simp [outside]

theorem dropWhile_of_startsOutside (stops : StartsOutside inClass rest) :
    rest.dropWhile inClass = rest := by
  cases rest with
  | nil => rfl
  | cons first others =>
      have outside := startsOutside_cons.mp stops
      simp [outside]

theorem takeWhile_append_of_startsOutside
    (inside : ∀ character ∈ run, inClass character = true)
    (stops : StartsOutside inClass rest) :
    (run ++ rest).takeWhile inClass = run := by
  rw [List.takeWhile_append_of_pos inside, takeWhile_of_startsOutside stops, List.append_nil]

theorem dropWhile_append_of_startsOutside
    (inside : ∀ character ∈ run, inClass character = true)
    (stops : StartsOutside inClass rest) :
    (run ++ rest).dropWhile inClass = rest := by
  rw [List.dropWhile_append_of_pos inside, dropWhile_of_startsOutside stops]

/-- What starts outside the class does not go on with the run that a text starts with. -/
theorem takeWhile_append_stopped (text : Text) (stops : StartsOutside inClass rest) :
    (text ++ rest).takeWhile inClass = text.takeWhile inClass := by
  induction text with
  | nil => exact takeWhile_of_startsOutside stops
  | cons character text inductionHypothesis =>
      rw [List.cons_append, List.takeWhile_cons, List.takeWhile_cons, inductionHypothesis]

theorem dropWhile_append_stopped (text : Text) (stops : StartsOutside inClass rest) :
    (text ++ rest).dropWhile inClass = text.dropWhile inClass ++ rest := by
  induction text with
  | nil => exact dropWhile_of_startsOutside stops
  | cons character text inductionHypothesis =>
      rw [List.cons_append, List.dropWhile_cons, List.dropWhile_cons, inductionHypothesis]
      split <;> rfl

/-- Characters of one class that start a text are part of the run that it starts with. -/
theorem isPrefix_append_iff
    {start : Text}
    (inside : ∀ character ∈ start, inClass character = true)
    (stops : StartsOutside inClass rest) :
    start <+: run ++ rest ↔ start <+: run := by
  refine ⟨?_, fun within => within.trans (List.prefix_append run rest)⟩
  rintro ⟨remaining, split⟩
  rcases List.append_eq_append_iff.mp split with ⟨more, run_eq, _⟩ | ⟨more, start_eq, rest_eq⟩
  · exact ⟨more, run_eq.symm⟩
  · cases more with
    | nil => exact ⟨[], by rw [start_eq, List.append_nil, List.append_nil]⟩
    | cons first others =>
        have outside : inClass first = false := stops first (by rw [rest_eq]; rfl)
        rw [inside first (by simp [start_eq])] at outside
        cases outside

/-- The characters that may go on with a decimal numeral after its digits. -/
def continuesNumeral (character : Char) : Bool :=
  character.isDigit || character = '.' || character = 'e' || character = 'E'

theorem startsOutside_isDigit_of_continuesNumeral (stops : StartsOutside continuesNumeral rest) :
    StartsOutside Char.isDigit rest := by
  intro character isFirst
  have outside := stops character isFirst
  simp only [continuesNumeral, Bool.or_eq_false_iff] at outside
  exact outside.1.1.1

end TitleStamp.Text

namespace TitleStamp

/-! ## Numerals of a width -/

theorem isDigit_of_mem_ofNat
    {number : Nat} {character : Char} (member : character ∈ Text.ofNat number) :
    character.isDigit = true :=
  Nat.isDigit_of_mem_toDigits (by decide) (by decide) member

theorem isDigit_of_mem_padLeft
    {width number : Nat} {character : Char}
    (member : character ∈ padLeft width (Text.ofNat number)) :
    character.isDigit = true := by
  rcases List.mem_append.mp member with isZero | inNumeral
  · rw [List.eq_of_mem_replicate isZero]
    rfl
  · exact isDigit_of_mem_ofNat inNumeral

theorem padLeft_ne_nil (width number : Nat) :
    padLeft width (Text.ofNat number) ≠ [] :=
  List.append_ne_nil_of_right_ne_nil _ Nat.toDigits_ne_nil

end TitleStamp
