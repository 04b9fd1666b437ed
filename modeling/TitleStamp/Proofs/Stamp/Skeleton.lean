import Mathlib.Tactic.ByContra
import TitleStamp.Proofs.Text.Runs

/-!
# The skeleton of a text

The skeleton of a text shows every longest run of digits by one mark and every other character by
itself.  The skeletons of two parts determine the skeleton of the whole, and a number shows one
mark whatever its digits are.
-/

namespace TitleStamp

/-- What a character shows in a skeleton.  Digits show no face. -/
def face (character : Char) : Option Char :=
  if character.isDigit then none else some character

/-- Keeps one mark of every run of marks without a face. -/
def collapse : List (Option Char) → List (Option Char)
  | [] => []
  | some character :: rest => some character :: collapse rest
  | none :: rest => if rest.head? = some none then collapse rest else none :: collapse rest

/-- The text with every longest run of digits collapsed to one mark. -/
def skeleton (text : Text) : List (Option Char) :=
  collapse (text.map face)

theorem head?_collapse (marks : List (Option Char)) :
    (collapse marks).head? = marks.head? := by
  induction marks with
  | nil => rfl
  | cons mark rest inductionHypothesis =>
      cases mark with
      | some character => rfl
      | none =>
          rw [collapse]
          split
          · rename_i repeated
            rw [inductionHypothesis, repeated, List.head?_cons]
          · rfl

theorem collapse_append_collapse (left right : List (Option Char)) :
    collapse (left ++ collapse right) = collapse (left ++ right) := by
  induction left with
  | nil =>
      induction right with
      | nil => rfl
      | cons mark rest inductionHypothesis =>
          rw [List.nil_append, List.nil_append] at inductionHypothesis ⊢
          cases mark with
          | some character =>
              rw [collapse, collapse, inductionHypothesis]
          | none =>
              by_cases repeated : rest.head? = some none
              · rw [collapse, if_pos repeated, inductionHypothesis]
              · have notRepeated : (collapse rest).head? ≠ some none := by
                  rwa [head?_collapse]
                rw [collapse, if_neg repeated, collapse, if_neg notRepeated,
                  inductionHypothesis]
  | cons mark left inductionHypothesis =>
      rw [List.cons_append, List.cons_append]
      cases mark with
      | some character =>
          rw [collapse, collapse, inductionHypothesis]
      | none =>
          have sameHead : (left ++ collapse right).head? = (left ++ right).head? := by
            rw [List.head?_append, List.head?_append, head?_collapse]
          rw [collapse, collapse, sameHead, inductionHypothesis]

theorem collapse_collapse_append (left right : List (Option Char)) :
    collapse (collapse left ++ right) = collapse (left ++ right) := by
  induction left with
  | nil => rfl
  | cons mark left inductionHypothesis =>
      cases mark with
      | some character =>
          rw [collapse, List.cons_append, List.cons_append, collapse, collapse,
            inductionHypothesis]
      | none =>
          by_cases repeated : left.head? = some none
          · have appended : (left ++ right).head? = some none := by
              rw [List.head?_append, repeated]
              rfl
            rw [collapse, if_pos repeated, inductionHypothesis, List.cons_append, collapse,
              if_pos appended]
          · have sameHead : (collapse left ++ right).head? = (left ++ right).head? := by
              rw [List.head?_append, List.head?_append, head?_collapse]
            rw [collapse, if_neg repeated, List.cons_append, List.cons_append, collapse,
              collapse, sameHead, inductionHypothesis]

/-- The skeletons of two parts determine the skeleton of the whole. -/
theorem skeleton_append (left right : Text) :
    skeleton (left ++ right) = collapse (skeleton left ++ skeleton right) := by
  rw [skeleton, skeleton, skeleton, collapse_append_collapse, collapse_collapse_append,
    List.map_append]

theorem skeleton_cons_of_not_digit
    {character : Char} (rest : Text)
    (notDigit : character.isDigit = false) :
    skeleton (character :: rest) = some character :: skeleton rest := by
  simp [skeleton, face, notDigit, collapse]

theorem head?_skeleton_ne_none_iff {text : Text} :
    (skeleton text).head? ≠ some none ↔ Text.StartsOutside Char.isDigit text := by
  rw [skeleton, head?_collapse]
  cases text with
  | nil => simp [Text.StartsOutside]
  | cons character rest => simp [Text.StartsOutside, face]

theorem skeleton_cons_of_digit
    {character : Char} {rest : Text}
    (digit : character.isDigit = true)
    (stops : Text.StartsOutside Char.isDigit rest) :
    skeleton (character :: rest) = none :: skeleton rest := by
  have noMark := head?_skeleton_ne_none_iff.mpr stops
  rw [skeleton, head?_collapse] at noMark
  have mark : face character = none := if_pos digit
  rw [skeleton, List.map_cons, mark, collapse, if_neg noMark]
  rfl

theorem skeleton_cons_of_repeated_digit
    {character : Char} {rest : Text}
    (digit : character.isDigit = true)
    (repeated : ¬Text.StartsOutside Char.isDigit rest) :
    skeleton (character :: rest) = skeleton rest := by
  have mark : (skeleton rest).head? = some none := by
    by_contra noMark
    exact repeated (head?_skeleton_ne_none_iff.mp noMark)
  rw [skeleton, head?_collapse] at mark
  have noFace : face character = none := if_pos digit
  rw [skeleton, List.map_cons, noFace, collapse, if_pos mark]
  rfl

/-- A run of digits in front shows one mark. -/
theorem skeleton_digits_append
    {run rest : Text}
    (nonempty : run ≠ [])
    (digits : ∀ character ∈ run, character.isDigit = true)
    (stops : Text.StartsOutside Char.isDigit rest) :
    skeleton (run ++ rest) = none :: skeleton rest := by
  induction run with
  | nil =>
      exact absurd rfl nonempty
  | cons first run inductionHypothesis =>
      have firstDigit := digits first (by simp)
      cases run with
      | nil =>
          exact skeleton_cons_of_digit firstDigit stops
      | cons second run =>
          have repeated : ¬Text.StartsOutside Char.isDigit (second :: run ++ rest) := by
            simp [Text.StartsOutside, digits second]
          have later :=
            inductionHypothesis (by simp) fun other member =>
              digits other (List.mem_cons_of_mem _ member)
          rw [List.cons_append, skeleton_cons_of_repeated_digit firstDigit repeated, later]

theorem mem_skeleton
    {character : Char} {text : Text}
    (notDigit : character.isDigit = false)
    (member : character ∈ text) :
    some character ∈ skeleton text := by
  induction text with
  | nil =>
      cases member
  | cons first rest inductionHypothesis =>
      by_cases digit : first.isDigit = true
      · have later : character ∈ rest := by
          rcases List.mem_cons.mp member with rfl | later
          · rw [notDigit] at digit
            cases digit
          · exact later
        by_cases stops : Text.StartsOutside Char.isDigit rest
        · rw [skeleton_cons_of_digit digit stops]
          exact List.mem_cons_of_mem _ (inductionHypothesis later)
        · rw [skeleton_cons_of_repeated_digit digit stops]
          exact inductionHypothesis later
      · rw [skeleton_cons_of_not_digit _ (by simpa using digit)]
        rcases List.mem_cons.mp member with rfl | later
        · exact List.mem_cons_self
        · exact List.mem_cons_of_mem _ (inductionHypothesis later)

theorem skeleton_eq_nil_iff {text : Text} : skeleton text = [] ↔ text = [] := by
  rw [← List.head?_eq_none_iff, skeleton, head?_collapse, List.head?_eq_none_iff,
    List.map_eq_nil_iff]

theorem eq_cons_of_skeleton_eq
    {character : Char} {text : Text} {marks : List (Option Char)}
    (shown : skeleton text = some character :: marks) :
    ∃ rest, text = character :: rest ∧ skeleton rest = marks := by
  cases text with
  | nil =>
      cases shown
  | cons first rest =>
      by_cases digit : first.isDigit = true
      · have marked : ¬Text.StartsOutside Char.isDigit (first :: rest) := by
          simp [Text.StartsOutside, digit]
        rw [← head?_skeleton_ne_none_iff, shown] at marked
        simp at marked
      · rw [skeleton_cons_of_not_digit _ (by simpa using digit)] at shown
        obtain ⟨sameFirst, sameRest⟩ := List.cons.inj shown
        exact ⟨rest, by rw [Option.some.inj sameFirst], sameRest⟩

theorem eq_digits_append_of_skeleton_eq
    {text : Text} {marks : List (Option Char)}
    (shown : skeleton text = none :: marks) :
    ∃ run rest, text = run ++ rest ∧ run ≠ [] ∧
      (∀ character ∈ run, character.isDigit = true) ∧ skeleton rest = marks := by
  have parts : text.takeWhile Char.isDigit ++ text.dropWhile Char.isDigit = text :=
    List.takeWhile_append_dropWhile
  have digits : ∀ character ∈ text.takeWhile Char.isDigit, character.isDigit = true :=
    List.all_eq_true.mp List.all_takeWhile
  have stops : Text.StartsOutside Char.isDigit (text.dropWhile Char.isDigit) :=
    Text.startsOutside_dropWhile Char.isDigit text
  have nonempty : text.takeWhile Char.isDigit ≠ [] := by
    intro empty
    rw [empty, List.nil_append] at parts
    rw [parts, ← head?_skeleton_ne_none_iff, shown] at stops
    exact stops rfl
  have marked := skeleton_digits_append nonempty digits stops
  rw [parts, shown] at marked
  exact ⟨_, _, parts.symm, nonempty, digits, (List.cons.inj marked).2.symm⟩

end TitleStamp
