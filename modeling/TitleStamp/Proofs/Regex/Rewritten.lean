import Mathlib.Data.List.Basic
import TitleStamp.Proofs.Regex.Written
import TitleStamp.Proofs.Text.Replace

/-!
# Replacing whole pieces of a written regular expression

A replacement in a written regular expression could cut an escape or a group in two.  It does not
if its matches start with a character that only starts pieces and end with one that only ends
pieces.  Then what it gives is the written form of a regular expression again, and `Rewritten`
says which.
-/

namespace TitleStamp

namespace Piece

/-- The character stands in no written piece but at its start. -/
def OnlyFirst (first : Char) : Prop :=
  ∀ piece : Piece, first ∉ piece.written.tail

/-- The character stands in no written piece but at its end. -/
def OnlyLast (last : Char) : Prop :=
  ∀ piece : Piece, last ∉ piece.written.dropLast

theorem OnlyFirst.front_eq_nil
    {piece : Piece} {first : Char} {front back : Text}
    (onlyFirst : OnlyFirst first)
    (parts : piece.written = front ++ first :: back) :
    front = [] := by
  have absent := onlyFirst piece
  cases front with
  | nil => rfl
  | cons character others => simp [parts] at absent

theorem OnlyLast.back_eq_nil
    {piece : Piece} {last : Char} {front back : Text}
    (onlyLast : OnlyLast last)
    (parts : piece.written = front ++ last :: back) :
    back = [] := by
  have absent := onlyLast piece
  cases back with
  | nil => rfl
  | cons character others => simp [parts] at absent

end Piece

/-- What the finder finds starts where a piece starts and ends where a piece ends. -/
def Finder.FindsPieces (find : Finder) : Prop :=
  ∀ text rest, find text = some rest →
    ∃ matched, text = matched ++ rest ∧
      (∃ first ∈ matched.head?, Piece.OnlyFirst first) ∧
      (∃ last ∈ matched.getLast?, Piece.OnlyLast last)

namespace Regex

/-- A written expression is cut between two pieces behind a character that only ends pieces. -/
theorem exists_cut
    {regex : Regex} {front back : Text} {last : Char}
    (isLast : last ∈ front.getLast?)
    (onlyLast : Piece.OnlyLast last)
    (split : regex.written = front ++ back) :
    ∃ removed kept, regex = removed ++ kept ∧ removed ≠ [] ∧ front = removed.written ∧
      back = kept.written := by
  have frontNonempty : front ≠ [] := by
    rintro rfl
    cases isLast
  induction regex generalizing front with
  | nil =>
      exact absurd (List.append_eq_nil_iff.mp split.symm).1 frontNonempty
  | cons piece later inductionHypothesis =>
      rw [written_cons] at split
      rcases List.append_eq_append_iff.mp split with
        ⟨more, frontParts, laterParts⟩ | ⟨more, pieceParts, backParts⟩
      · by_cases empty : more = []
        · subst empty
          rw [List.append_nil] at frontParts
          exact ⟨[piece], later, rfl, by simp, by simp [frontParts], laterParts.symm⟩
        · have isLastOfMore : last ∈ more.getLast? := by
            rwa [frontParts, List.getLast?_append_of_ne_nil _ empty] at isLast
          obtain ⟨removed, kept, parts, _, rfl, rfl⟩ :=
            inductionHypothesis isLastOfMore laterParts empty
          exact ⟨piece :: removed, kept, by rw [parts, List.cons_append], by simp,
            by rw [frontParts, written_cons], rfl⟩
      · obtain ⟨initial, rfl⟩ := List.getLast?_eq_some_iff.mp isLast
        rw [List.append_assoc] at pieceParts
        obtain rfl := onlyLast.back_eq_nil pieceParts
        exact ⟨[piece], later, rfl, by simp, by simpa using pieceParts.symm, backParts⟩

variable {find : Finder}

theorem written_ne_nil {regex : Regex} (nonempty : regex ≠ []) : regex.written ≠ [] := by
  cases regex with
  | nil => exact absurd rfl nonempty
  | cons piece later =>
      rw [written_cons]
      exact List.append_ne_nil_of_left_ne_nil (written_piece_ne_nil piece) _

theorem exists_pieces_of_find
    {regex : Regex} {rest : Text}
    (findsPieces : find.FindsPieces)
    (found : find regex.written = some rest) :
    ∃ removed kept, regex = removed ++ kept ∧ removed ≠ [] ∧ rest = kept.written := by
  obtain ⟨matched, split, _, last, isLast, onlyLast⟩ := findsPieces _ _ found
  obtain ⟨removed, kept, parts, nonempty, _, restParts⟩ := exists_cut isLast onlyLast split
  exact ⟨removed, kept, parts, nonempty, restParts⟩

/-- Where nothing is found at the start of a piece, nothing is found within it. -/
theorem misses_piece
    {piece : Piece} {later : Regex}
    (findsPieces : find.FindsPieces)
    (missed : find (written (piece :: later)) = none) :
    find.Misses piece.written later.written := by
  intro skipped rest split nonempty
  cases found : find (rest ++ later.written) with
  | none => rfl
  | some remainder =>
      -- What is found starts with a character that the piece has at its start only.
      obtain ⟨matched, parts, ⟨first, isFirst, onlyFirst⟩, _⟩ := findsPieces _ _ found
      have isFirstOfRest : rest.head? = some first := by
        cases rest with
        | nil => exact absurd rfl nonempty
        | cons character others =>
            have sameHead := congrArg List.head? parts
            rwa [List.cons_append, List.head?_cons, List.head?_append, isFirst] at sameHead
      obtain ⟨others, rfl⟩ := List.head?_eq_some_iff.mp isFirstOfRest
      obtain rfl := onlyFirst.front_eq_nil split
      rw [List.nil_append] at split
      rw [written_cons, split, found] at missed
      cases missed

/-- A rewrite of a written expression gives a written expression of old and new pieces. -/
theorem exists_replaceFirst
    (findsPieces : find.FindsPieces) (inserted regex : Regex) :
    ∃ result : Regex,
      Text.replaceFirst find inserted.written regex.written = result.written ∧
        result ⊆ inserted ++ regex := by
  induction regex with
  | nil => exact ⟨[], rfl, List.nil_subset _⟩
  | cons piece later inductionHypothesis =>
      obtain ⟨result, replaced, subset⟩ := inductionHypothesis
      cases found : find (written (piece :: later)) with
      | some rest =>
          obtain ⟨removed, kept, parts, _, rfl⟩ := exists_pieces_of_find findsPieces found
          have nonempty : written (piece :: later) ≠ [] :=
            written_ne_nil (List.cons_ne_nil piece later)
          refine ⟨inserted ++ kept, ?_, ?_⟩
          · rw [Text.replaceFirst_of_find nonempty found, written_append]
          · rw [parts]
            intro member inside
            rcases List.mem_append.mp inside with inInserted | inKept
            · simp [inInserted]
            · simp [inKept]
      | none =>
          refine ⟨piece :: result, ?_, ?_⟩
          · rw [written_cons, Text.replaceFirst_append (misses_piece findsPieces found), replaced,
              written_cons]
          · intro member inside
            rcases List.mem_cons.mp inside with rfl | inResult
            · simp
            · have old := subset inResult
              rw [List.mem_append] at old ⊢
              exact old.imp_right (List.mem_cons_of_mem piece)

/-- The second expression is the first one with the parts replaced that the finder finds in its
written form, from left to right. -/
inductive Rewritten (find : Finder) (inserted : Regex) : Regex → Regex → Prop
  | nil : Rewritten find inserted [] []
  | keep {piece : Piece} {later result : Regex} :
      find (written (piece :: later)) = none →
      Rewritten find inserted later result →
      Rewritten find inserted (piece :: later) (piece :: result)
  | replace {removed kept result : Regex} :
      removed ≠ [] →
      find (written (removed ++ kept)) = some (written kept) →
      Rewritten find inserted kept result →
      Rewritten find inserted (removed ++ kept) (inserted ++ result)

theorem exists_rewritten
    (findsPieces : find.FindsPieces) (inserted regex : Regex) :
    ∃ result, Rewritten find inserted regex result ∧
      Text.replaceAll find inserted.written regex.written = result.written := by
  induction size : regex.length using Nat.strongRecOn generalizing regex with
  | ind bound inductionHypothesis =>
      cases regex with
      | nil => exact ⟨[], .nil, rfl⟩
      | cons piece later =>
          cases found : find (written (piece :: later)) with
          | some rest =>
              obtain ⟨removed, kept, parts, nonempty, rfl⟩ :=
                exists_pieces_of_find findsPieces found
              rw [parts] at found size ⊢
              have shorter : kept.length < bound := by
                have positive := List.length_pos_iff.mpr nonempty
                rw [← size, List.length_append]
                omega
              obtain ⟨result, rewritten, replaced⟩ :=
                inductionHypothesis kept.length shorter kept rfl
              refine ⟨inserted ++ result, .replace nonempty found rewritten, ?_⟩
              rw [written_append] at found ⊢
              rw [Text.replaceAll_of_find (written_ne_nil nonempty) found, replaced,
                written_append]
          | none =>
              obtain ⟨result, rewritten, replaced⟩ :=
                inductionHypothesis later.length (by simp [← size]) later rfl
              refine ⟨piece :: result, .keep found rewritten, ?_⟩
              rw [written_cons, Text.replaceAll_append (misses_piece findsPieces found), replaced,
                written_cons]

end Regex

end TitleStamp
