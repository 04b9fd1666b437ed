import Mathlib.Data.List.Infix
import TitleStamp.Regex.Search

/-!
# The match at the start of a text

A search keeps a table of the hits of all suffixes.  This module gives the entry of the table for
one suffix as a function of that suffix alone, `Regex.matchAt`, and reads off what a search
finds: the first suffix with a hit.  Repetitions try the longest run first.
-/

namespace TitleStamp

namespace Regex

/-- A given character before what follows. -/
def exactlyAt (expected : Char) (next : Text → Option Hit) : Text → Option Hit
  | [] => none
  | character :: rest => if character = expected then next rest else none

/-- A run of digits before what follows. -/
def digitsAt (next : Text → Option Hit) : Text → Option Hit
  | [] => none
  | character :: rest =>
      if character.isDigit then digitsAt next rest <|> next rest else none

/-- Any characters of the line before what follows. -/
def lineAt (next : Text → Option Hit) : Text → Option Hit
  | [] => next []
  | character :: rest =>
      if character = '\n' then
        next (character :: rest)
      else
        lineAt next rest <|> next (character :: rest)

/-- A group of any characters of the line before what follows. -/
def groupAt (next : Text → Option Hit) : Text → Option Hit
  | [] => (next []).map Hit.openGroup
  | character :: rest =>
      if character = '\n' then
        (next (character :: rest)).map Hit.openGroup
      else
        (groupAt next rest).map (Hit.capture character) <|>
          (next (character :: rest)).map Hit.openGroup

end Regex

/-- The hit of a piece and what follows it at the start of a text. -/
def Piece.matchAt : Piece → (Text → Option Regex.Hit) → Text → Option Regex.Hit
  | .exactly character => Regex.exactlyAt character
  | .digits => Regex.digitsAt
  | .line => Regex.lineAt
  | .group => Regex.groupAt

namespace Regex

/-- The hit of a regular expression at the start of a text. -/
def matchAt : Regex → Text → Option Hit
  | [], text => some ⟨text, none⟩
  | piece :: later, text => piece.matchAt (matchAt later) text

private theorem here_map_tails (next : Text → Option Hit) (text : Text) :
    Hits.here (text.tails.map next) = next text := by
  cases text <;> simp [Hits.here]

private theorem piece_hits_eq
    (piece : Piece) (next : Text → Option Hit) (text : Text) :
    piece.hits text (text.tails.map next) =
      text.tails.map (piece.matchAt next) := by
  induction text with
  | nil =>
      cases piece <;>
        simp [Piece.hits, Piece.matchAt, exactlyHits, digitsHits, lineHits, groupHits,
          exactlyAt, digitsAt, lineAt, groupAt]
  | cons character rest inductionHypothesis =>
      rw [List.tails_cons, List.map_cons, List.map_cons]
      cases piece with
      | exactly expected =>
          change exactlyHits expected rest (rest.tails.map next) = _ at inductionHypothesis
          simp only [Piece.hits, exactlyHits, here_map_tails, inductionHypothesis]
          rfl
      | digits =>
          change digitsHits rest (rest.tails.map next) = _ at inductionHypothesis
          simp only [Piece.hits, digitsHits, here_map_tails, inductionHypothesis]
          rfl
      | line =>
          change lineHits rest (rest.tails.map next) = _ at inductionHypothesis
          simp only [Piece.hits, lineHits, here_map_tails, inductionHypothesis]
          rfl
      | group =>
          change groupHits rest (rest.tails.map next) = _ at inductionHypothesis
          simp only [Piece.hits, groupHits, here_map_tails, inductionHypothesis]
          rfl

/-- The table of a search holds, for every suffix, the hit at the start of that suffix. -/
theorem hits_eq_map_tails (regex : Regex) (text : Text) :
    regex.hits text = text.tails.map (matchAt regex) := by
  induction regex with
  | nil =>
      induction text with
      | nil => simp [hits, emptyHits, matchAt]
      | cons character rest inductionHypothesis =>
          rw [List.tails_cons, List.map_cons, ← inductionHypothesis]
          rfl
  | cons piece later inductionHypothesis =>
      have table : hits (piece :: later) text = piece.hits text (hits later text) := rfl
      rw [table, inductionHypothesis, piece_hits_eq]
      rfl

theorem search_of_matchAt
    {regex : Regex} {text : Text} {hit : Hit}
    (found : matchAt regex text = some hit) :
    regex.search text =
      some ⟨[], text.take (text.length - hit.rest.length), hit.captured, hit.rest⟩ := by
  rw [search, hits_eq_map_tails]
  cases text <;> simp [leftmost, found]

theorem search_nil_of_none
    {regex : Regex}
    (missed : matchAt regex [] = none) :
    regex.search [] = none := by
  simp [search, hits_eq_map_tails, leftmost, missed]

theorem search_cons_of_none
    {regex : Regex} {character : Char} {rest : Text}
    (missed : matchAt regex (character :: rest) = none) :
    regex.search (character :: rest) =
      (regex.search rest).map fun found =>
        ⟨character :: found.before, found.matched, found.captured, found.after⟩ := by
  simp only [search, hits_eq_map_tails, List.tails_cons, List.map_cons, missed, leftmost]

/-- What a search finds is the hit at the first suffix that has one. -/
theorem search_append
    {regex : Regex} {before text : Text} {hit : Hit}
    (missed : ∀ skipped rest, before = skipped ++ rest → rest ≠ [] →
      matchAt regex (rest ++ text) = none)
    (found : matchAt regex text = some hit) :
    regex.search (before ++ text) =
      some ⟨before, text.take (text.length - hit.rest.length), hit.captured, hit.rest⟩ := by
  induction before with
  | nil =>
      exact search_of_matchAt found
  | cons character rest inductionHypothesis =>
      have here := missed [] (character :: rest) rfl (by simp)
      have later :=
        inductionHypothesis fun skipped remaining split =>
          missed (character :: skipped) remaining (by rw [split, List.cons_append])
      rw [List.cons_append] at here ⊢
      rw [search_cons_of_none here, later]
      rfl

end Regex

end TitleStamp
