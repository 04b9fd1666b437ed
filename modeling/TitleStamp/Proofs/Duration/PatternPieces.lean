import Mathlib.Data.List.SplitBy
import TitleStamp.Proofs.Duration.GreedyDigits
import TitleStamp.Proofs.Duration.NamedFields
import TitleStamp.Proofs.Text.Runs

/-!
# The pieces of a duration pattern

A pattern can be read without keeping track of quotes: it is cut at every quote, every second piece
is copied, and each of the others is cut by itself into its longest runs of one repeated character.
The reader that goes through the pattern once finds the same segments, but for the traces of empty
quotations.
-/

namespace TitleStamp

namespace Segment

/-- The segment of a run that is given as a text. -/
def ofRunText (run : Text) : Segment :=
  match run.head?.bind TimeUnit.ofLetter? with
  | some unit => .field unit run.length
  | none => .literal run

/-- What a segment was read from, without quotes. -/
def source : Segment → Text
  | .literal text => text
  | .field unit width => List.replicate width unit.letter

end Segment

/-- The segments of a piece between the quotes of a pattern, by its place among the pieces. -/
def pieceSegments (place : Nat) (piece : Text) : List Segment :=
  if place % 2 = 1 then [.literal piece] else (piece.splitBy (· == ·)).map Segment.ofRunText

/-- The segments of a pattern that is cut at its quotes. -/
def piecewiseSegments (pattern : Text) : List Segment :=
  ((List.splitOn '\'' pattern).mapIdx pieceSegments).flatten

/-! ## Reading one piece -/

section Reading

open Segment

variable {piece rest : Text}

theorem splitBy_replicate_append
    {repeated : Char} {count : Nat} (positive : 0 < count)
    (stops : ∀ character ∈ rest.head?, repeated ≠ character) :
    (List.replicate count repeated ++ rest).splitBy (· == ·) =
      List.replicate count repeated :: rest.splitBy (· == ·) := by
  have apart : ∀ left ∈ (List.replicate count repeated).getLast?,
      ∀ right ∈ rest.head?, (left == right) = false := by
    intro left isLast right isFirst
    have isRepeated := List.eq_of_mem_replicate (List.mem_of_mem_getLast? isLast)
    rw [isRepeated]
    exact beq_false_of_ne (stops right isFirst)
  have single :
      (List.replicate count repeated).splitBy (· == ·) = [List.replicate count repeated] := by
    apply List.splitBy_of_isChain
    · simpa using Nat.ne_of_gt positive
    · exact List.isChain_replicate_of_rel count (beq_self_eq_true repeated)
  rw [List.splitBy_append apart, single, List.singleton_append]

theorem ofRunText_replicate {repeated : Char} {count : Nat} (positive : 0 < count) :
    ofRunText (List.replicate count repeated) = ofRun repeated count := by
  obtain ⟨others, rfl⟩ := Nat.exists_eq_add_of_lt positive
  unfold ofRunText ofRun
  rw [Nat.zero_add, List.replicate_succ, List.head?_cons, Option.bind_some]
  cases TimeUnit.ofLetter? repeated with
  | none => rfl
  | some unit => rw [List.length_cons, List.length_replicate]

/-- A run in hand is read as if it stood in front of what is left of the piece. -/
theorem readFrom_run_append
    (noQuote : '\'' ∉ piece) (stops : ∀ character ∈ rest.head?, character = '\'')
    {repeated : Char} {count : Nat} (positive : 0 < count) :
    readFrom (.run repeated count) (piece ++ rest) =
      ((List.replicate count repeated ++ piece).splitBy (· == ·)).map ofRunText ++
        readFrom .fresh rest := by
  induction piece generalizing repeated count with
  | nil =>
      rw [splitBy_replicate_append positive (by simp), List.splitBy_nil, List.map_cons,
        ofRunText_replicate positive, List.nil_append]
      cases rest with
      | nil => rfl
      | cons first others =>
          have isQuote : first = '\'' := stops first rfl
          rw [isQuote, readFrom, if_pos rfl, readFrom, if_pos rfl]
          rfl
  | cons character piece inductionHypothesis =>
      obtain ⟨notQuote, noQuoteLater⟩ := not_or.mp (mt List.mem_cons.mpr noQuote)
      rw [List.cons_append, readFrom, if_neg (Ne.symm notQuote)]
      by_cases same : character = repeated
      · rw [if_pos same, inductionHypothesis noQuoteLater (Nat.succ_pos count), same,
          List.replicate_succ', List.append_assoc, List.singleton_append]
      · rw [if_neg same, inductionHypothesis noQuoteLater Nat.one_pos,
          splitBy_replicate_append positive (by simpa using Ne.symm same), List.map_cons,
          ofRunText_replicate positive, List.cons_append]
        rfl

theorem readFrom_fresh_append
    (rest : Text) (noQuote : '\'' ∉ piece) (stops : ∀ character ∈ rest.head?, character = '\'') :
    readFrom .fresh (piece ++ rest) =
      (piece.splitBy (· == ·)).map ofRunText ++ readFrom .fresh rest := by
  cases piece with
  | nil => rfl
  | cons character piece =>
      obtain ⟨notQuote, noQuoteLater⟩ := not_or.mp (mt List.mem_cons.mpr noQuote)
      rw [List.cons_append, readFrom, if_neg (Ne.symm notQuote),
        readFrom_run_append noQuoteLater stops Nat.one_pos]
      rfl

theorem readFrom_unclosed (noQuote : '\'' ∉ piece) (text : Text) :
    readFrom (.quoted text) piece = ofQuoted (text ++ piece) := by
  induction piece generalizing text with
  | nil => rw [List.append_nil, readFrom]
  | cons character piece inductionHypothesis =>
      obtain ⟨notQuote, noQuoteLater⟩ := not_or.mp (mt List.mem_cons.mpr noQuote)
      rw [readFrom, if_neg (Ne.symm notQuote), inductionHypothesis noQuoteLater, List.append_assoc]
      rfl

end Reading

/-! ## Reading all pieces -/

/-- A pattern without quotes, or a first piece, a quote and a shorter pattern. -/
theorem quote_induction
    {motive : Text → Prop}
    (unquoted : ∀ piece, '\'' ∉ piece → motive piece)
    (quoted : ∀ piece rest, '\'' ∉ piece → motive rest → motive (piece ++ '\'' :: rest))
    (pattern : Text) : motive pattern := by
  by_cases hasQuote : '\'' ∈ pattern
  · obtain ⟨piece, rest, split, noQuote⟩ := List.eq_append_cons_of_mem hasQuote
    rw [split]
    exact quoted piece rest noQuote (quote_induction unquoted quoted rest)
  · exact unquoted pattern hasQuote
termination_by pattern.length
decreasing_by
  rw [split, List.length_append, List.length_cons]
  omega

theorem pieceSegments_add_two (place : Nat) : pieceSegments (place + 2) = pieceSegments place := by
  funext piece
  rw [pieceSegments, pieceSegments, Nat.add_mod_right]

/-- The segments that leave a trace. -/
def traced (parts : List Segment) : List Segment :=
  parts.filter (· ≠ .literal [])

theorem traced_append (left right : List Segment) :
    traced (left ++ right) = traced left ++ traced right :=
  List.filter_append left right

theorem traced_quoted (piece : Text) : traced [.literal piece] = Segment.ofQuoted piece := by
  cases piece <;> simp [traced, Segment.ofQuoted]

theorem traced_runs (piece : Text) :
    traced ((piece.splitBy (· == ·)).map Segment.ofRunText) =
      (piece.splitBy (· == ·)).map Segment.ofRunText := by
  apply List.filter_eq_self.mpr
  intro part member
  obtain ⟨run, isRun, rfl⟩ := List.mem_map.mp member
  have nonempty := List.ne_nil_of_mem_splitBy isRun
  unfold Segment.ofRunText
  split <;> simp [nonempty]

/-- The reader finds the traced segments, whether the first piece is quoted or not. -/
theorem readFrom_eq_traced (pattern : Text) :
    Segment.readFrom .fresh pattern =
        traced ((List.splitOn '\'' pattern).mapIdx pieceSegments).flatten ∧
      Segment.readFrom (.quoted []) pattern =
        traced ((List.splitOn '\'' pattern).mapIdx
          fun place => pieceSegments (place + 1)).flatten := by
  induction pattern using quote_induction with
  | unquoted piece noQuote =>
      rw [List.splitOn_eq_singleton noQuote]
      constructor
      · have outside := readFrom_fresh_append [] noQuote (by simp)
        rw [List.append_nil] at outside
        simp [outside, pieceSegments, traced_runs, Segment.readFrom]
      · simp [readFrom_unclosed noQuote, pieceSegments, traced_quoted]
  | quoted piece rest noQuote inductionHypothesis =>
      obtain ⟨fresh, inside⟩ := inductionHypothesis
      rw [List.splitOn_append_cons_self_of_not_mem noQuote, List.mapIdx_cons, List.mapIdx_cons,
        List.flatten_cons, List.flatten_cons, traced_append, traced_append, ← inside]
      constructor
      · have outside := readFrom_fresh_append ('\'' :: rest) noQuote (by simp)
        rw [outside, Segment.readFrom, if_pos rfl]
        simp [pieceSegments, traced_runs]
      · have shifted : (fun place => pieceSegments (place + 1 + 1)) = pieceSegments := by
          funext place
          exact pieceSegments_add_two place
        rw [shifted, ← fresh, readFrom_quoted noQuote, List.nil_append]
        simp [pieceSegments, traced_quoted]

theorem segments_eq_traced (pattern : Text) :
    segments pattern = traced (piecewiseSegments pattern) :=
  (readFrom_eq_traced pattern).1

/-! ## What the pieces show -/

theorem source_ofRunText {run piece : Text} (isRun : run ∈ piece.splitBy (· == ·)) :
    (Segment.ofRunText run).source = run := by
  have repeated : run.IsChain fun left right => left = right :=
    (List.isChain_of_mem_splitBy isRun).imp fun _ _ same => eq_of_beq same
  unfold Segment.ofRunText
  split
  · rename_i unit found
    obtain ⟨letter, isFirst, isLetter⟩ := Option.bind_eq_some_iff.mp found
    have isUnit : unit.letter = letter := by
      simpa using List.find?_some isLetter
    rw [Segment.source, isUnit]
    exact (List.isChain_eq_iff_eq_replicate.mp repeated letter isFirst).symm
  · rfl

theorem flatMap_source_pieceSegments (place : Nat) (piece : Text) :
    (pieceSegments place piece).flatMap Segment.source = piece := by
  unfold pieceSegments
  split
  · exact List.append_nil piece
  · have copied :
        (piece.splitBy (· == ·)).map (fun run => (Segment.ofRunText run).source) =
          (piece.splitBy (· == ·)).map id :=
      List.map_congr_left fun _ isRun => source_ofRunText isRun
    rw [List.flatMap_map, List.flatMap_def, copied, List.map_id, List.flatten_splitBy]

/-- The segments of the pieces were read from the pieces. -/
theorem flatMap_source_pieces (pieces : List Text) (place : Nat) :
    (pieces.mapIdx fun shift => pieceSegments (shift + place)).flatten.flatMap Segment.source =
      pieces.flatten := by
  induction pieces generalizing place with
  | nil => rfl
  | cons piece pieces inductionHypothesis =>
      have later := inductionHypothesis (place + 1)
      simp only [← Nat.add_assoc, Nat.add_right_comm _ place 1] at later
      rw [List.mapIdx_cons, List.flatten_cons, List.flatMap_append, flatMap_source_pieceSegments,
        later, List.flatten_cons]

theorem flatten_splitOn_quote (pattern : Text) :
    (List.splitOn '\'' pattern).flatten = pattern.filter (· ≠ '\'') := by
  have unchanged {piece : Text} (noQuote : '\'' ∉ piece) :
      piece.filter (· ≠ '\'') = piece := by
    apply List.filter_eq_self.mpr
    intro character member
    apply decide_eq_true
    exact ne_of_mem_of_not_mem member noQuote
  induction pattern using quote_induction with
  | unquoted piece noQuote =>
      rw [List.splitOn_eq_singleton noQuote, unchanged noQuote, List.flatten_singleton]
  | quoted piece rest noQuote inductionHypothesis =>
      rw [List.splitOn_append_cons_self_of_not_mem noQuote, List.flatten_cons, inductionHypothesis,
        List.filter_append, unchanged noQuote, List.filter_cons_of_neg (by simp)]

/-- Empty literals contribute neither text nor units. -/
theorem flatMap_traced
    {text : Segment → Text} (silent : text (.literal []) = []) (parts : List Segment) :
    (traced parts).flatMap text = parts.flatMap text := by
  induction parts with
  | nil => rfl
  | cons part parts inductionHypothesis =>
      rw [← List.singleton_append, traced_append, List.flatMap_append, List.flatMap_append,
        inductionHypothesis]
      by_cases empty : part = .literal []
      · simp [traced, empty, silent]
      · simp [traced, empty]

theorem fieldUnits_traced (parts : List Segment) :
    fieldUnits (traced parts) = fieldUnits parts := by
  unfold fieldUnits traced
  rw [List.filterMap_filter]
  congr 1
  apply List.filterMap_congr
  intro part _
  cases part <;> simp [Segment.unit?]

/-- A formatted duration is read off the pieces of its pattern.  What is copied shows itself, and a
field shows the greedy digit of its unit as a numeral of its width.  The pieces hold every character
of the pattern but the quotes, in order. -/
theorem format_piecewise (duration : Duration) (pattern : Text) :
    ∃ (digit : TimeUnit → Int) (left : Nat) (shown : Segment → Text),
      duration.format pattern = (piecewiseSegments pattern).flatMap shown ∧
        (∀ text, shown (.literal text) = text) ∧
        (∀ unit width, .field unit width ∈ piecewiseSegments pattern →
          IsNumeral width (digit unit) (shown (.field unit width))) ∧
        IsGreedy ((piecewiseSegments pattern).filterMap Segment.unit?).toFinset duration.millis
          digit left ∧
        segments pattern = (piecewiseSegments pattern).filter (· ≠ .literal []) ∧
        (piecewiseSegments pattern).flatMap Segment.source = pattern.filter (· ≠ '\'') := by
  let set := fieldUnits (piecewiseSegments pattern)
  have formatted :
      duration.format pattern =
        (piecewiseSegments pattern).flatMap (Segment.shown (fieldValues duration set)) := by
    rw [Duration.format, segments_eq_traced, fieldUnits_traced]
    exact flatMap_traced rfl _
  have kept :
      (piecewiseSegments pattern).flatMap Segment.source = pattern.filter (· ≠ '\'') := by
    rw [piecewiseSegments, ← flatten_splitOn_quote]
    exact flatMap_source_pieces (List.splitOn '\'' pattern) 0
  refine ⟨fun unit => duration.millis.sign * unitCount set.units duration.millis.natAbs unit,
    leftover set.units duration.millis.natAbs, Segment.shown (fieldValues duration set),
    formatted, fun _ => rfl, fun unit width _ => isNumeral_shown duration set unit width, ?_,
    segments_eq_traced pattern, kept⟩
  rw [← toFinset_units_fieldUnits]
  exact isGreedy_unitCount set duration.millis

-- the empty quotation leaves no literal, but it keeps the letters around it apart
example :
    segments "h'h'h''h".toList =
      [.field .hour 1, .literal ['h'], .field .hour 1, .field .hour 1] := by
  decide

end TitleStamp
