import Mathlib.Data.List.Chain
import TitleStamp.Proofs.Template.Grammar
import TitleStamp.Template.Trace

/-!
# The trace of a pattern is its parse

The tokens of a trace split the pattern without gap or overlap, and each of them is what the
grammar demands at the place where it starts.  No other split of the pattern is like that: the
values of the placeholders have no part in it.
-/

namespace TitleStamp

namespace Text

theorem byteLength_append (left right : Text) :
    byteLength (left ++ right) = byteLength left + byteLength right := by
  induction left with
  | nil => rw [List.nil_append, byteLength, Nat.zero_add]
  | cons character rest inductionHypothesis =>
      rw [List.cons_append, byteLength, byteLength, inductionHypothesis, Nat.add_assoc]

theorem byteLength_pos {text : Text} (nonempty : text ≠ []) : 0 < byteLength text := by
  cases text with
  | nil => exact absurd rfl nonempty
  | cons character rest =>
      have size := character.utf8Size_pos
      rw [byteLength]
      omega

/-- Two starts of one text that have as many bytes are the same. -/
theorem append_inj_of_byteLength_eq
    {left right leftRest rightRest : Text}
    (sameBytes : byteLength left = byteLength right)
    (same : left ++ leftRest = right ++ rightRest) :
    left = right ∧ leftRest = rightRest := by
  rcases List.append_eq_append_iff.mp same with ⟨more, rfl, rfl⟩ | ⟨more, rfl, rfl⟩
  all_goals
    rw [byteLength_append] at sameBytes
    have empty : more = [] := by
      by_contra nonempty
      have positive := byteLength_pos nonempty
      omega
    simp [empty]

end Text

/-- The token without the text that it rendered to. -/
def Token.outline (token : Token) : TokenKind × Nat × Nat × Text :=
  (token.kind, token.start, token.stop, token.source)

/-- The token spans the bytes of the lexeme that the grammar demands where it starts. -/
def Token.DemandedIn (pattern : Text) (token : Token) : Prop :=
  ∃ before lexeme rest,
    pattern = before ++ (lexeme.source ++ rest) ∧
    Lexeme.Demanded (lexeme.source ++ rest) lexeme ∧
    token.outline =
      (lexeme.kind, Text.byteLength before, Text.byteLength (before ++ lexeme.source),
        lexeme.source)

/-- Tokens that split a pattern as its grammar demands. -/
structure Parses (pattern : Text) (tokens : List Token) : Prop where
  sources_eq : tokens.flatMap Token.source = pattern
  first_start : ∀ token ∈ tokens.head?, token.start = 0
  last_stop : ∀ token ∈ tokens.getLast?, token.stop = Text.byteLength pattern
  adjacent : tokens.IsChain fun left right => left.stop = right.start
  start_lt_stop : ∀ token ∈ tokens, token.start < token.stop
  demanded : ∀ token ∈ tokens, token.DemandedIn pattern
  literal_value : ∀ token ∈ tokens, token.kind = .literal → token.value = token.source

theorem Token.DemandedIn.start_lt_stop
    {pattern : Text} {token : Token}
    (demanded : token.DemandedIn pattern) :
    token.start < token.stop := by
  obtain ⟨before, lexeme, rest, _, grammar, outlined⟩ := demanded
  simp only [Token.outline, Prod.mk.injEq] at outlined
  obtain ⟨_, start, stop, _⟩ := outlined
  have positive :=
    Text.byteLength_pos (source_ne_nil (Lexeme.firstLexeme_eq_some_iff.mpr grammar))
  rw [start, stop, Text.byteLength_append]
  omega

section Placing

variable (values : Variables)

theorem flatMap_source_placeLexemes (start : Nat) (found : List Lexeme) :
    (placeLexemes values start found).flatMap Token.source = found.flatMap Lexeme.source := by
  induction found generalizing start with
  | nil => rfl
  | cons lexeme later inductionHypothesis =>
      rw [placeLexemes, List.flatMap_cons, List.flatMap_cons, inductionHypothesis]

theorem start_of_head?_placeLexemes {start : Nat} {found : List Lexeme} {token : Token}
    (isFirst : token ∈ (placeLexemes values start found).head?) :
    token.start = start := by
  cases found with
  | nil => cases isFirst
  | cons lexeme later =>
      cases isFirst
      rfl

theorem stop_of_getLast?_placeLexemes {start : Nat} {found : List Lexeme} {token : Token}
    (isLast : token ∈ (placeLexemes values start found).getLast?) :
    token.stop = start + Text.byteLength (found.flatMap Lexeme.source) := by
  induction found generalizing start with
  | nil => cases isLast
  | cons lexeme later inductionHypothesis =>
      rw [List.flatMap_cons, Text.byteLength_append, ← Nat.add_assoc]
      cases later with
      | nil =>
          cases isLast
          rfl
      | cons next others =>
          refine inductionHypothesis ?_
          rw [placeLexemes, placeLexemes, List.getLast?_cons_cons] at isLast
          rwa [placeLexemes]

theorem isChain_placeLexemes (start : Nat) (found : List Lexeme) :
    (placeLexemes values start found).IsChain fun left right => left.stop = right.start := by
  induction found generalizing start with
  | nil => exact List.isChain_nil
  | cons lexeme later inductionHypothesis =>
      refine List.isChain_cons.mpr ⟨?_, inductionHypothesis _⟩
      intro next isFirst
      exact (start_of_head?_placeLexemes values isFirst).symm

theorem value_eq_source_of_mem_placeLexemes
    {start : Nat} {found : List Lexeme} {token : Token}
    (member : token ∈ placeLexemes values start found)
    (literal : token.kind = .literal) :
    token.value = token.source := by
  induction found generalizing start with
  | nil => cases member
  | cons lexeme later inductionHypothesis =>
      rcases List.mem_cons.mp member with rfl | memberLater
      · cases lexeme with
        | placeholder name => cases literal
        | call name argument => cases literal
        | literal text => rfl
      · exact inductionHypothesis memberLater

/-- The tokens of the rest of a pattern are what the grammar demands of the pattern. -/
theorem demandedIn_of_mem_placeLexemes
    (before : Text) {current : Text} {token : Token}
    (member :
      token ∈ placeLexemes values (Text.byteLength before) (lexemes .applied current)) :
    token.DemandedIn (before ++ current) := by
  induction current using lexeme_induction .applied generalizing before with
  | nil => cases member
  | append lexeme rest first inductionHypothesis =>
      rw [lexemes_append first, placeLexemes, ← Text.byteLength_append] at member
      rcases List.mem_cons.mp member with rfl | memberLater
      · exact ⟨before, lexeme, rest, rfl, Lexeme.firstLexeme_eq_some_iff.mp first, rfl⟩
      · rw [← List.append_assoc]
        exact inductionHypothesis _ memberLater

/-- Tokens that split the rest of a pattern as the grammar demands are the lexemes of that
rest, in their places. -/
theorem map_outline_eq_placeLexemes
    (before : Text) {tokens : List Token} {current : Text}
    (sources_eq : tokens.flatMap Token.source = current)
    (first_start : ∀ token ∈ tokens.head?, token.start = Text.byteLength before)
    (adjacent : tokens.IsChain fun left right => left.stop = right.start)
    (demanded : ∀ token ∈ tokens, token.DemandedIn (before ++ current)) :
    tokens.map Token.outline =
      (placeLexemes values (Text.byteLength before) (lexemes .applied current)).map
        Token.outline := by
  induction tokens generalizing before current with
  | nil =>
      rw [← sources_eq]
      rfl
  | cons token later inductionHypothesis =>
      obtain ⟨joined, adjacentLater⟩ := List.isChain_cons.mp adjacent
      obtain ⟨demandedHere, demandedLater⟩ := List.forall_mem_cons.mp demanded
      obtain ⟨front, lexeme, rest, split, grammar, outlined⟩ := demandedHere
      have outline_eq := outlined
      simp only [Token.outline, Prod.mk.injEq] at outlined
      obtain ⟨_, start, stop, source⟩ := outlined
      -- A place in bytes is one place in the text, so the token and the rest split it alike.
      have sameStart : Text.byteLength front = Text.byteLength before := by
        rw [← start, first_start token rfl]
      obtain ⟨rfl, parts⟩ := Text.append_inj_of_byteLength_eq sameStart split.symm
      have laterSources : later.flatMap Token.source = rest := by
        rw [List.flatMap_cons, source, ← parts] at sources_eq
        exact List.append_cancel_left sources_eq
      have laterStart :
          ∀ next ∈ later.head?, next.start = Text.byteLength (front ++ lexeme.source) := by
        intro next isFirst
        rw [← stop, joined next isFirst]
      rw [split, ← List.append_assoc] at demandedLater
      have first := Lexeme.firstLexeme_eq_some_iff.mpr grammar
      rw [← parts, lexemes_append first, placeLexemes, List.map_cons, List.map_cons, outline_eq,
        inductionHypothesis _ laterSources laterStart adjacentLater demandedLater,
        ← Text.byteLength_append]
      rfl

end Placing

/-- The trace of a pattern splits it as its grammar demands, and it is the only list of tokens
that does, up to the values of placeholders and calls.  No scan stops early. -/
theorem parses_trace_unique (values : Variables) (pattern : Text) :
    Parses pattern (trace values pattern) ∧
      (∀ tokens, Parses pattern tokens →
        tokens.map Token.outline = (trace values pattern).map Token.outline) ∧
      ∀ calls, ∃ found, scan (scanRules calls) pattern = .ok found := by
  refine ⟨?_, ?_, fun calls => ⟨_, scan_eq_ok calls pattern⟩⟩
  · have demanded : ∀ token ∈ trace values pattern, token.DemandedIn pattern :=
      fun _ member => demandedIn_of_mem_placeLexemes values [] member
    refine ⟨?_, fun _ => start_of_head?_placeLexemes values, ?_, isChain_placeLexemes values _ _,
      fun token member => (demanded token member).start_lt_stop, demanded,
      fun _ => value_eq_source_of_mem_placeLexemes values⟩
    · rw [trace, flatMap_source_placeLexemes, flatMap_source_lexemes]
    · intro token isLast
      rw [stop_of_getLast?_placeLexemes values isLast, flatMap_source_lexemes, Nat.zero_add]
  · intro tokens parses
    exact map_outline_eq_placeLexemes values [] parses.sources_eq
      parses.first_start parses.adjacent parses.demanded

end TitleStamp
