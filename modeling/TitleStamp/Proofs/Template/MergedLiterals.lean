import TitleStamp.Proofs.Template.Trace

/-!
# Merged literals

Joining the runs of literals in a trace keeps what the trace says about its pattern.  The entries
still cover the pattern without gap or overlap, their values still make up the rendered text, and
all that is not a literal stays as it was.  The joining is complete: no two literals are left side
by side.
-/

namespace TitleStamp

namespace Token

/-- One literal in place of two. -/
def joined (left right : Token) : Token :=
  ⟨.literal, left.start, right.stop, left.source ++ right.source, left.value ++ right.value⟩

/-- The source of the token is what stands in the bytes of the pattern that it spans. -/
def Covers (pattern : Text) (token : Token) : Prop :=
  ∃ before after,
    pattern = before ++ (token.source ++ after) ∧
    token.start = Text.byteLength before ∧
    token.stop = Text.byteLength (before ++ token.source)

theorem Covers.joined
    {pattern : Text} {left right : Token}
    (coversLeft : left.Covers pattern)
    (coversRight : right.Covers pattern)
    (adjacent : left.stop = right.start) :
    (left.joined right).Covers pattern := by
  obtain ⟨before, after, split, start, stop⟩ := coversLeft
  obtain ⟨front, rest, splitRight, startRight, stopRight⟩ := coversRight
  have parts : before ++ left.source ++ after = front ++ (right.source ++ rest) := by
    rw [List.append_assoc, ← split, splitRight]
  have samePlace : Text.byteLength (before ++ left.source) = Text.byteLength front := by
    rw [← stop, adjacent, startRight]
  obtain ⟨rfl, rfl⟩ := Text.append_inj_of_byteLength_eq samePlace parts
  refine ⟨before, rest, ?_, start, ?_⟩
  · rw [split, Token.joined, List.append_assoc]
  · rw [Token.joined, stopRight, List.append_assoc]

theorem DemandedIn.covers
    {pattern : Text} {token : Token}
    (demanded : token.DemandedIn pattern) :
    token.Covers pattern := by
  obtain ⟨before, lexeme, rest, split, _, outlined⟩ := demanded
  simp only [Token.outline, Prod.mk.injEq] at outlined
  obtain ⟨_, start, stop, source⟩ := outlined
  exact ⟨before, rest, by rw [source, split], start, by rw [source, stop]⟩

end Token

/-- Tokens that cover a pattern from its first byte to its last, one after another. -/
structure Tiles (pattern : Text) (tokens : List Token) : Prop where
  sources_eq : tokens.flatMap Token.source = pattern
  first_start : ∀ token ∈ tokens.head?, token.start = 0
  last_stop : ∀ token ∈ tokens.getLast?, token.stop = Text.byteLength pattern
  adjacent : tokens.IsChain fun left right => left.stop = right.start
  start_lt_stop : ∀ token ∈ tokens, token.start < token.stop
  covers : ∀ token ∈ tokens, token.Covers pattern

/-- Two tokens that belong into one entry. -/
def Mergeable (left right : Token) : Prop :=
  left.kind = .literal ∧ right.kind = .literal ∧ left.stop = right.start

/-- A token is joined with the entry behind it, or stands in front of it as an entry of its
own. -/
theorem mergeLiterals_cons_cases (token : Token) (rest : List Token) :
    (∃ next others, mergeLiterals rest = next :: others ∧ Mergeable token next ∧
      mergeLiterals (token :: rest) = token.joined next :: others) ∨
    ((∀ next ∈ (mergeLiterals rest).head?, ¬Mergeable token next) ∧
      mergeLiterals (token :: rest) = token :: mergeLiterals rest) := by
  by_cases literal : token.kind = .literal
  · cases merged : mergeLiterals rest with
    | nil =>
        refine Or.inr ⟨fun _ isFirst => (nomatch isFirst), ?_⟩
        simp only [mergeLiterals, literal, merged]
    | cons next others =>
        by_cases alike : next.kind = .literal ∧ token.stop = next.start
        · refine Or.inl ⟨next, others, rfl, ⟨literal, alike⟩, ?_⟩
          simp only [mergeLiterals, literal, merged, if_pos alike, Token.joined]
        · refine Or.inr ⟨?_, ?_⟩
          · rintro _ ⟨⟩ ⟨_, mergeable⟩
            exact alike mergeable
          · simp only [mergeLiterals, literal, merged, if_neg alike]
  · refine Or.inr ⟨fun next _ mergeable => literal mergeable.1, ?_⟩
    rw [mergeLiterals]
    split
    · rename_i isLiteral _
      exact absurd isLiteral literal
    · rfl

/-! ## What the joining keeps -/

theorem flatMap_source_mergeLiterals (tokens : List Token) :
    (mergeLiterals tokens).flatMap Token.source = tokens.flatMap Token.source := by
  induction tokens with
  | nil => rfl
  | cons token rest inductionHypothesis =>
      rw [List.flatMap_cons, ← inductionHypothesis]
      rcases mergeLiterals_cons_cases token rest with
        ⟨next, others, merged, _, joined⟩ | ⟨_, single⟩
      · rw [joined, merged, List.flatMap_cons, List.flatMap_cons, Token.joined, List.append_assoc]
      · rw [single, List.flatMap_cons]

theorem flatMap_value_mergeLiterals (tokens : List Token) :
    (mergeLiterals tokens).flatMap Token.value = tokens.flatMap Token.value := by
  induction tokens with
  | nil => rfl
  | cons token rest inductionHypothesis =>
      rw [List.flatMap_cons, ← inductionHypothesis]
      rcases mergeLiterals_cons_cases token rest with
        ⟨next, others, merged, _, joined⟩ | ⟨_, single⟩
      · rw [joined, merged, List.flatMap_cons, List.flatMap_cons, Token.joined, List.append_assoc]
      · rw [single, List.flatMap_cons]

theorem filter_mergeLiterals (tokens : List Token) :
    (mergeLiterals tokens).filter (·.kind ≠ .literal) = tokens.filter (·.kind ≠ .literal) := by
  induction tokens with
  | nil => rfl
  | cons token rest inductionHypothesis =>
      rcases mergeLiterals_cons_cases token rest with
        ⟨next, others, merged, ⟨literal, literalNext, _⟩, joined⟩ | ⟨_, single⟩
      · rw [merged] at inductionHypothesis
        simpa [joined, Token.joined, literal, literalNext] using inductionHypothesis
      · rw [single, List.filter_cons, List.filter_cons, inductionHypothesis]

theorem start_head?_mergeLiterals (tokens : List Token) :
    (mergeLiterals tokens).head?.map Token.start = tokens.head?.map Token.start := by
  cases tokens with
  | nil => rfl
  | cons token rest =>
      rcases mergeLiterals_cons_cases token rest with ⟨_, _, _, _, joined⟩ | ⟨_, single⟩
      · rw [joined]
        rfl
      · rw [single]
        rfl

theorem stop_getLast?_mergeLiterals (tokens : List Token) :
    (mergeLiterals tokens).getLast?.map Token.stop = tokens.getLast?.map Token.stop := by
  have stop_cons (token : Token) (rest : List Token) :
      (token :: rest).getLast?.map Token.stop =
        some ((rest.getLast?.map Token.stop).getD token.stop) := by
    rw [List.getLast?_cons]
    cases rest.getLast? <;> rfl
  induction tokens with
  | nil => rfl
  | cons token rest inductionHypothesis =>
      rw [stop_cons token rest, ← inductionHypothesis]
      rcases mergeLiterals_cons_cases token rest with
        ⟨next, others, merged, _, joined⟩ | ⟨_, single⟩
      · rw [joined, merged, stop_cons, stop_cons]
        rfl
      · rw [single, stop_cons]

theorem isChain_mergeLiterals
    {tokens : List Token}
    (adjacent : tokens.IsChain fun left right => left.stop = right.start) :
    (mergeLiterals tokens).IsChain fun left right => left.stop = right.start := by
  induction tokens with
  | nil => exact List.isChain_nil
  | cons token rest inductionHypothesis =>
      obtain ⟨here, later⟩ := List.isChain_cons.mp adjacent
      have mergedLater := inductionHypothesis later
      rcases mergeLiterals_cons_cases token rest with
        ⟨next, others, merged, _, joined⟩ | ⟨_, single⟩
      · rw [merged] at mergedLater
        rw [joined]
        exact List.isChain_cons.mpr (List.isChain_cons.mp mergedLater)
      · rw [single]
        refine List.isChain_cons.mpr ⟨?_, mergedLater⟩
        intro next isFirst
        have sameStart := start_head?_mergeLiterals rest
        rw [Option.mem_def.mp isFirst] at sameStart
        obtain ⟨first, isFirstToken, start⟩ := Option.map_eq_some_iff.mp sameStart.symm
        rw [← start]
        exact here first isFirstToken

/-- A property of tokens that the joining of two keeps holds of all entries. -/
theorem forall_mem_mergeLiterals
    {property : Token → Prop} {tokens : List Token}
    (joins : ∀ left right, property left → property right → left.stop = right.start →
      property (left.joined right))
    (holds : ∀ token ∈ tokens, property token) :
    ∀ token ∈ mergeLiterals tokens, property token := by
  induction tokens with
  | nil => exact fun _ member => nomatch member
  | cons token rest inductionHypothesis =>
      obtain ⟨here, later⟩ := List.forall_mem_cons.mp holds
      have mergedLater := inductionHypothesis later
      rcases mergeLiterals_cons_cases token rest with
        ⟨next, others, merged, ⟨_, _, adjacent⟩, joined⟩ | ⟨_, single⟩
      · rw [merged] at mergedLater
        obtain ⟨next_holds, others_hold⟩ := List.forall_mem_cons.mp mergedLater
        rw [joined]
        exact List.forall_mem_cons.mpr ⟨joins _ _ here next_holds adjacent, others_hold⟩
      · rw [single]
        exact List.forall_mem_cons.mpr ⟨here, mergedLater⟩

theorem Tiles.mergeLiterals
    {pattern : Text} {tokens : List Token}
    (tiles : Tiles pattern tokens) :
    Tiles pattern (mergeLiterals tokens) where
  sources_eq := by rw [flatMap_source_mergeLiterals, tiles.sources_eq]
  first_start := by
    intro token isFirst
    have sameStart := start_head?_mergeLiterals tokens
    rw [Option.mem_def.mp isFirst] at sameStart
    obtain ⟨first, isFirstToken, start⟩ := Option.map_eq_some_iff.mp sameStart.symm
    rw [← start, tiles.first_start first isFirstToken]
  last_stop := by
    intro token isLast
    have sameStop := stop_getLast?_mergeLiterals tokens
    rw [Option.mem_def.mp isLast] at sameStop
    obtain ⟨last, isLastToken, stop⟩ := Option.map_eq_some_iff.mp sameStop.symm
    rw [← stop, tiles.last_stop last isLastToken]
  adjacent := isChain_mergeLiterals tiles.adjacent
  start_lt_stop := by
    refine forall_mem_mergeLiterals ?_ tiles.start_lt_stop
    intro left right nonempty nonemptyRight adjacent
    exact Nat.lt_trans nonempty (adjacent ▸ nonemptyRight)
  covers := forall_mem_mergeLiterals (fun _ _ => Token.Covers.joined) tiles.covers

/-- Literals side by side in adjacent tokens are all joined. -/
theorem noLiteralPair_mergeLiterals
    {tokens : List Token}
    (adjacent : tokens.IsChain fun left right => left.stop = right.start) :
    (mergeLiterals tokens).IsChain fun left right =>
      ¬(left.kind = .literal ∧ right.kind = .literal) := by
  induction tokens with
  | nil => exact List.isChain_nil
  | cons token rest inductionHypothesis =>
      have mergedLater := inductionHypothesis (List.isChain_cons.mp adjacent).2
      rcases mergeLiterals_cons_cases token rest with
        ⟨next, others, merged, ⟨_, literal, _⟩, joined⟩ | ⟨apart, single⟩
      · rw [merged] at mergedLater
        obtain ⟨nextApart, othersApart⟩ := List.isChain_cons.mp mergedLater
        rw [joined]
        exact List.isChain_cons.mpr
          ⟨fun other isFirst pair => nextApart other isFirst ⟨literal, pair.2⟩, othersApart⟩
      · have chain := isChain_mergeLiterals adjacent
        rw [single] at chain ⊢
        refine List.isChain_cons.mpr ⟨?_, mergedLater⟩
        intro next isFirst pair
        exact apart next isFirst
          ⟨pair.1, pair.2, (List.isChain_cons.mp chain).1 next isFirst⟩

/-! ## The entries of a report -/

theorem tiles_trace (values : Variables) (pattern : Text) :
    Tiles pattern (trace values pattern) := by
  have demanded : ∀ token ∈ trace values pattern, token.DemandedIn pattern :=
    fun _ member => demandedIn_of_mem_placeLexemes values [] member
  refine ⟨?_, fun _ => start_of_head?_placeLexemes values, ?_, isChain_placeLexemes values _ _,
    fun token member => (demanded token member).start_lt_stop,
    fun token member => (demanded token member).covers⟩
  · rw [trace, flatMap_source_placeLexemes, flatMap_source_lexemes]
  · intro token isLast
    rw [stop_of_getLast?_placeLexemes values isLast, flatMap_source_lexemes, Nat.zero_add]

theorem flatMap_value_trace (values : Variables) (pattern : Text) :
    (trace values pattern).flatMap Token.value = render .applied values pattern := by
  have placed (start : Nat) (found : List Lexeme) :
      (placeLexemes values start found).flatMap Token.value =
        found.flatMap (Lexeme.value values) := by
    induction found generalizing start with
    | nil => rfl
    | cons lexeme later inductionHypothesis =>
        rw [placeLexemes, List.flatMap_cons, List.flatMap_cons, inductionHypothesis]
  rw [trace, placed, render, renderApplied_eq_flatMap]

/-- The entries of a report cover the pattern as its tokens do, and render to the same text.
Placeholders and calls stay as they are, in their order, and no literal stands beside another. -/
theorem mergeLiterals_trace (values : Variables) (pattern : Text) :
    let entries := mergeLiterals (trace values pattern)
    Tiles pattern entries ∧
      entries.flatMap Token.value = render .applied values pattern ∧
      entries.filter (·.kind ≠ .literal) =
        (trace values pattern).filter (·.kind ≠ .literal) ∧
      entries.IsChain fun left right => ¬(left.kind = .literal ∧ right.kind = .literal) := by
  intro entries
  have tiles := tiles_trace values pattern
  refine ⟨tiles.mergeLiterals, ?_, filter_mergeLiterals _,
    noLiteralPair_mergeLiterals tiles.adjacent⟩
  rw [flatMap_value_mergeLiterals, flatMap_value_trace]

end TitleStamp
