import Mathlib.Data.List.Chain
import TitleStamp.Proofs.Regex.Capture
import TitleStamp.Proofs.Template.Grammar
import TitleStamp.Proofs.Template.Placeholders
import TitleStamp.Stamp.Extraction

/-!
# What the rewrites of an extraction find

The first rewrites of an extraction look for a call of a placeholder or for the placeholder
itself.  The last two turn whatever still looks like a call or a placeholder into a wildcard.  In
the written form of a framed group nothing looks like a call unless a name stands directly before
the group, and nothing looks like a placeholder unless the frame contains one, because
parentheses of the frame are escaped.
-/

namespace TitleStamp

private theorem afterParenthesis?_of_not_mem
    {parenthesis : Char} {text : Text}
    (absent : parenthesis ∉ text) :
    afterParenthesis? parenthesis text = none := by
  unfold afterParenthesis?
  split
  · simp only [List.mem_cons, not_or] at absent
    exact Text.after?_eq_none_of_head?_ne
      fun isFirst => absent.2 (List.mem_of_mem_head? isFirst)
  · exact Text.after?_eq_none_of_head?_ne
      fun isFirst => absent (List.mem_of_mem_head? isFirst)

/-- A call is only found where a parenthesis is opened. -/
theorem wrapped_misses
    {placeholder part following : Text}
    (absent : '(' ∉ part ++ following) :
    Finder.Misses (wrapped placeholder) part following := by
  intro skipped rest split _
  have absentLater : '(' ∉ (rest ++ following).dropWhile isNameCharacter := by
    intro member
    have inside := (List.dropWhile_sublist _).subset member
    exact absent (by rw [split, List.append_assoc]; exact List.mem_append_right _ inside)
  unfold wrapped
  split
  · rfl
  · rw [afterParenthesis?_of_not_mem absentLater]
    rfl

private theorem wrapped_of_startsOutside
    {placeholder text : Text}
    (stops : Text.StartsOutside isNameCharacter text) :
    wrapped placeholder text = none := by
  rw [wrapped, if_pos (Text.takeWhile_of_startsOutside stops)]

theorem wrapped_append
    {placeholder name rest : Text}
    (nonempty : name ≠ [])
    (isName : ∀ character ∈ name, isNameCharacter character = true)
    (stops : Text.StartsOutside isNameCharacter rest) :
    wrapped placeholder (name ++ rest) =
      (afterParenthesis? '(' rest).bind fun argument =>
        (Text.after? placeholder argument).bind (afterParenthesis? ')') := by
  have taken := Text.takeWhile_append_of_startsOutside isName stops
  have dropped := Text.dropWhile_append_of_startsOutside isName stops
  rw [wrapped, taken, dropped, if_neg nonempty]
  rfl

/-- Where no name starts, no call is found. -/
theorem wrapped_misses_unnamed
    {placeholder part following : Text}
    (noName : ∀ character ∈ part, isNameCharacter character = false) :
    Finder.Misses (wrapped placeholder) part following := by
  intro skipped rest split nonempty
  cases rest with
  | nil =>
      exact absurd rfl nonempty
  | cons first others =>
      have outside : isNameCharacter first = false := noName first (by rw [split]; simp)
      exact wrapped_of_startsOutside (Text.startsOutside_cons.mpr outside)

/-- A name that does not call the placeholder is passed over. -/
theorem wrapped_misses_name
    {placeholder name following : Text}
    (isName : ∀ character ∈ name, isNameCharacter character = true)
    (stops : Text.StartsOutside isNameCharacter following)
    (notCalled :
      ∀ argument, afterParenthesis? '(' following = some argument →
        Text.after? placeholder argument = none) :
    Finder.Misses (wrapped placeholder) name following := by
  intro skipped rest split nonempty
  have restIsName : ∀ character ∈ rest, isNameCharacter character = true :=
    fun character member => isName character (by rw [split]; simp [member])
  rw [wrapped_append nonempty restIsName stops]
  cases opened : afterParenthesis? '(' following with
  | none => rfl
  | some argument =>
      rw [Option.bind_some, notCalled argument opened]
      rfl

/-- A name is written as it is. -/
theorem escape_of_isName
    {name : Text}
    (isName : ∀ character ∈ name, isNameCharacter character = true) :
    Regex.escape name = name :=
  Regex.escape_eq_self fun character member =>
    Regex.isSpecial_eq_false (by decide) (isName character member)

theorem startsOutside_escape
    {text : Text}
    (stops : Text.StartsOutside isNameCharacter text) :
    Text.StartsOutside isNameCharacter (Regex.escape text) := by
  cases text with
  | nil => exact Text.startsOutside_nil
  | cons character rest =>
      intro first isFirst
      rw [Regex.escape_cons, List.head?_append, Regex.head?_escapeCharacter, Option.some_or,
        Option.mem_some_iff] at isFirst
      subst isFirst
      split
      · decide
      · exact Text.startsOutside_cons.mp stops

/-- A placeholder is only found at a colon. -/
theorem placeholder_misses
    {name part following : Text}
    (absent : ':' ∉ part) :
    Finder.Misses (Text.after? (':' :: name)) part following := by
  refine Finder.misses_of_not_mem ?_ absent
  intro text remainder found
  rw [Text.after?_eq_some_iff.mp found]
  rfl

/-- The placeholder of the title is not found in that of the duration. -/
theorem title_misses_duration (following : Text) :
    Finder.Misses (Text.after? titlePlaceholder) durationPlaceholder following := by
  have parts : durationPlaceholder = [':'] ++ "duration".toList := rfl
  rw [parts]
  refine Finder.misses_append_iff.mpr ⟨?_, placeholder_misses (by decide)⟩
  exact Finder.misses_cons_iff.mpr ⟨rfl, Finder.misses_nil⟩

/-- No character of a name stands directly before an opening parenthesis. -/
def NoCallIn (text : Text) : Prop :=
  text.IsChain fun left right => right = '(' → isNameCharacter left = false

theorem anyPlaceholder_misses
    {part following : Text}
    (free : NoPlaceholderIn (part ++ following)) :
    Finder.Misses anyPlaceholder part following := by
  intro skipped rest split nonempty
  rw [split, List.append_assoc] at free
  cases rest with
  | nil =>
      exact absurd rfl nonempty
  | cons first others =>
      have tail : NoPlaceholderIn (first :: (others ++ following)) :=
        (List.isChain_append.mp free).2.1
      have none_read : Lexeme.readPlaceholder (first :: (others ++ following)) = none := by
        unfold Lexeme.readPlaceholder
        split
        · rename_i afterColon same
          obtain ⟨rfl, rfl⟩ := List.cons.inj same
          have stops : Text.StartsOutside isNameCharacter (others ++ following) :=
            fun second isFirst => (List.isChain_cons.mp tail).1 second isFirst rfl
          rw [Text.takeWhile_of_startsOutside stops]
        · rfl
      rw [List.cons_append, anyPlaceholder, none_read]
      rfl

/-- The rewrite of the placeholders gives all of them one value. -/
theorem replaceAll_anyPlaceholder (replacement text : Text) :
    Text.replaceAll anyPlaceholder replacement text =
      renderInert (fun _ => some replacement) text := by
  induction text using lexeme_induction .inert with
  | nil => rfl
  | append lexeme rest first inductionHypothesis =>
      rw [renderInert_firstLexeme first, ← inductionHypothesis]
      have nonempty := source_ne_nil first
      rw [firstLexeme_inert] at first
      cases read : Lexeme.readPlaceholder (lexeme.source ++ rest) with
      | some found =>
          rw [read, Option.some_or, Option.some.injEq] at first
          subst first
          have foundHere : anyPlaceholder (found.source ++ rest) = some rest := by
            rw [anyPlaceholder, read, Option.map_some, List.drop_left]
          obtain ⟨name, rfl, _⟩ := Lexeme.readPlaceholder_eq_some_iff.mp read
          exact Text.replaceAll_of_find nonempty foundHere
      | none =>
          rw [read, Option.none_or] at first
          obtain ⟨character, others, parts⟩ := List.exists_cons_of_ne_nil nonempty
          rw [parts, List.cons_append, Lexeme.readCharacter, Option.some.injEq] at first
          subst first
          have missed :
              Finder.Misses anyPlaceholder (Lexeme.literal [character]).source rest := by
            refine Finder.misses_cons_iff.mpr ⟨?_, Finder.misses_nil⟩
            change anyPlaceholder ((Lexeme.literal [character]).source ++ rest) = none
            rw [anyPlaceholder, read, Option.map_none]
          exact Text.replaceAll_append missed

private theorem readCall_of_noCallIn
    {text : Text}
    (free : NoCallIn text) :
    Lexeme.readCall text = none := by
  unfold Lexeme.readCall
  split
  · rfl
  · rename_i afterName opened nonempty
    have parts :
        text.takeWhile isNameCharacter ++ text.dropWhile isNameCharacter = text :=
      List.takeWhile_append_dropWhile
    rw [opened] at parts
    rw [NoCallIn, ← parts] at free
    obtain ⟨initial, last, shape⟩ := List.eq_nil_or_concat _ |>.resolve_left nonempty
    have isName : isNameCharacter last = true := by
      have member : last ∈ text.takeWhile isNameCharacter := by
        rw [shape]
        simp
      exact List.all_eq_true.mp List.all_takeWhile last member
    have outside :=
      (List.isChain_append.mp free).2.2 last (by rw [shape]; simp) '(' (by simp) rfl
    rw [isName] at outside
    cases outside
  · rfl

theorem anyCall_misses
    {part following : Text}
    (free : NoCallIn (part ++ following)) :
    Finder.Misses anyCall part following := by
  intro skipped rest split _
  rw [split, List.append_assoc] at free
  have tail : NoCallIn (rest ++ following) := (List.isChain_append.mp free).2.1
  rw [anyCall, readCall_of_noCallIn tail]
  rfl

/-- Pieces whose written forms may stand side by side. -/
private def Joined (adjacent : Char → Char → Prop) (left right : Piece) : Prop :=
  ∀ last ∈ left.written.getLast?, ∀ first ∈ right.written.head?, adjacent last first

private theorem isChain_written
    {adjacent : Char → Char → Prop} {regex : Regex}
    (within : ∀ piece ∈ regex, piece.written.IsChain adjacent)
    (between : regex.IsChain (Joined adjacent)) :
    regex.written.IsChain adjacent := by
  induction regex with
  | nil => exact List.isChain_nil
  | cons piece later inductionHypothesis =>
      obtain ⟨joined, betweenLater⟩ := List.isChain_cons.mp between
      have writtenLater := inductionHypothesis
        (fun other member => within other (List.mem_cons_of_mem _ member)) betweenLater
      rw [Regex.written_cons]
      refine List.isChain_append.mpr ⟨within piece (by simp), writtenLater, ?_⟩
      intro last isLast first isFirst
      cases later with
      | nil =>
          simp at isFirst
      | cons next rest =>
          have nonempty : next.written ≠ [] := Regex.written_piece_ne_nil next
          refine joined next rfl last isLast first ?_
          rw [Regex.written_cons] at isFirst
          cases parts : next.written with
          | nil => exact absurd parts nonempty
          | cons head others =>
              rw [parts] at isFirst
              exact isFirst

private theorem isChain_framed
    {joined : Piece → Piece → Prop} {start ending : Text}
    (inStart : start.IsChain fun left right => joined (.exactly left) (.exactly right))
    (beforeGroup : ∀ last ∈ start.getLast?, joined (.exactly last) .group)
    (afterGroup : ∀ first ∈ ending.head?, joined .group (.exactly first))
    (inEnding : ending.IsChain fun left right => joined (.exactly left) (.exactly right)) :
    (Regex.framed start ending).IsChain joined := by
  have startChain : (Regex.literal start).IsChain joined :=
    (List.isChain_map _).mpr inStart
  have endingChain : (Regex.literal ending).IsChain joined :=
    (List.isChain_map _).mpr inEnding
  refine List.isChain_append.mpr ⟨startChain, ?_, ?_⟩
  · refine List.isChain_cons.mpr ⟨?_, endingChain⟩
    intro piece isFirst
    rw [Regex.literal, List.head?_map] at isFirst
    obtain ⟨first, firstOfEnding, rfl⟩ := Option.map_eq_some_iff.mp isFirst
    exact afterGroup first firstOfEnding
  · intro piece isLast next isGroup
    rw [Regex.literal, List.getLast?_map] at isLast
    obtain ⟨last, lastOfStart, rfl⟩ := Option.map_eq_some_iff.mp isLast
    cases isGroup
    exact beforeGroup last lastOfStart

private theorem mem_framed
    {piece : Piece} {start ending : Text}
    (member : piece ∈ Regex.framed start ending) :
    piece = .group ∨ ∃ character, piece = .exactly character := by
  simp only [Regex.framed, Regex.literal, List.mem_append, List.mem_cons, List.mem_map] at member
  rcases member with ⟨character, _, rfl⟩ | rfl | ⟨character, _, rfl⟩
  · exact Or.inr ⟨character, rfl⟩
  · exact Or.inl rfl
  · exact Or.inr ⟨character, rfl⟩

theorem noCallIn_written_framed
    {start ending : Text}
    (apart : ∀ last ∈ start.getLast?, isNameCharacter last = false) :
    NoCallIn (Regex.framed start ending).written := by
  have escaped :
      ∀ text : Text, text.IsChain fun left right =>
        Joined (fun left right => right = '(' → isNameCharacter left = false)
          (.exactly left) (.exactly right) := by
    intro text
    refine List.isChain_iff_forall_rel_of_append_cons_cons.mpr ?_
    intro left right _ _ _ last _ first isFirst opening
    rw [Piece.written, Regex.head?_escapeCharacter, Option.mem_some_iff] at isFirst
    subst opening
    split at isFirst
    · exact absurd isFirst (by decide)
    · rename_i notSpecial
      subst isFirst
      exact absurd (by decide) notSpecial
  refine isChain_written ?_ (isChain_framed (escaped start) ?_ ?_ (escaped ending))
  · intro piece member
    rcases mem_framed member with rfl | ⟨character, rfl⟩
    · decide
    · rw [Piece.written, Regex.escapeCharacter]
      split
      · exact List.isChain_pair.mpr fun _ => by decide
      · exact List.isChain_singleton _
  · intro last isLast other isOther _ _ _
    rw [Piece.written, Regex.getLast?_escapeCharacter, Option.mem_some_iff] at isOther
    subst isOther
    exact apart last isLast
  · intro first _ last isLast _ _ _
    cases isLast
    decide

/-- No parenthesis of an escaped text opens a call. -/
theorem noCallIn_escape (text : Text) : NoCallIn (Regex.escape text) := by
  have free : NoCallIn (Regex.framed [] text).written := noCallIn_written_framed (by simp)
  rw [Regex.written_framed] at free
  exact (List.isChain_append.mp (List.isChain_append.mp free).2.1).2.1

theorem noPlaceholderIn_written_framed
    {start ending : Text}
    (startFree : NoPlaceholderIn start)
    (endingFree : NoPlaceholderIn ending) :
    NoPlaceholderIn (Regex.framed start ending).written := by
  have escaped :
      ∀ {text : Text}, NoPlaceholderIn text → text.IsChain fun left right =>
        Joined (fun left right => left = ':' → isNameCharacter right = false)
          (.exactly left) (.exactly right) := by
    intro text free
    refine free.imp ?_
    intro left right apart last isLast first isFirst colon
    rw [Piece.written, Regex.getLast?_escapeCharacter, Option.mem_some_iff] at isLast
    rw [Piece.written, Regex.head?_escapeCharacter, Option.mem_some_iff] at isFirst
    subst isLast
    split at isFirst
    · subst isFirst
      decide
    · subst isFirst
      exact apart colon
  refine isChain_written ?_
    (isChain_framed (escaped startFree) ?_ ?_ (escaped endingFree))
  · intro piece member
    rcases mem_framed member with rfl | ⟨character, rfl⟩
    · decide
    · rw [Piece.written, Regex.escapeCharacter]
      split
      · exact List.isChain_pair.mpr fun backslash => absurd backslash (by decide)
      · exact List.isChain_singleton _
  · intro _ _ _ _ first isFirst _
    cases isFirst
    decide
  · intro _ _ last isLast _ _ colon
    cases isLast
    exact absurd colon (by decide)

/-- The last two rewrites change nothing in a frame without placeholders whose group does not
follow a name. -/
theorem lastRewrites_written_framed
    {start ending : Text}
    (apart : ∀ last ∈ start.getLast?, isNameCharacter last = false)
    (startFree : NoPlaceholderIn start)
    (endingFree : NoPlaceholderIn ending) :
    Text.replaceAll anyPlaceholder Regex.lineText
        (Text.replaceAll anyCall Regex.lineText (Regex.framed start ending).written) =
      (Regex.framed start ending).written := by
  have noCall : NoCallIn (Regex.framed start ending).written :=
    noCallIn_written_framed apart
  have noPlaceholder := noPlaceholderIn_written_framed startFree endingFree
  rw [Text.replaceAll_eq_self (anyCall_misses (by rwa [List.append_nil])),
    Text.replaceAll_eq_self (anyPlaceholder_misses (by rwa [List.append_nil]))]

end TitleStamp
