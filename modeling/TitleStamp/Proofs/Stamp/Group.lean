import TitleStamp.Proofs.Regex.Accepts
import TitleStamp.Proofs.Stamp.Extraction

/-!
# When an extraction captures a title

The rewrite of the calls that remain in an extraction takes a name and the group behind it for a
call.  It removes everything from the name to the last closing parenthesis of the line, the
group included.  An extraction therefore has a group exactly if, after the first four rewrites,
the first group of some line does not stand directly behind a name.
-/

namespace TitleStamp

namespace Regex

/-- On some line of the expression the first group does not stand directly behind a name. -/
def HasFreeGroup (regex : Regex) : Prop :=
  ∃ before line after : Regex,
    regex = before ++ (line ++ .group :: after) ∧
      (∀ last ∈ before.getLast?, last = .exactly '\n') ∧
      .exactly '\n' ∉ line ∧ .group ∉ line ∧
      ∀ character, .exactly character ∈ line.getLast? → isNameCharacter character = false

theorem hasFreeGroup_group (later : Regex) : HasFreeGroup (.group :: later) :=
  ⟨[], [], later, rfl, by simp, by simp, by simp, by simp⟩

theorem HasFreeGroup.tail
    {character : Char} {later : Regex}
    (free : HasFreeGroup (.exactly character :: later)) :
    HasFreeGroup later := by
  obtain ⟨before, line, after, parts, lineStart, oneLine, first, apart⟩ := free
  cases before with
  | nil =>
      cases line with
      | nil => cases parts
      | cons piece line =>
          obtain ⟨rfl, rfl⟩ := List.cons.inj parts
          simp only [List.mem_cons, not_or] at oneLine first
          refine ⟨[], line, after, rfl, by simp, oneLine.2, first.2, ?_⟩
          intro other isLast
          exact apart other (List.mem_getLast?_cons isLast)
  | cons piece before =>
      obtain ⟨rfl, rfl⟩ := List.cons.inj parts
      exact ⟨before, line, after, rfl,
        fun last isLast => lineStart last (List.mem_getLast?_cons isLast), oneLine, first, apart⟩

theorem HasFreeGroup.cons
    {character : Char} {later : Regex}
    (free : HasFreeGroup later)
    (notName : later.head? = some .group → isNameCharacter character = false) :
    HasFreeGroup (.exactly character :: later) := by
  obtain ⟨before, line, after, rfl, lineStart, oneLine, first, apart⟩ := free
  cases before with
  | nil =>
      by_cases feed : character = '\n'
      · subst feed
        exact ⟨[.exactly '\n'], line, after, rfl, by simp, oneLine, first, apart⟩
      · refine ⟨[], .exactly character :: line, after, rfl, by simp, by simp [oneLine, Ne.symm feed],
          by simp [first], ?_⟩
        intro other isLast
        cases line with
        | nil =>
            cases isLast
            exact notName rfl
        | cons piece line =>
            rw [List.getLast?_cons_cons] at isLast
            exact apart other isLast
  | cons piece before =>
      refine ⟨.exactly character :: piece :: before, line, after, rfl, ?_, oneLine, first, apart⟩
      intro last isLast
      rw [List.getLast?_cons_cons] at isLast
      exact lineStart last isLast

/-- A name in front of a group and the rest of a call, as a call takes them from a line. -/
structure IsCall (removed : Regex) : Prop where
  named : ∃ (name : Text) (inside : Regex), removed = literal name ++ .group :: inside ∧
    name ≠ [] ∧ ∀ character ∈ name, isNameCharacter character = true
  oneLine : .exactly '\n' ∉ removed

private theorem takeWhile_first_group
    {front rest : Regex}
    (first : .group ∉ front) :
    (front ++ .group :: rest).takeWhile (· ≠ .group) = front := by
  have different : ∀ piece ∈ front, decide (piece ≠ .group) = true := by
    intro piece member
    rw [decide_eq_true_eq]
    rintro rfl
    exact first member
  rw [List.takeWhile_append_of_pos different]
  simp

private theorem eq_of_first_group
    {left right leftRest rightRest : Regex}
    (leftFirst : .group ∉ left)
    (rightFirst : .group ∉ right)
    (same : left ++ .group :: leftRest = right ++ .group :: rightRest) :
    left = right := by
  rw [← takeWhile_first_group leftFirst, same, takeWhile_first_group rightFirst]

private theorem group_not_mem_literal (text : Text) : .group ∉ literal text := by
  intro member
  obtain ⟨character, _, same⟩ := List.mem_map.mp member
  cases same

/-- The free group of an expression that starts with a call stands behind that call. -/
theorem HasFreeGroup.of_call
    {removed kept : Regex}
    (call : removed.IsCall)
    (free : HasFreeGroup (removed ++ kept)) :
    HasFreeGroup kept := by
  obtain ⟨before, line, after, parts, lineStart, oneLine, first, apart⟩ := free
  obtain ⟨name, inside, named, nonempty, isName⟩ := call.named
  have lineNotName (same : removed ++ kept = line ++ .group :: after) : False := by
    rw [named, List.append_assoc, List.cons_append] at same
    have lineName := eq_of_first_group (group_not_mem_literal name) first same
    obtain ⟨initial, last, ends⟩ := List.eq_nil_or_concat name |>.resolve_left nonempty
    have isLast : .exactly last ∈ line.getLast? := by
      rw [← lineName, ends]
      simp [literal]
    have outside := apart last isLast
    rw [isName last (by simp [ends])] at outside
    cases outside
  -- A line that starts within the call would need a line feed in the call or the name in front
  -- of its first group.
  rcases List.append_eq_append_iff.mp parts with ⟨more, rfl, rfl⟩ | ⟨more, removedParts, rest⟩
  · refine ⟨more, line, after, rfl, ?_, oneLine, first, apart⟩
    intro last isLast
    exact lineStart last (List.mem_getLast?_append_of_mem_getLast? isLast)
  · rcases List.eq_nil_or_concat before with rfl | ⟨initial, last, ends⟩
    · exact (lineNotName (by rw [removedParts, List.nil_append, rest])).elim
    · have feed : last = .exactly '\n' := lineStart last (by simp [ends])
      refine absurd ?_ call.oneLine
      rw [removedParts, ends, feed]
      simp

/-- A free group behind a call that reaches to the last closing parenthesis of its line. -/
theorem HasFreeGroup.behind_call
    {removed kept : Regex}
    (free : HasFreeGroup kept)
    (closed : ∀ line after : Regex, kept = line ++ .group :: after → .exactly '\n' ∈ line) :
    HasFreeGroup (removed ++ kept) := by
  obtain ⟨before, line, after, parts, lineStart, oneLine, first, apart⟩ := free
  have nonempty : before ≠ [] := by
    rintro rfl
    exact oneLine (closed line after parts)
  refine ⟨removed ++ before, line, after, by rw [parts, List.append_assoc], ?_, oneLine, first,
    apart⟩
  intro last isLast
  rw [List.getLast?_append_of_ne_nil _ nonempty] at isLast
  exact lineStart last isLast

end Regex

section Calls

open Regex

variable {start : Regex}

/-- The pieces that a name is written by are its characters. -/
private theorem exists_literal_of_written
    {name rest : Text}
    (plain : ∀ piece ∈ start, piece.IsPlain)
    (isName : ∀ character ∈ name, isNameCharacter character = true)
    (parts : start.written = name ++ rest) :
    ∃ later, start = literal name ++ later ∧ later.written = rest := by
  induction name generalizing start with
  | nil => exact ⟨start, rfl, parts⟩
  | cons character name inductionHypothesis =>
      obtain ⟨here, isNameLater⟩ := List.forall_mem_cons.mp isName
      cases start with
      | nil => cases parts
      | cons piece start =>
          obtain ⟨isPlain, plainLater⟩ := List.forall_mem_cons.mp plain
          rw [written_cons] at parts
          rcases isPlain with rfl | ⟨other, rfl⟩
          · have opening : '(' = character := (List.cons.inj parts).1
            rw [← opening] at here
            exact absurd here (by decide)
          · rw [Piece.written, escapeCharacter] at parts
            split at parts
            · have backslash : '\\' = character := (List.cons.inj parts).1
              rw [← backslash] at here
              exact absurd here (by decide)
            · obtain ⟨rfl, writtenLater⟩ := List.cons.inj parts
              obtain ⟨later, rfl, rest_eq⟩ :=
                inductionHypothesis plainLater isNameLater writtenLater
              exact ⟨later, rfl, rest_eq⟩

/-- Only a group is written with an opening parenthesis in front. -/
private theorem exists_group_of_written
    {rest : Text}
    (plain : ∀ piece ∈ start, piece.IsPlain)
    (parts : start.written = '(' :: rest) :
    ∃ later, start = .group :: later := by
  cases start with
  | nil => cases parts
  | cons piece later =>
      rcases plain piece List.mem_cons_self with rfl | ⟨character, rfl⟩
      · exact ⟨later, rfl⟩
      · rw [written_cons, Piece.written, escapeCharacter] at parts
        split at parts
        · have backslash : '\\' = '(' := (List.cons.inj parts).1
          exact absurd backslash (by decide)
        · rename_i notSpecial
          have opening : character = '(' := (List.cons.inj parts).1
          rw [opening] at notSpecial
          exact absurd (by decide) notSpecial

private theorem mem_written_of_exactly
    {character : Char} {regex : Regex}
    (member : .exactly character ∈ regex) :
    character ∈ regex.written := by
  refine List.mem_flatMap.mpr ⟨_, member, ?_⟩
  rw [Piece.written, escapeCharacter]
  split <;> simp

/-- What the rewrite of calls removes and what it leaves of the line. -/
private theorem call_of_anyCall
    {removed kept : Regex}
    (plain : ∀ piece ∈ removed ++ kept, piece.IsPlain)
    (found : anyCall (written (removed ++ kept)) = some (written kept)) :
    removed.IsCall ∧ ')' ∉ (written kept).takeWhile (· ≠ '\n') := by
  obtain ⟨name, argument, nonempty, isName, oneLine, parts, isLast⟩ := anyCall_eq_some found
  have removedWritten : removed.written = name ++ ('(' :: (argument ++ [')'])) := by
    have source : name ++ '(' :: (argument ++ ')' :: written kept) =
        name ++ ('(' :: (argument ++ [')'])) ++ written kept := by
      simp
    rw [source, written_append] at parts
    exact List.append_cancel_right parts
  have removedPlain : ∀ piece ∈ removed, piece.IsPlain :=
    fun piece member => plain piece (List.mem_append_left _ member)
  obtain ⟨later, rfl, laterWritten⟩ :=
    exists_literal_of_written removedPlain isName removedWritten
  have laterPlain : ∀ piece ∈ later, piece.IsPlain :=
    fun piece member => removedPlain piece (List.mem_append_right _ member)
  obtain ⟨inside, rfl⟩ := exists_group_of_written laterPlain laterWritten
  refine ⟨⟨⟨name, inside, rfl, nonempty, isName⟩, ?_⟩, isLast⟩
  intro feed
  have inWritten := mem_written_of_exactly feed
  rw [removedWritten] at inWritten
  simp only [List.mem_append, List.mem_cons, List.not_mem_nil, or_false] at inWritten
  rcases inWritten with inName | isOpening | inArgument | isClosing
  · exact absurd (isName _ inName) (by decide)
  · exact absurd isOpening (by decide)
  · exact oneLine inArgument
  · exact absurd isClosing (by decide)

/-- A line that has no closing parenthesis has no group. -/
private theorem feed_mem_of_group
    {line after : Regex}
    (plain : ∀ piece ∈ line, piece.IsPlain)
    (closed : ')' ∉ (written (line ++ .group :: after)).takeWhile (· ≠ '\n')) :
    .exactly '\n' ∈ line := by
  by_contra oneLine
  have noFeed : ∀ character ∈ line.written ++ groupText, character ≠ '\n' := by
    rintro _ member rfl
    rcases List.mem_append.mp member with inLine | inGroup
    · obtain ⟨piece, inRegex, inWritten⟩ := List.mem_flatMap.mp inLine
      rcases plain piece inRegex with rfl | ⟨character, rfl⟩
      · exact absurd inWritten (by decide)
      · have same : '\n' = character := by
          have inEscape : '\n' ∈ escape [character] := by
            rwa [escape, List.flatMap_singleton]
          exact List.mem_singleton.mp (mem_of_mem_escape (by decide) inEscape)
        exact oneLine (same ▸ inRegex)
    · exact absurd inGroup (by decide)
  have parts : written (line ++ .group :: after) =
      line.written ++ groupText ++ after.written := by
    rw [written_append, written_cons, List.append_assoc]
    rfl
  rw [parts, List.takeWhile_append_of_pos (by simpa using noFeed)] at closed
  have closing : ')' ∈ groupText := by
    decide
  simp [closing] at closed

/-- A group directly behind a name is found as a call. -/
private theorem isNameCharacter_of_missed
    {character : Char} {after : Regex}
    (missed : anyCall (written (.exactly character :: .group :: after)) = none) :
    isNameCharacter character = false := by
  by_contra isName
  rw [Bool.not_eq_false] at isName
  have notSpecial : isSpecial character = false := by
    by_contra special
    rw [Bool.not_eq_false] at special
    exact Piece.onlyFirst_of_plain (Or.inr isName) (.exactly character)
      (by simp [Piece.written, escapeCharacter, special])
  have parts : written (.exactly character :: .group :: after) =
      [character] ++ '(' :: (".*)".toList ++ after.written) := by
    rw [written_cons, written_cons, Piece.written, escapeCharacter, notSpecial]
    rfl
  have stops :
      Text.StartsOutside isNameCharacter ('(' :: (".*)".toList ++ after.written)) :=
    Text.startsOutside_cons.mpr (by decide)
  have inside : ∀ other ∈ [character], isNameCharacter other = true := by
    simpa using isName
  have closed : ')' ∈ (".*)".toList ++ after.written).takeWhile (· ≠ '\n') := by
    rw [List.takeWhile_append_of_pos (by decide)]
    simp
  have opened : Lexeme.argumentOnLine (".*)".toList ++ after.written) ≠ none :=
    fun none => Lexeme.argumentOnLine_eq_none_iff.mp none closed
  obtain ⟨argument, read⟩ := Option.ne_none_iff_exists'.mp opened
  rw [anyCall, parts, Option.map_eq_none_iff, Lexeme.readCall,
    Text.takeWhile_append_of_startsOutside inside stops,
    Text.dropWhile_append_of_startsOutside inside stops] at missed
  simp only [read, Option.map_some] at missed
  cases missed

/-- The rewrite of calls leaves a group exactly if there is a free one. -/
theorem group_mem_iff_of_anyCall
    {called : Regex}
    (plain : ∀ piece ∈ start, piece.IsPlain)
    (rewritten : Rewritten anyCall [.line] start called) :
    .group ∈ called ↔ start.HasFreeGroup := by
  induction rewritten with
  | nil =>
      refine iff_of_false List.not_mem_nil ?_
      rintro ⟨before, line, after, parts, _⟩
      simp at parts
  | @keep piece later result missed _ inductionHypothesis =>
      obtain ⟨isPlain, plainLater⟩ := List.forall_mem_cons.mp plain
      have remaining := inductionHypothesis plainLater
      rcases isPlain with rfl | ⟨character, rfl⟩
      · exact iff_of_true List.mem_cons_self (hasFreeGroup_group later)
      · have behind : .group ∈ Piece.exactly character :: result ↔ .group ∈ result := by
          simp
        rw [behind, remaining]
        constructor
        · intro free
          refine free.cons ?_
          intro isGroup
          obtain ⟨after, rfl⟩ := List.head?_eq_some_iff.mp isGroup
          exact isNameCharacter_of_missed missed
        · exact HasFreeGroup.tail
  | @replace removed kept result _ found _ inductionHypothesis =>
      obtain ⟨call, closed⟩ := call_of_anyCall plain found
      have keptPlain : ∀ piece ∈ kept, piece.IsPlain :=
        fun piece member => plain piece (List.mem_append_right _ member)
      have behind : .group ∈ [Piece.line] ++ result ↔ .group ∈ result := by
        simp
      rw [behind, inductionHypothesis keptPlain]
      constructor
      · intro free
        refine free.behind_call ?_
        rintro line after rfl
        exact feed_mem_of_group (fun piece member => keptPlain piece (List.mem_append_left _ member))
          closed
      · exact HasFreeGroup.of_call call

/-- The rewrite of placeholders takes no group away. -/
theorem group_mem_iff_of_anyPlaceholder
    {called regex : Regex}
    (rewritten : Rewritten anyPlaceholder [.line] called regex) :
    .group ∈ regex ↔ .group ∈ called := by
  induction rewritten with
  | nil => rfl
  | keep _ _ inductionHypothesis =>
      rw [List.mem_cons, List.mem_cons, inductionHypothesis]
  | @replace removed kept result _ found _ inductionHypothesis =>
      have notRemoved : .group ∉ removed := by
        intro member
        obtain ⟨name, _, isName, parts⟩ := anyPlaceholder_eq_some found
        rw [written_append] at parts
        have removedWritten := List.append_cancel_right parts
        have opening : '(' ∈ removed.written :=
          List.mem_flatMap.mpr ⟨.group, member, by decide⟩
        rw [removedWritten] at opening
        rcases List.mem_cons.mp opening with isColon | inName
        · exact absurd isColon (by decide)
        · exact absurd (isName _ inName) (by decide)
      simp [inductionHypothesis, notRemoved]

end Calls

/-- An extraction has a group, and what it matches has a captured title, exactly if the first
four rewrites leave a group that does not stand behind a name on its line. -/
theorem group_mem_extraction_iff (titlePattern durationText : Text) :
    ∃ start regex : Regex,
      substituted titlePattern durationText = start.written ∧
        Regex.ofText? (extraction titlePattern durationText) = some regex ∧
        (.group ∈ regex ↔ start.HasFreeGroup) ∧
        ∀ text found, regex.search text = some found →
          (found.captured.isSome ↔ start.HasFreeGroup) := by
  obtain ⟨start, called, regex, startWritten, plain, callsRewritten, placeholdersRewritten,
    written⟩ := exists_extraction titlePattern durationText
  have hasGroup : .group ∈ regex ↔ start.HasFreeGroup :=
    (group_mem_iff_of_anyPlaceholder placeholdersRewritten).trans
      (group_mem_iff_of_anyCall plain callsRewritten)
  refine ⟨start, regex, startWritten, by rw [written, Regex.ofText?_written], hasGroup, ?_⟩
  intro text found searched
  have accepted := (Regex.accepts_of_search searched).2
  exact accepted.isSome_captured_iff.trans hasGroup

/-- The group behind the name in front of a title is taken for a call, and the title is lost. -/
theorem cleanTitle_named_version :
    .placeholder "title".toList ∈ lexemes .applied ":duration v:title".toList ∧
      extraction ":duration v:title".toList "[1h30m]".toList = "\\[1h30m\\] .*".toList ∧
      cleanTitle "[1h30m] v2.0 release".toList "[h'h'm'm']".toList ":duration v:title".toList =
        [] := by
  decide +kernel

end TitleStamp
