import TitleStamp.Proofs.Regex.Capture
import TitleStamp.Proofs.Regex.Rewritten
import TitleStamp.Proofs.Stamp.Shape
import TitleStamp.Proofs.Template.Grammar
import TitleStamp.Stamp.Extraction

/-!
# Extractions are regular expressions

Every rewrite of an extraction finds a part of the escaped pattern that starts with a colon or a
name and ends with a name or a closing parenthesis.  No escape and no group is cut by such a part,
so the outcome is a written regular expression, whatever the pattern and the duration are.
Cleaning replaces what it matches by a part of that.
-/

namespace TitleStamp

namespace Piece

theorem onlyFirst_of_plain
    {character : Char}
    (plain : character = ':' ∨ isNameCharacter character = true) :
    OnlyFirst character := by
  have specials :
      ∀ special ∈ "\\.+*?()|[]\x7b\x7d^$#&-~".toList,
        ¬(special = ':' ∨ isNameCharacter special = true) := by
    decide
  have behind :
      ∀ other ∈ Regex.digitsText.tail ++ (Regex.lineText.tail ++ Regex.groupText.tail),
        ¬(other = ':' ∨ isNameCharacter other = true) := by
    decide
  simp only [List.mem_append] at behind
  intro piece member
  cases piece with
  | exactly other =>
      rw [written, Regex.escapeCharacter] at member
      split at member
      · rename_i special
        obtain rfl := List.mem_singleton.mp member
        exact specials character (List.contains_iff_mem.mp special) plain
      · cases member
  | digits => exact behind character (Or.inl member) plain
  | line => exact behind character (Or.inr (Or.inl member)) plain
  | group => exact behind character (Or.inr (Or.inr member)) plain

theorem onlyLast_of_closing
    {character : Char}
    (closing : character = ')' ∨ isNameCharacter character = true) :
    OnlyLast character := by
  have inFront :
      ∀ other ∈ Regex.digitsText.dropLast ++
          (Regex.lineText.dropLast ++ Regex.groupText.dropLast),
        ¬(other = ')' ∨ isNameCharacter other = true) := by
    decide
  simp only [List.mem_append] at inFront
  intro piece member
  cases piece with
  | exactly other =>
      rw [written, Regex.escapeCharacter] at member
      split at member
      · obtain rfl := List.mem_singleton.mp member
        exact absurd closing (by decide)
      · cases member
  | digits => exact inFront character (Or.inl member) closing
  | line => exact inFront character (Or.inr (Or.inl member)) closing
  | group => exact inFront character (Or.inr (Or.inr member)) closing

end Piece

/-- A finder finds whole pieces if what it finds starts with a colon or a name and ends with a
name or a closing parenthesis. -/
theorem findsPieces_of_ends
    {find : Finder}
    (ends : ∀ text rest, find text = some rest →
      ∃ first others initial last,
        text = first :: others ++ rest ∧ first :: others = initial ++ [last] ∧
          (first = ':' ∨ isNameCharacter first = true) ∧
          (last = ')' ∨ isNameCharacter last = true)) :
    find.FindsPieces := by
  intro text rest found
  obtain ⟨first, others, initial, last, split, parts, plain, closing⟩ := ends text rest found
  refine ⟨first :: others, split, ⟨first, rfl, Piece.onlyFirst_of_plain plain⟩, last, ?_,
    Piece.onlyLast_of_closing closing⟩
  rw [parts, List.getLast?_concat]
  rfl

/-- What finds a colon and a name finds whole pieces. -/
theorem findsPieces_of_placeholder
    {find : Finder}
    (placeholder : ∀ text rest, find text = some rest →
      ∃ name : Text, name ≠ [] ∧ (∀ character ∈ name, isNameCharacter character = true) ∧
        text = ':' :: name ++ rest) :
    find.FindsPieces := by
  refine findsPieces_of_ends ?_
  intro text rest found
  obtain ⟨name, nonempty, isName, split⟩ := placeholder text rest found
  obtain ⟨initial, last, parts⟩ := List.eq_nil_or_concat name |>.resolve_left nonempty
  rw [List.concat_eq_append] at parts
  exact ⟨':', name, ':' :: initial, last, split, by rw [parts, List.cons_append], Or.inl rfl,
    Or.inr (isName last (by simp [parts]))⟩

theorem findsPieces_after?
    {name : Text}
    (nonempty : name ≠ [])
    (isName : ∀ character ∈ name, isNameCharacter character = true) :
    Finder.FindsPieces (Text.after? (':' :: name)) :=
  findsPieces_of_placeholder fun _ _ found =>
    ⟨name, nonempty, isName, Text.after?_eq_some_iff.mp found⟩

/-- What is found as a placeholder is a colon and a name. -/
theorem anyPlaceholder_eq_some
    {text rest : Text}
    (found : anyPlaceholder text = some rest) :
    ∃ name : Text, name ≠ [] ∧ (∀ character ∈ name, isNameCharacter character = true) ∧
      text = ':' :: name ++ rest := by
  obtain ⟨lexeme, read, rfl⟩ := Option.map_eq_some_iff.mp found
  obtain ⟨name, rfl, nonempty, isName, after, rfl, _⟩ :=
    Lexeme.readPlaceholder_eq_some_iff.mp read
  exact ⟨name, nonempty, isName, by simp [Lexeme.source]⟩

theorem findsPieces_anyPlaceholder : Finder.FindsPieces anyPlaceholder :=
  findsPieces_of_placeholder fun _ _ => anyPlaceholder_eq_some

/-- What finds a name and something in parentheses finds whole pieces. -/
theorem findsPieces_of_call
    {find : Finder}
    (call : ∀ text rest, find text = some rest →
      ∃ name inside : Text, name ≠ [] ∧
        (∀ character ∈ name, isNameCharacter character = true) ∧
        text = name ++ (inside ++ ')' :: rest)) :
    find.FindsPieces := by
  refine findsPieces_of_ends ?_
  intro text rest found
  obtain ⟨name, inside, nonempty, isName, rfl⟩ := call text rest found
  obtain ⟨first, others, rfl⟩ := List.exists_cons_of_ne_nil nonempty
  exact ⟨first, others ++ inside ++ [')'], first :: others ++ inside, ')', by simp, by simp,
    Or.inr (isName first (by simp)), Or.inl rfl⟩

private theorem drop_call (name argument rest : Text) :
    (name ++ '(' :: (argument ++ ')' :: rest)).drop (Lexeme.call name argument).source.length =
      rest := by
  have split : name ++ '(' :: (argument ++ ')' :: rest) =
      (Lexeme.call name argument).source ++ rest := by
    simp [Lexeme.source]
  rw [split, List.drop_left]

/-- What is found as a call is a name and an argument that reaches to the last closing
parenthesis of the line. -/
theorem anyCall_eq_some
    {text rest : Text}
    (found : anyCall text = some rest) :
    ∃ name argument : Text, name ≠ [] ∧
      (∀ character ∈ name, isNameCharacter character = true) ∧ '\n' ∉ argument ∧
      text = name ++ '(' :: (argument ++ ')' :: rest) ∧ ')' ∉ rest.takeWhile (· ≠ '\n') := by
  obtain ⟨lexeme, read, rfl⟩ := Option.map_eq_some_iff.mp found
  obtain ⟨name, argument, rfl, nonempty, isName, oneLine, after, rfl, isLast⟩ :=
    Lexeme.readCall_eq_some_iff.mp read
  rw [drop_call]
  exact ⟨name, argument, nonempty, isName, oneLine, rfl, isLast⟩

theorem anyCall_append
    {name argument rest : Text}
    (nonempty : name ≠ [])
    (isName : ∀ character ∈ name, isNameCharacter character = true)
    (oneLine : '\n' ∉ argument)
    (isLast : ')' ∉ rest.takeWhile (· ≠ '\n')) :
    anyCall (name ++ '(' :: (argument ++ ')' :: rest)) = some rest := by
  have read :
      Lexeme.readCall (name ++ '(' :: (argument ++ ')' :: rest)) = some (.call name argument) :=
    Lexeme.readCall_eq_some_iff.mpr
      ⟨name, argument, rfl, nonempty, isName, oneLine, rest, rfl, isLast⟩
  rw [anyCall, read, Option.map_some, drop_call]

/-- Without parentheses, and with no name at its end, a part starts no call. -/
theorem anyCall_misses_of_apart
    {part following : Text}
    (noParenthesis : '(' ∉ part)
    (apart : ∀ last ∈ part.getLast?, isNameCharacter last = false) :
    Finder.Misses anyCall part following := by
  intro skipped rest split nonempty
  cases found : anyCall (rest ++ following) with
  | none => rfl
  | some remaining =>
      obtain ⟨name, argument, _, isName, _, parts, _⟩ := anyCall_eq_some found
      obtain ⟨initial, last, ends⟩ := List.eq_nil_or_concat rest |>.resolve_left nonempty
      rw [List.concat_eq_append] at ends
      have outside : isNameCharacter last = false := by
        refine apart last ?_
        rw [split, ends, ← List.append_assoc, List.getLast?_concat]
        rfl
      have notInName : last ∉ name := by
        intro member
        rw [isName last member] at outside
        cases outside
      -- The name of the call ends within the part, where no parenthesis stands.
      rcases List.append_eq_append_iff.mp parts with ⟨more, name_eq, _⟩ | ⟨more, rest_eq, opened⟩
      · exact absurd (by simp [name_eq, ends]) notInName
      · cases more with
        | nil =>
            rw [List.append_nil, ends] at rest_eq
            exact absurd (by simp [← rest_eq]) notInName
        | cons first others =>
            obtain ⟨rfl, _⟩ := List.cons.inj opened
            exact absurd (by simp [split, rest_eq]) noParenthesis

theorem findsPieces_anyCall : Finder.FindsPieces anyCall := by
  refine findsPieces_of_call ?_
  intro text rest found
  obtain ⟨name, argument, nonempty, isName, _, split, _⟩ := anyCall_eq_some found
  exact ⟨name, '(' :: argument, nonempty, isName, split⟩

private theorem afterParenthesis?_split
    {parenthesis : Char} {text rest : Text}
    (found : afterParenthesis? parenthesis text = some rest) :
    ∃ escape : Text, text = escape ++ parenthesis :: rest := by
  unfold afterParenthesis? at found
  split at found
  · rename_i afterEscape
    rw [Text.after?_eq_some_iff] at found
    exact ⟨['\\'], by rw [found]; rfl⟩
  · rw [Text.after?_eq_some_iff] at found
    exact ⟨[], found⟩

theorem findsPieces_wrapped (placeholder : Text) : Finder.FindsPieces (wrapped placeholder) := by
  refine findsPieces_of_call ?_
  intro text rest found
  unfold wrapped at found
  split at found
  · cases found
  · rename_i nonempty
    obtain ⟨argument, opened, found⟩ := Option.bind_eq_some_iff.mp found
    obtain ⟨closing, argumentParts, closed⟩ := Option.bind_eq_some_iff.mp found
    obtain ⟨openingEscape, openingParts⟩ := afterParenthesis?_split opened
    obtain ⟨closingEscape, closingParts⟩ := afterParenthesis?_split closed
    have parts : text.takeWhile isNameCharacter ++ text.dropWhile isNameCharacter = text :=
      List.takeWhile_append_dropWhile
    rw [openingParts, Text.after?_eq_some_iff.mp argumentParts, closingParts] at parts
    refine ⟨text.takeWhile isNameCharacter,
      openingEscape ++ '(' :: (placeholder ++ closingEscape), nonempty,
      List.all_eq_true.mp List.all_takeWhile, ?_⟩
    conv => lhs; rw [← parts]
    simp

/-- The escaped pattern after the first four rewrites: with the group and the duration text in
place of the first calls and the first placeholders of the title and of the duration. -/
def substituted (titlePattern durationText : Text) : Text :=
  Regex.escape titlePattern
    |> Text.replaceFirst (wrapped titlePlaceholder) Regex.groupText
    |> Text.replaceFirst (wrapped durationPlaceholder) (Regex.escape durationText)
    |> Text.replaceFirst (Text.after? titlePlaceholder) Regex.groupText
    |> Text.replaceFirst (Text.after? durationPlaceholder) (Regex.escape durationText)

theorem extraction_eq (titlePattern durationText : Text) :
    extraction titlePattern durationText =
      Text.replaceAll anyPlaceholder Regex.lineText
        (Text.replaceAll anyCall Regex.lineText (substituted titlePattern durationText)) :=
  rfl

/-- A piece that the pattern, the duration text or the captured title may come to. -/
def Piece.IsPlain (piece : Piece) : Prop :=
  piece = .group ∨ ∃ character, piece = .exactly character

theorem isPlain_of_mem_literal
    {piece : Piece} {text : Text}
    (member : piece ∈ Regex.literal text) :
    piece.IsPlain := by
  obtain ⟨character, _, rfl⟩ := List.mem_map.mp member
  exact Or.inr ⟨character, rfl⟩

private theorem exists_replaceFirst_plain
    {find : Finder} {inserted regex : Regex}
    (findsPieces : find.FindsPieces)
    (insertedPlain : ∀ piece ∈ inserted, piece.IsPlain)
    (plain : ∀ piece ∈ regex, piece.IsPlain) :
    ∃ result : Regex,
      Text.replaceFirst find inserted.written regex.written = result.written ∧
        ∀ piece ∈ result, piece.IsPlain := by
  obtain ⟨result, replaced, subset⟩ := Regex.exists_replaceFirst findsPieces inserted regex
  refine ⟨result, replaced, ?_⟩
  intro piece member
  rcases List.mem_append.mp (subset member) with inInserted | inRegex
  · exact insertedPlain piece inInserted
  · exact plain piece inRegex

/-- The first four rewrites give a regular expression of given characters and groups. -/
theorem exists_substituted (titlePattern durationText : Text) :
    ∃ regex : Regex, substituted titlePattern durationText = regex.written ∧
      ∀ piece ∈ regex, piece.IsPlain := by
  have titleFinder : Finder.FindsPieces (Text.after? titlePlaceholder) :=
    findsPieces_after? (by decide) (by decide)
  have durationFinder : Finder.FindsPieces (Text.after? durationPlaceholder) :=
    findsPieces_after? (by decide) (by decide)
  have groupPlain : ∀ piece ∈ [Piece.group], piece.IsPlain :=
    fun piece member => Or.inl (List.mem_singleton.mp member)
  have durationPlain : ∀ piece ∈ Regex.literal durationText, piece.IsPlain :=
    fun _ => isPlain_of_mem_literal
  have patternPlain : ∀ piece ∈ Regex.literal titlePattern, piece.IsPlain :=
    fun _ => isPlain_of_mem_literal
  have group : Regex.groupText = Regex.written [.group] := rfl
  obtain ⟨first, firstWritten, firstPlain⟩ :=
    exists_replaceFirst_plain (findsPieces_wrapped titlePlaceholder) groupPlain patternPlain
  obtain ⟨second, secondWritten, secondPlain⟩ :=
    exists_replaceFirst_plain (findsPieces_wrapped durationPlaceholder) durationPlain firstPlain
  obtain ⟨third, thirdWritten, thirdPlain⟩ :=
    exists_replaceFirst_plain titleFinder groupPlain secondPlain
  obtain ⟨fourth, fourthWritten, fourthPlain⟩ :=
    exists_replaceFirst_plain durationFinder durationPlain thirdPlain
  refine ⟨fourth, ?_, fourthPlain⟩
  rw [substituted, ← Regex.written_literal, ← Regex.written_literal, group, firstWritten,
    secondWritten, thirdWritten, fourthWritten]

/-- An extraction is the written form of a regular expression that comes from the first four
rewrites by those of the other calls and placeholders. -/
theorem exists_extraction (titlePattern durationText : Text) :
    ∃ start called regex : Regex,
      substituted titlePattern durationText = start.written ∧
        (∀ piece ∈ start, piece.IsPlain) ∧
        Regex.Rewritten anyCall [.line] start called ∧
        Regex.Rewritten anyPlaceholder [.line] called regex ∧
        extraction titlePattern durationText = regex.written := by
  have line : Regex.lineText = Regex.written [.line] := rfl
  obtain ⟨start, startWritten, plain⟩ := exists_substituted titlePattern durationText
  obtain ⟨called, callsRewritten, calledWritten⟩ :=
    Regex.exists_rewritten findsPieces_anyCall [.line] start
  obtain ⟨regex, placeholdersRewritten, regexWritten⟩ :=
    Regex.exists_rewritten findsPieces_anyPlaceholder [.line] called
  refine ⟨start, called, regex, startWritten, plain, callsRewritten, placeholdersRewritten, ?_⟩
  rw [extraction_eq, startWritten, line, calledWritten, regexWritten]

/-- Shapes and extractions are written regular expressions and are read back, so cleaning always
searches for the shape and always replaces the match of the extraction. -/
theorem shape_extraction_readable :
    (∀ sample, ∃ regex : Regex,
      shape sample = regex.written ∧ Regex.ofText? (shape sample) = some regex) ∧
    (∀ titlePattern durationText, ∃ regex : Regex,
      extraction titlePattern durationText = regex.written ∧
        Regex.ofText? (extraction titlePattern durationText) = some regex) ∧
    ∀ current durationPattern titlePattern, ∃ shown kept : Regex,
      Regex.ofText? (shape (probe current durationPattern)) = some shown ∧
        matchedDuration current durationPattern =
          ((shown.search current).map (·.matched)).getD fallbackMatch ∧
        Regex.ofText?
          (extraction titlePattern (matchedDuration current durationPattern)) = some kept ∧
        cleanTitle current durationPattern titlePattern = kept.keepCaptured current := by
  have shapes (sample : Text) :
      ∃ regex : Regex,
        shape sample = regex.written ∧ Regex.ofText? (shape sample) = some regex :=
    ⟨shapeRegex sample, shape_eq_written sample, by
      rw [shape_eq_written, Regex.ofText?_written]⟩
  have extractions (titlePattern durationText : Text) :
      ∃ regex : Regex,
        extraction titlePattern durationText = regex.written ∧
          Regex.ofText? (extraction titlePattern durationText) = some regex := by
    obtain ⟨_, _, regex, _, _, _, _, written⟩ := exists_extraction titlePattern durationText
    exact ⟨regex, written, by rw [written, Regex.ofText?_written]⟩
  refine ⟨shapes, extractions, ?_⟩
  intro current durationPattern titlePattern
  obtain ⟨shown, _, shownRead⟩ := shapes (probe current durationPattern)
  obtain ⟨kept, _, keptRead⟩ :=
    extractions titlePattern (matchedDuration current durationPattern)
  exact ⟨shown, kept, shownRead, by rw [matchedDuration, shownRead], keptRead, by
    rw [cleanTitle, keptRead]⟩

/-- Cleaning only deletes: the cleaned title is the title without two of its parts. -/
theorem cleanTitle_deletes (current durationPattern titlePattern : Text) :
    (∃ before front kept back after,
      current = before ++ front ++ kept ++ back ++ after ∧
        cleanTitle current durationPattern titlePattern = before ++ kept ++ after) ∧
      (cleanTitle current durationPattern titlePattern).Sublist current ∧
      (cleanTitle current durationPattern titlePattern).length ≤ current.length := by
  have changed :
      ∃ before matched after kept,
        current = before ++ matched ++ after ∧
          cleanTitle current durationPattern titlePattern = before ++ kept ++ after ∧
          kept <:+: matched := by
    rw [cleanTitle]
    split
    · exact Regex.exists_keepCaptured _ current
    · exact ⟨current, [], [], [], by simp, by simp, List.infix_rfl⟩
  obtain ⟨before, matched, after, kept, current_eq, cleaned_eq, inside⟩ := changed
  have deleted : (cleanTitle current durationPattern titlePattern).Sublist current := by
    rw [cleaned_eq, current_eq]
    exact ((List.Sublist.refl before).append inside.sublist).append (List.Sublist.refl after)
  obtain ⟨front, back, rfl⟩ := inside
  refine ⟨⟨before, front, kept, back, after, ?_, cleaned_eq⟩, deleted, deleted.length_le⟩
  rw [current_eq]
  simp only [List.append_assoc]

end TitleStamp
