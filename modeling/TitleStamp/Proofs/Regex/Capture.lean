import Mathlib.Data.List.TakeWhile
import TitleStamp.Proofs.Regex.Accepts
import TitleStamp.Proofs.Regex.Written
import TitleStamp.Proofs.Text.Replace
import TitleStamp.Proofs.Text.Runs

/-!
# A group between two given texts

The expressions that extract a title are a group between two given texts.  If nothing follows the
group, keeping what it captures takes the first occurrence of the text before it away.  In
general the given texts are taken away together or the text stays as it is.
-/

namespace TitleStamp.Regex

/-- The regular expression of a line between two given texts. -/
def framed (start ending : Text) : Regex :=
  literal start ++ .group :: literal ending

theorem written_framed (start ending : Text) :
    (framed start ending).written = escape start ++ (groupText ++ escape ending) := by
  rw [framed, written_append, written_literal, written_cons, written_literal]
  rfl

theorem matchAt_literal_append (start text : Text) (later : Regex) :
    matchAt (literal start ++ later) text =
      (Text.after? start text).bind (matchAt later) := by
  induction start generalizing text with
  | nil => rfl
  | cons expected start inductionHypothesis =>
      cases text with
      | nil => rfl
      | cons character rest =>
          by_cases same : expected = character
          · subst character
            have step :
                matchAt (literal (expected :: start) ++ later) (expected :: rest) =
                  matchAt (literal start ++ later) rest := by
              simp [literal, matchAt, Piece.matchAt, exactlyAt]
            rw [step, inductionHypothesis]
            simp [Text.after?]
          · simp [literal, matchAt, Piece.matchAt, exactlyAt, Text.after?, same, Ne.symm same]

private theorem matchAt_literal (start text : Text) :
    matchAt (literal start) text =
      (Text.after? start text).map fun rest => ⟨rest, none⟩ := by
  have split := matchAt_literal_append start text []
  rw [List.append_nil] at split
  rw [split]
  cases Text.after? start text <;> rfl

/-- A group takes the longest run of the line after which the rest still matches. -/
private theorem groupAt_longest
    {next : Text → Option Hit} {run rest : Text} {hit : Hit}
    (oneLine : '\n' ∉ run)
    (found : next rest = some hit)
    (longer : ∀ shorter : Text, shorter.length < rest.length → next shorter = none) :
    groupAt next (run ++ rest) = some ⟨hit.rest, some run⟩ := by
  have tooLate :
      ∀ text : Text, text.length < rest.length → groupAt next text = none := by
    intro text
    induction text with
    | nil =>
        intro short
        simp [groupAt, longer [] short]
    | cons character text inductionHypothesis =>
        intro short
        have later := inductionHypothesis (by simp only [List.length_cons] at short; omega)
        simp [groupAt, later, longer _ short]
  induction run with
  | nil =>
      cases rest with
      | nil =>
          simp [groupAt, found, Hit.openGroup]
      | cons character rest =>
          have later := tooLate rest (by simp)
          simp [groupAt, later, found, Hit.openGroup]
  | cons character run inductionHypothesis =>
      simp only [List.mem_cons, not_or] at oneLine
      have later := inductionHypothesis oneLine.2
      simp [groupAt, later, Ne.symm oneLine.1, Hit.capture]

theorem matchAt_framed
    {start run ending : Text}
    (oneLine : '\n' ∉ run) :
    matchAt (framed start ending) (start ++ run ++ ending) = some ⟨[], some run⟩ := by
  rw [framed, matchAt_literal_append, List.append_assoc, Text.after?_append]
  have atEnding : matchAt (literal ending) ending = some ⟨[], none⟩ := by
    have whole := Text.after?_append ending []
    rw [List.append_nil] at whole
    rw [matchAt_literal, whole]
    rfl
  have tooShort :
      ∀ shorter : Text, shorter.length < ending.length →
        matchAt (literal ending) shorter = none := by
    intro shorter short
    rw [matchAt_literal, Text.after?_eq_none_of_length_lt short]
    rfl
  exact groupAt_longest oneLine atEnding tooShort

theorem matchAt_group (text : Text) :
    matchAt [.group] text =
      some ⟨text.dropWhile (· ≠ '\n'), some (text.takeWhile (· ≠ '\n'))⟩ := by
  change groupAt (matchAt []) text = _
  induction text with
  | nil => rfl
  | cons character rest inductionHypothesis =>
      by_cases feed : character = '\n'
      · simp [groupAt, feed, matchAt, Hit.openGroup]
      · rw [groupAt, if_neg feed, inductionHypothesis]
        simp [feed, Hit.capture]

theorem matchAt_framed_nil (start text : Text) :
    matchAt (framed start []) text =
      (Text.after? start text).map fun rest =>
        ⟨rest.dropWhile (· ≠ '\n'), some (rest.takeWhile (· ≠ '\n'))⟩ := by
  rw [framed, matchAt_literal_append]
  cases found : Text.after? start text with
  | none => rfl
  | some rest =>
      exact matchAt_group rest

theorem keepCaptured_of_matchAt
    {regex : Regex} {text : Text} {hit : Hit}
    (found : matchAt regex text = some hit) :
    regex.keepCaptured text = hit.captured.getD [] ++ hit.rest := by
  simp [keepCaptured, search_of_matchAt found]

theorem keepCaptured_cons_of_none
    {regex : Regex} {character : Char} {rest : Text}
    (missed : matchAt regex (character :: rest) = none) :
    regex.keepCaptured (character :: rest) = character :: regex.keepCaptured rest := by
  rw [keepCaptured, search_cons_of_none missed, keepCaptured]
  cases regex.search rest <;> rfl

/-- A line in its frame is captured. -/
theorem keepCaptured_framed
    {start run ending : Text}
    (oneLine : '\n' ∉ run) :
    (framed start ending).keepCaptured (start ++ run ++ ending) = run := by
  rw [keepCaptured_of_matchAt (matchAt_framed oneLine)]
  exact List.append_nil run

/-- If nothing follows the group, keeping what it captures removes what stands before it. -/
theorem keepCaptured_framed_nil (start text : Text) :
    (framed start []).keepCaptured text =
      Text.replaceFirst (Text.after? start) [] text := by
  induction text with
  | nil =>
      cases found : Text.after? start [] with
      | none =>
          have missed : matchAt (framed start []) [] = none := by
            rw [matchAt_framed_nil, found]
            rfl
          rw [keepCaptured, search_nil_of_none missed]
          rfl
      | some rest =>
          have split := Text.after?_eq_some_iff.mp found
          obtain ⟨rfl, rfl⟩ := List.append_eq_nil_iff.mp split.symm
          rfl
  | cons character rest inductionHypothesis =>
      cases found : Text.after? start (character :: rest) with
      | none =>
          have missed : matchAt (framed start []) (character :: rest) = none := by
            rw [matchAt_framed_nil, found]
            rfl
          rw [keepCaptured_cons_of_none missed, inductionHypothesis]
          simp only [Text.replaceFirst, found]
      | some remainder =>
          have here := matchAt_framed_nil start (character :: rest)
          rw [found] at here
          rw [keepCaptured_of_matchAt here, Text.replaceFirst_of_find (by simp) found]
          exact List.takeWhile_append_dropWhile

private theorem length_of_accepts_literal
    {text matched : Text} {captured : Option Text}
    (accepted : Accepts (literal text) matched captured) :
    matched.length = text.length := by
  induction text generalizing matched with
  | nil =>
      cases accepted
      rfl
  | cons character rest inductionHypothesis =>
      cases accepted with
      | exactly _ later =>
          rw [List.length_cons, List.length_cons, inductionHypothesis later]

private theorem length_of_accepts_framed
    {start ending matched : Text} {captured : Option Text}
    (accepted : Accepts (framed start ending) matched captured) :
    ∃ run, captured = some run ∧
      matched.length = start.length + run.length + ending.length := by
  induction start generalizing matched with
  | nil =>
      cases accepted with
      | @group run text _ _ _ later =>
          refine ⟨run, rfl, ?_⟩
          rw [List.length_append, length_of_accepts_literal later, List.length_nil,
            Nat.zero_add]
  | cons character start inductionHypothesis =>
      cases accepted with
      | exactly _ later =>
          obtain ⟨run, same, length⟩ := inductionHypothesis later
          refine ⟨run, same, ?_⟩
          rw [List.length_cons, List.length_cons, length]
          omega

/-- Keeping what a framed group captures takes the whole frame away or nothing. -/
theorem length_keepCaptured_framed (start ending text : Text) :
    (framed start ending).keepCaptured text = text ∨
      ((framed start ending).keepCaptured text).length + start.length + ending.length =
        text.length := by
  cases searched : (framed start ending).search text with
  | none =>
      exact Or.inl (by rw [keepCaptured, searched])
  | some found =>
      obtain ⟨split, accepted⟩ := accepts_of_search searched
      obtain ⟨run, captured, length⟩ := length_of_accepts_framed accepted
      right
      have whole := congrArg List.length split
      simp only [List.length_append] at whole
      simp only [keepCaptured, searched, captured, Option.getD_some, List.length_append]
      omega

/-- Keeping what is captured puts a part of what is matched in the place of the whole. -/
theorem exists_keepCaptured (regex : Regex) (text : Text) :
    ∃ before matched after kept,
      text = before ++ matched ++ after ∧
        regex.keepCaptured text = before ++ kept ++ after ∧
        kept <:+: matched := by
  cases searched : regex.search text with
  | none =>
      refine ⟨text, [], [], [], by simp, ?_, List.infix_rfl⟩
      simp [keepCaptured, searched]
  | some found =>
      obtain ⟨split, accepted⟩ := accepts_of_search searched
      refine ⟨found.before, found.matched, found.after, found.captured.getD [], split, ?_,
        accepted.captured_infix⟩
      rw [keepCaptured, searched]

/-- The expression consists of runs of any characters, so that it asks for none. -/
def AsksForNothing (regex : Regex) : Prop :=
  ∀ piece ∈ regex, piece = .line ∨ piece = .group

/-- What an expression asks for is not captured. -/
private theorem length_captured_lt
    {regex : Regex} {matched : Text} {captured : Option Text}
    (accepted : Accepts regex matched captured)
    (asks : ¬regex.AsksForNothing) :
    (captured.getD []).length < matched.length := by
  have tailAsks {piece : Piece} {later : Regex}
      (run : piece = .line ∨ piece = .group)
      (asks : ¬AsksForNothing (piece :: later)) :
      ¬later.AsksForNothing := by
    intro nothing
    exact asks (List.forall_mem_cons.mpr ⟨run, nothing⟩)
  induction accepted with
  | nil =>
      exact absurd (fun _ member => absurd member List.not_mem_nil) asks
  | exactly _ later _ =>
      have shorter := later.captured_infix.length_le
      rw [List.length_cons]
      omega
  | digits nonempty _ later _ =>
      have shorter := later.captured_infix.length_le
      have positive := List.length_pos_iff.mpr nonempty
      rw [List.length_append]
      omega
  | line _ _ inductionHypothesis =>
      have shorter := inductionHypothesis (tailAsks (Or.inl rfl) asks)
      rw [List.length_append]
      omega
  | group _ _ inductionHypothesis =>
      have shorter := inductionHypothesis (tailAsks (Or.inr rfl) asks)
      rw [Option.getD_some, List.length_append]
      omega

private theorem lineAt_of_endOfLine
    {next : Text → Option Hit} {text : Text} {hit : Hit}
    (found : next (text.dropWhile (· ≠ '\n')) = some hit) :
    lineAt next text = some hit := by
  induction text with
  | nil => exact found
  | cons character rest inductionHypothesis =>
      by_cases feed : character = '\n'
      · simpa [lineAt, feed] using found
      · have later : next (rest.dropWhile (· ≠ '\n')) = some hit := by
          simpa [feed] using found
        simp [lineAt, feed, inductionHypothesis later]

private theorem groupAt_of_endOfLine
    {next : Text → Option Hit} {text : Text} {hit : Hit}
    (found : next (text.dropWhile (· ≠ '\n')) = some hit) :
    groupAt next text = some ⟨hit.rest, some (text.takeWhile (· ≠ '\n'))⟩ := by
  induction text with
  | nil =>
      have atEnd : next [] = some hit := found
      simp [groupAt, atEnd, Hit.openGroup]
  | cons character rest inductionHypothesis =>
      by_cases feed : character = '\n'
      · have here : next (character :: rest) = some hit := by
          simpa [feed] using found
        subst feed
        simp [groupAt, here, Hit.openGroup]
      · have later : next (rest.dropWhile (· ≠ '\n')) = some hit := by
          simpa [feed] using found
        simp [groupAt, feed, inductionHypothesis later, Hit.capture]

/-- At the end of a line an expression that asks for nothing takes nothing. -/
private theorem matchAt_of_asksForNothing
    {regex : Regex} {text : Text}
    (nothing : regex.AsksForNothing)
    (ended : text.dropWhile (· ≠ '\n') = text) :
    ∃ captured, matchAt regex text = some ⟨text, captured⟩ ∧ captured.getD [] = [] := by
  induction regex with
  | nil => exact ⟨none, rfl, rfl⟩
  | cons piece later inductionHypothesis =>
      obtain ⟨run, nothingLater⟩ := List.forall_mem_cons.mp nothing
      obtain ⟨captured, found, empty⟩ := inductionHypothesis nothingLater
      rw [← ended] at found
      rcases run with rfl | rfl
      · refine ⟨captured, ?_, empty⟩
        have here := lineAt_of_endOfLine found
        rwa [ended] at here
      · refine ⟨some (text.takeWhile (· ≠ '\n')), ?_, ?_⟩
        · have here := groupAt_of_endOfLine found
          rwa [ended] at here
        · exact List.takeWhile_eq_nil_iff.mpr (List.dropWhile_eq_self_iff.mp ended)

private theorem keepCaptured_of_asksForNothing
    {regex : Regex} (text : Text)
    (nothing : regex.AsksForNothing) :
    regex.keepCaptured text =
      if regex.head? = some .line then text.dropWhile (· ≠ '\n') else text := by
  cases regex with
  | nil =>
      have here : matchAt [] text = some ⟨text, none⟩ := rfl
      rw [keepCaptured_of_matchAt here]
      rfl
  | cons piece later =>
      obtain ⟨run, nothingLater⟩ := List.forall_mem_cons.mp nothing
      obtain ⟨captured, found, empty⟩ :=
        matchAt_of_asksForNothing nothingLater
          (Text.dropWhile_of_startsOutside (Text.startsOutside_dropWhile (· ≠ '\n') text))
      rcases run with rfl | rfl
      · have here : matchAt (.line :: later) text = some ⟨_, captured⟩ :=
          lineAt_of_endOfLine found
        rw [keepCaptured_of_matchAt here, empty]
        rfl
      · have here : matchAt (.group :: later) text = some ⟨_, some _⟩ :=
          groupAt_of_endOfLine found
        rw [keepCaptured_of_matchAt here]
        exact List.takeWhile_append_dropWhile

private theorem not_matchesNowhere_of_asksForNothing
    {regex : Regex} (text : Text)
    (nothing : regex.AsksForNothing) :
    ¬regex.MatchesNowhere text := by
  have accepted : ∃ captured, Accepts regex [] captured := by
    induction regex with
    | nil => exact ⟨none, .nil⟩
    | cons piece later inductionHypothesis =>
        obtain ⟨run, nothingLater⟩ := List.forall_mem_cons.mp nothing
        obtain ⟨captured, accepted⟩ := inductionHypothesis nothingLater
        rcases run with rfl | rfl
        · exact ⟨captured, .line List.not_mem_nil accepted⟩
        · exact ⟨some [], .group List.not_mem_nil accepted⟩
  obtain ⟨captured, accepted⟩ := accepted
  intro nowhere
  exact nowhere [] captured List.nil_infix accepted

/-- Keeping what is captured leaves a text alone if there is no match, or if the expression asks
for nothing and its group takes the line. -/
theorem keepCaptured_eq_self_iff {regex : Regex} {text : Text} :
    regex.keepCaptured text = text ↔
      regex.MatchesNowhere text ∨
        regex.AsksForNothing ∧
          (regex.head? ≠ some .line ∨ text.takeWhile (· ≠ '\n') = []) := by
  by_cases nothing : regex.AsksForNothing
  · have matched := not_matchesNowhere_of_asksForNothing text nothing
    rw [keepCaptured_of_asksForNothing text nothing]
    by_cases first : regex.head? = some .line
    · have taken :
          text.dropWhile (· ≠ '\n') = text ↔ text.takeWhile (· ≠ '\n') = [] := by
        rw [List.dropWhile_eq_self_iff, List.takeWhile_eq_nil_iff]
        rfl
      simp only [first, if_true, taken, matched, nothing, ne_eq, not_true_eq_false, false_or,
        true_and]
    · simp [first, nothing]
  · cases searched : regex.search text with
    | none =>
        simp [keepCaptured, searched, search_eq_none_iff.mp searched]
    | some found =>
        have matched : ¬regex.MatchesNowhere text := by
          rw [← search_eq_none_iff, searched]
          simp
        obtain ⟨split, accepted⟩ := accepts_of_search searched
        have shorter := length_captured_lt accepted nothing
        simp only [matched, nothing, false_and, or_false, iff_false]
        intro kept
        simp only [keepCaptured, searched] at kept
        have lengths := congrArg List.length (kept.trans split)
        simp only [List.length_append] at lengths
        omega

end TitleStamp.Regex
