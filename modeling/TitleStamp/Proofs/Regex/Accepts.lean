import TitleStamp.Proofs.Regex.Match

/-!
# The texts that a regular expression matches

`Regex.Accepts` says which texts a regular expression matches as a whole and what its first group
captures then.  Every hit is an accepted text, and a text that starts with an accepted one has a
hit.
-/

namespace TitleStamp.Regex

/-- The regular expression matches the whole text, and its first group captures the given part
of it. -/
inductive Accepts : Regex → Text → Option Text → Prop
  | nil : Accepts [] [] none
  | exactly (character : Char) {later : Regex} {text : Text} {captured : Option Text} :
      Accepts later text captured →
      Accepts (.exactly character :: later) (character :: text) captured
  | digits {run text : Text} {later : Regex} {captured : Option Text} :
      run ≠ [] →
      (∀ character ∈ run, character.isDigit = true) →
      Accepts later text captured →
      Accepts (.digits :: later) (run ++ text) captured
  | line {run text : Text} {later : Regex} {captured : Option Text} :
      '\n' ∉ run →
      Accepts later text captured →
      Accepts (.line :: later) (run ++ text) captured
  | group {run text : Text} {later : Regex} {captured : Option Text} :
      '\n' ∉ run →
      Accepts later text captured →
      Accepts (.group :: later) (run ++ text) (some run)

variable {next : Text → Option Hit} {text : Text} {hit : Hit}

theorem exactlyAt_eq_some
    {expected : Char}
    (found : exactlyAt expected next text = some hit) :
    ∃ rest, text = expected :: rest ∧ next rest = some hit := by
  cases text with
  | nil =>
      simp [exactlyAt] at found
  | cons character rest =>
      by_cases same : character = expected
      · subst character
        exact ⟨rest, rfl, by simpa [exactlyAt] using found⟩
      · simp [exactlyAt, same] at found

theorem digitsAt_eq_some (found : digitsAt next text = some hit) :
    ∃ run rest, run ≠ [] ∧ (∀ character ∈ run, character.isDigit = true) ∧
      text = run ++ rest ∧ next rest = some hit := by
  induction text with
  | nil =>
      simp [digitsAt] at found
  | cons character rest inductionHypothesis =>
      by_cases digit : character.isDigit = true
      · simp only [digitsAt, digit, if_true, Option.orElse_eq_orElse,
          Option.orElse_eq_or, Option.or_eq_some_iff] at found
        rcases found with longer | ⟨_, here⟩
        · obtain ⟨run, remaining, _, digits, split, later⟩ := inductionHypothesis longer
          refine ⟨character :: run, remaining, by simp, ?_, by rw [split, List.cons_append],
            later⟩
          simpa [digit] using digits
        · exact ⟨[character], rest, by simp, by simpa using digit, rfl, here⟩
      · simp [digitsAt, digit] at found

theorem lineAt_eq_some (found : lineAt next text = some hit) :
    ∃ run rest, '\n' ∉ run ∧ text = run ++ rest ∧ next rest = some hit := by
  induction text with
  | nil =>
      exact ⟨[], [], by simp, rfl, found⟩
  | cons character rest inductionHypothesis =>
      by_cases feed : character = '\n'
      · rw [lineAt, if_pos feed] at found
        exact ⟨[], character :: rest, by simp, rfl, found⟩
      · simp only [lineAt, feed, if_false, Option.orElse_eq_orElse, Option.orElse_eq_or,
          Option.or_eq_some_iff] at found
        rcases found with longer | ⟨_, here⟩
        · obtain ⟨run, remaining, oneLine, split, later⟩ := inductionHypothesis longer
          refine ⟨character :: run, remaining, ?_, by rw [split, List.cons_append], later⟩
          simp [oneLine, Ne.symm feed]
        · exact ⟨[], character :: rest, by simp, rfl, here⟩

theorem groupAt_eq_some (found : groupAt next text = some hit) :
    ∃ run rest inner, '\n' ∉ run ∧ text = run ++ rest ∧ next rest = some inner ∧
      hit = ⟨inner.rest, some run⟩ := by
  induction text generalizing hit with
  | nil =>
      obtain ⟨inner, here, rfl⟩ := Option.map_eq_some_iff.mp found
      exact ⟨[], [], inner, by simp, rfl, here, rfl⟩
  | cons character rest inductionHypothesis =>
      by_cases feed : character = '\n'
      · rw [groupAt, if_pos feed] at found
        obtain ⟨inner, here, rfl⟩ := Option.map_eq_some_iff.mp found
        exact ⟨[], character :: rest, inner, by simp, rfl, here, rfl⟩
      · simp only [groupAt, feed, if_false, Option.orElse_eq_orElse, Option.orElse_eq_or,
          Option.or_eq_some_iff, Option.map_eq_some_iff] at found
        rcases found with ⟨shorter, longer, rfl⟩ | ⟨_, inner, here, rfl⟩
        · obtain ⟨run, remaining, inner, oneLine, split, later, rfl⟩ :=
            inductionHypothesis longer
          refine ⟨character :: run, remaining, inner, ?_, by rw [split, List.cons_append],
            later, rfl⟩
          simp [oneLine, Ne.symm feed]
        · exact ⟨[], character :: rest, inner, by simp, rfl, here, rfl⟩

/-- A hit splits the text into an accepted part and what follows it. -/
theorem accepts_of_matchAt
    {regex : Regex}
    (found : matchAt regex text = some hit) :
    ∃ matched, text = matched ++ hit.rest ∧ Accepts regex matched hit.captured := by
  induction regex generalizing text hit with
  | nil =>
      cases found
      exact ⟨[], rfl, .nil⟩
  | cons piece later inductionHypothesis =>
      cases piece with
      | exactly expected =>
          obtain ⟨rest, rfl, after⟩ := exactlyAt_eq_some found
          obtain ⟨matched, split, accepted⟩ := inductionHypothesis after
          exact ⟨expected :: matched, by rw [split, List.cons_append], .exactly _ accepted⟩
      | digits =>
          obtain ⟨run, rest, nonempty, digits, rfl, after⟩ := digitsAt_eq_some found
          obtain ⟨matched, split, accepted⟩ := inductionHypothesis after
          exact ⟨run ++ matched, by rw [split, List.append_assoc],
            .digits nonempty digits accepted⟩
      | line =>
          obtain ⟨run, rest, oneLine, rfl, after⟩ := lineAt_eq_some found
          obtain ⟨matched, split, accepted⟩ := inductionHypothesis after
          exact ⟨run ++ matched, by rw [split, List.append_assoc], .line oneLine accepted⟩
      | group =>
          obtain ⟨run, rest, inner, oneLine, rfl, after, rfl⟩ := groupAt_eq_some found
          obtain ⟨matched, split, accepted⟩ := inductionHypothesis after
          exact ⟨run ++ matched, by rw [split, List.append_assoc], .group oneLine accepted⟩

private theorem digitsAt_isSome
    {run rest : Text}
    (nonempty : run ≠ [])
    (digits : ∀ character ∈ run, character.isDigit = true)
    (after : (next rest).isSome) :
    (digitsAt next (run ++ rest)).isSome := by
  induction run with
  | nil =>
      exact absurd rfl nonempty
  | cons character run inductionHypothesis =>
      have digit := digits character (by simp)
      simp only [List.cons_append, digitsAt, digit, if_true, Option.orElse_eq_orElse,
        Option.orElse_eq_or, Option.isSome_or, Bool.or_eq_true]
      cases run with
      | nil =>
          exact Or.inr after
      | cons second run =>
          exact Or.inl <|
            inductionHypothesis (by simp) fun other member =>
              digits other (List.mem_cons_of_mem _ member)

private theorem lineAt_isSome
    {run rest : Text}
    (oneLine : '\n' ∉ run)
    (after : (next rest).isSome) :
    (lineAt next (run ++ rest)).isSome := by
  induction run with
  | nil =>
      cases rest with
      | nil =>
          exact after
      | cons character rest =>
          rw [List.nil_append, lineAt]
          split
          · exact after
          · simp [after]
  | cons character run inductionHypothesis =>
      simp only [List.mem_cons, not_or] at oneLine
      have longer := inductionHypothesis oneLine.2
      simp [lineAt, Ne.symm oneLine.1, longer]

private theorem groupAt_isSome
    {run rest : Text}
    (oneLine : '\n' ∉ run)
    (after : (next rest).isSome) :
    (groupAt next (run ++ rest)).isSome := by
  induction run with
  | nil =>
      cases rest with
      | nil =>
          simpa [groupAt] using after
      | cons character rest =>
          rw [List.nil_append, groupAt]
          split
          · simpa using after
          · simp [after]
  | cons character run inductionHypothesis =>
      simp only [List.mem_cons, not_or] at oneLine
      have longer := inductionHypothesis oneLine.2
      simp [groupAt, Ne.symm oneLine.1, longer]

private theorem matchAt_isSome_of_accepts
    {regex : Regex} {matched : Text} {captured : Option Text}
    (accepted : Accepts regex matched captured) (rest : Text) :
    (matchAt regex (matched ++ rest)).isSome := by
  induction accepted with
  | nil =>
      rfl
  | exactly character _ inductionHypothesis =>
      simpa [matchAt, Piece.matchAt, exactlyAt] using inductionHypothesis
  | digits nonempty digits _ inductionHypothesis =>
      rw [List.append_assoc]
      exact digitsAt_isSome nonempty digits inductionHypothesis
  | line oneLine _ inductionHypothesis =>
      rw [List.append_assoc]
      exact lineAt_isSome oneLine inductionHypothesis
  | group oneLine _ inductionHypothesis =>
      rw [List.append_assoc]
      exact groupAt_isSome oneLine inductionHypothesis

/-- An expression matches at the start of exactly the texts that start with an accepted one. -/
theorem matchAt_isSome_iff {regex : Regex} {text : Text} :
    (matchAt regex text).isSome ↔
      ∃ matched captured rest, text = matched ++ rest ∧ Accepts regex matched captured := by
  constructor
  · intro some_hit
    obtain ⟨hit, found⟩ := Option.isSome_iff_exists.mp some_hit
    obtain ⟨matched, split, accepted⟩ := accepts_of_matchAt found
    exact ⟨matched, hit.captured, hit.rest, split, accepted⟩
  · rintro ⟨matched, captured, rest, rfl, accepted⟩
    exact matchAt_isSome_of_accepts accepted rest

/-- What a search finds lies in the text where it says, and the expression accepts it. -/
theorem accepts_of_search
    {regex : Regex} {found : Found}
    (searched : regex.search text = some found) :
    text = found.before ++ found.matched ++ found.after ∧
      Accepts regex found.matched found.captured := by
  induction text generalizing found with
  | nil =>
      cases here : matchAt regex [] with
      | none =>
          rw [search_nil_of_none here] at searched
          cases searched
      | some hit =>
          rw [search_of_matchAt here, Option.some.injEq] at searched
          subst searched
          obtain ⟨matched, split, accepted⟩ := accepts_of_matchAt here
          obtain ⟨rfl, rest⟩ := List.append_eq_nil_iff.mp split.symm
          exact ⟨by simp [rest], by simpa using accepted⟩
  | cons character rest inductionHypothesis =>
      cases here : matchAt regex (character :: rest) with
      | none =>
          rw [search_cons_of_none here] at searched
          obtain ⟨later, searchedRest, rfl⟩ := Option.map_eq_some_iff.mp searched
          obtain ⟨split, accepted⟩ := inductionHypothesis searchedRest
          refine ⟨?_, accepted⟩
          conv => lhs; rw [split]
          rfl
      | some hit =>
          rw [search_of_matchAt here, Option.some.injEq] at searched
          subst searched
          obtain ⟨matched, split, accepted⟩ := accepts_of_matchAt here
          have taken :
              (character :: rest).take ((character :: rest).length - hit.rest.length) =
                matched := by
            rw [split, List.length_append, Nat.add_sub_cancel, List.take_left]
          simp only [taken, List.nil_append]
          exact ⟨split, accepted⟩

/-- The first group captures something in what an expression matches exactly if it has one. -/
theorem Accepts.isSome_captured_iff
    {regex : Regex} {matched : Text} {captured : Option Text}
    (accepted : Accepts regex matched captured) :
    captured.isSome ↔ .group ∈ regex := by
  induction accepted with
  | nil => simp
  | exactly character _ inductionHypothesis => simp [inductionHypothesis]
  | digits _ _ _ inductionHypothesis => simp [inductionHypothesis]
  | line _ _ inductionHypothesis => simp [inductionHypothesis]
  | group _ _ _ => simp

/-- What the first group captures is a part of what the expression matches. -/
theorem Accepts.captured_infix
    {regex : Regex} {matched : Text} {captured : Option Text}
    (accepted : Accepts regex matched captured) :
    captured.getD [] <:+: matched := by
  induction accepted with
  | nil => exact List.infix_rfl
  | exactly character _ inductionHypothesis => exact List.infix_cons inductionHypothesis
  | digits _ _ _ inductionHypothesis =>
      exact inductionHypothesis.trans (List.suffix_append _ _).isInfix
  | line _ _ inductionHypothesis =>
      exact inductionHypothesis.trans (List.suffix_append _ _).isInfix
  | group _ _ _ => exact (List.prefix_append _ _).isInfix

/-- The expression matches no part of the text. -/
def MatchesNowhere (regex : Regex) (text : Text) : Prop :=
  ∀ part captured, part <:+: text → ¬Accepts regex part captured

theorem matchAt_suffix_of_search_eq_none
    {regex : Regex} {before : Text}
    (missed : regex.search (before ++ text) = none) :
    matchAt regex text = none := by
  induction before with
  | nil =>
      cases here : matchAt regex text with
      | none => rfl
      | some hit =>
          rw [List.nil_append, search_of_matchAt here] at missed
          cases missed
  | cons character before inductionHypothesis =>
      rw [List.cons_append] at missed
      cases here : matchAt regex (character :: (before ++ text)) with
      | none =>
          rw [search_cons_of_none here, Option.map_eq_none_iff] at missed
          exact inductionHypothesis missed
      | some hit =>
          rw [search_of_matchAt here] at missed
          cases missed

/-- A search fails exactly if the expression matches no part of the text. -/
theorem search_eq_none_iff {regex : Regex} :
    regex.search text = none ↔ regex.MatchesNowhere text := by
  constructor
  · rintro missed part captured ⟨before, after, rfl⟩ accepted
    rw [List.append_assoc] at missed
    have here := matchAt_isSome_iff.mpr ⟨part, captured, after, rfl, accepted⟩
    rw [matchAt_suffix_of_search_eq_none missed] at here
    cases here
  · intro nowhere
    cases searched : regex.search text with
    | none => rfl
    | some found =>
        obtain ⟨split, accepted⟩ := accepts_of_search searched
        exact absurd accepted (nowhere _ _ ⟨found.before, found.after, split.symm⟩)

end TitleStamp.Regex
