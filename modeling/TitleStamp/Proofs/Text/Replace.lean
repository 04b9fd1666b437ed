import TitleStamp.Text.Replace

/-!
# Where a finder matches

Replacement copies every part of a text in which its finder matches nowhere and resumes behind
that part.  A replaced text is therefore computed part by part.
-/

namespace TitleStamp

namespace Text

theorem after?_append (start rest : Text) :
    after? start (start ++ rest) = some rest := by
  induction start with
  | nil => rfl
  | cons expected start inductionHypothesis =>
      simpa [after?] using inductionHypothesis

theorem after?_eq_some_iff {start text rest : Text} :
    after? start text = some rest ↔ text = start ++ rest := by
  constructor
  · intro found
    induction start generalizing text with
    | nil =>
        exact Option.some.inj found
    | cons expected start inductionHypothesis =>
        cases text with
        | nil =>
            cases found
        | cons character text =>
            by_cases same : expected = character
            · subst character
              rw [after?, if_pos rfl] at found
              rw [inductionHypothesis found, List.cons_append]
            · rw [after?, if_neg same] at found
              cases found
  · rintro rfl
    exact after?_append start rest

theorem after?_eq_none_of_head?_ne
    {opening : Char} {start text : Text}
    (different : text.head? ≠ some opening) :
    after? (opening :: start) text = none := by
  cases text with
  | nil => rfl
  | cons first rest =>
      have notFirst : opening ≠ first := by
        rintro rfl
        exact different rfl
      rw [after?, if_neg notFirst]

theorem before?_eq_some_iff {ending text rest : Text} :
    before? ending text = some rest ↔ text = rest ++ ending := by
  rw [before?, Option.map_eq_some_iff]
  constructor
  · rintro ⟨reversed, found, rfl⟩
    rw [← List.reverse_inj, after?_eq_some_iff.mp found, List.reverse_append, List.reverse_reverse]
  · rintro rfl
    refine ⟨rest.reverse, ?_, List.reverse_reverse rest⟩
    rw [List.reverse_append, after?_append]

/-- A start longer than the text is not found. -/
theorem after?_eq_none_of_length_lt
    {start text : Text}
    (short : text.length < start.length) :
    after? start text = none := by
  cases found : after? start text with
  | none => rfl
  | some rest =>
      have split := after?_eq_some_iff.mp found
      rw [split, List.length_append] at short
      omega

end Text

/-- The finder matches at no place of a part of a text, given what follows the part. -/
def Finder.Misses (find : Finder) (part following : Text) : Prop :=
  ∀ skipped rest, part = skipped ++ rest → rest ≠ [] → find (rest ++ following) = none

namespace Finder

variable {find : Finder} {part following : Text}

theorem misses_nil : find.Misses [] following := by
  intro skipped rest split nonempty
  exact absurd (List.append_eq_nil_iff.mp split.symm).2 nonempty

theorem misses_cons_iff {character : Char} :
    find.Misses (character :: part) following ↔
      find (character :: part ++ following) = none ∧ find.Misses part following := by
  constructor
  · intro missed
    refine ⟨missed [] _ rfl (by simp), ?_⟩
    intro skipped rest split nonempty
    exact missed (character :: skipped) rest (by rw [split, List.cons_append]) nonempty
  · rintro ⟨here, later⟩ skipped rest split nonempty
    cases skipped with
    | nil =>
        rw [List.nil_append] at split
        rw [← split]
        exact here
    | cons other skipped =>
        rw [List.cons_append, List.cons.injEq] at split
        exact later skipped rest split.2 nonempty

theorem misses_append_iff {front : Text} :
    find.Misses (front ++ part) following ↔
      find.Misses front (part ++ following) ∧ find.Misses part following := by
  induction front with
  | nil =>
      simp [misses_nil]
  | cons character front inductionHypothesis =>
      rw [List.cons_append, misses_cons_iff, misses_cons_iff, inductionHypothesis, and_assoc,
        List.cons_append, List.cons_append, List.append_assoc]

/-- A finder whose matches start with one given character misses every part without it. -/
theorem misses_of_not_mem
    {opening : Char}
    (opens : ∀ {text remainder}, find text = some remainder → text.head? = some opening)
    (absent : opening ∉ part) :
    find.Misses part following := by
  intro skipped rest split nonempty
  cases found : find (rest ++ following) with
  | none => rfl
  | some remainder =>
      cases rest with
      | nil =>
          exact absurd rfl nonempty
      | cons first others =>
          have same : first = opening := Option.some.inj (opens found)
          subst same
          exact absurd (by rw [split]; simp) absent

end Finder

namespace Text

variable {find : Finder} {replacement part following text : Text}

theorem replaceFirst_of_find
    {remainder : Text}
    (nonempty : text ≠ [])
    (found : find text = some remainder) :
    replaceFirst find replacement text = replacement ++ remainder := by
  cases text with
  | nil =>
      exact absurd rfl nonempty
  | cons character rest =>
      simp only [replaceFirst, found]

theorem replaceFirst_after?_append
    {start : Text} (rest : Text)
    (nonempty : start ≠ []) :
    replaceFirst (after? start) replacement (start ++ rest) = replacement ++ rest :=
  replaceFirst_of_find (List.append_ne_nil_of_left_ne_nil nonempty rest)
    (after?_append start rest)

theorem replaceFirst_append (missed : find.Misses part following) :
    replaceFirst find replacement (part ++ following) =
      part ++ replaceFirst find replacement following := by
  induction part with
  | nil => rfl
  | cons character part inductionHypothesis =>
      obtain ⟨here, later⟩ := Finder.misses_cons_iff.mp missed
      rw [List.cons_append] at here ⊢
      simp only [replaceFirst, here, inductionHypothesis later, List.cons_append]

theorem replaceFirst_eq_self (missed : find.Misses text []) :
    replaceFirst find replacement text = text := by
  have copied :
      replaceFirst find replacement (text ++ []) = text ++ replaceFirst find replacement [] :=
    replaceFirst_append missed
  simpa [replaceFirst] using copied

theorem replaceFirst_after?_cases (start replacement text : Text) :
    replaceFirst (after? start) replacement text = text ∨
      ∃ before rest, text = before ++ (start ++ rest) ∧
        replaceFirst (after? start) replacement text = before ++ (replacement ++ rest) := by
  induction text with
  | nil => exact Or.inl rfl
  | cons character text inductionHypothesis =>
      cases found : after? start (character :: text) with
      | some rest =>
          right
          have split : character :: text = start ++ rest := after?_eq_some_iff.mp found
          exact ⟨[], rest, split, replaceFirst_of_find (List.cons_ne_nil _ _) found⟩
      | none =>
          rw [replaceFirst, found]
          rcases inductionHypothesis with same | ⟨before, rest, split, replaced⟩
          · exact Or.inl (congrArg (character :: ·) same)
          · right
            refine ⟨character :: before, rest, ?_, ?_⟩
            · rw [split, List.cons_append]
            · rw [List.cons_append]
              exact congrArg (character :: ·) replaced

/-- Taking a text out of another leaves the other alone exactly if it is no part of it. -/
theorem replaceFirst_after?_nil_eq_self_iff
    {start text : Text}
    (nonempty : start ≠ []) :
    replaceFirst (after? start) [] text = text ↔ ¬start <:+: text := by
  induction text with
  | nil => simp [replaceFirst, nonempty]
  | cons character text inductionHypothesis =>
      cases found : after? start (character :: text) with
      | some rest =>
          have split : character :: text = start ++ rest := after?_eq_some_iff.mp found
          have inside : start <:+: character :: text := ⟨[], rest, by rw [split, List.nil_append]⟩
          rw [replaceFirst_of_find (List.cons_ne_nil _ _) found, List.nil_append]
          refine iff_of_false ?_ (not_not_intro inside)
          rw [split]
          exact fun kept => nonempty (List.append_left_eq_self.mp kept.symm)
      | none =>
          have notFirst : ¬start <+: character :: text := by
            rintro ⟨rest, split⟩
            rw [← split, after?_append] at found
            cases found
          rw [replaceFirst, found, List.infix_cons_iff]
          simp [notFirst, inductionHypothesis]

theorem replaceAll_append (missed : find.Misses part following) :
    replaceAll find replacement (part ++ following) =
      part ++ replaceAll find replacement following := by
  induction part with
  | nil => rfl
  | cons character part inductionHypothesis =>
      obtain ⟨here, later⟩ := Finder.misses_cons_iff.mp missed
      rw [List.cons_append] at here ⊢
      have resumed := inductionHypothesis later
      simp only [replaceAll] at resumed ⊢
      simp only [replaceAllFrom, here, resumed, List.cons_append]

theorem replaceAll_eq_self (missed : find.Misses text []) :
    replaceAll find replacement text = text := by
  have copied :
      replaceAll find replacement (text ++ []) = text ++ replaceAll find replacement [] :=
    replaceAll_append missed
  simpa [replaceAll, replaceAllFrom] using copied

private theorem replaceAllFrom_eq_drop (matched : Nat) (text : Text) :
    replaceAllFrom find replacement matched text =
      replaceAllFrom find replacement 0 (text.drop matched) := by
  induction matched generalizing text with
  | zero => rw [List.drop_zero]
  | succ matched inductionHypothesis =>
      cases text with
      | nil => rfl
      | cons character rest =>
          rw [replaceAllFrom, inductionHypothesis, List.drop_succ_cons]

/-- Behind a match the replacement goes on with what follows it. -/
theorem replaceAll_of_find
    {matched rest : Text}
    (nonempty : matched ≠ [])
    (found : find (matched ++ rest) = some rest) :
    replaceAll find replacement (matched ++ rest) =
      replacement ++ replaceAll find replacement rest := by
  cases matched with
  | nil => exact absurd rfl nonempty
  | cons character others =>
      rw [List.cons_append] at found ⊢
      rw [replaceAll, replaceAllFrom, found]
      simp only [List.length_append, Nat.add_sub_cancel]
      rw [replaceAllFrom_eq_drop, List.drop_left, replaceAll]

end Text

end TitleStamp
