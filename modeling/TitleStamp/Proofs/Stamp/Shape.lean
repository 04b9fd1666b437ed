import TitleStamp.Proofs.Regex.Accepts
import TitleStamp.Proofs.Regex.Written
import TitleStamp.Proofs.Stamp.Skeleton
import TitleStamp.Stamp.Clean

/-!
# The shape of a text finds texts with the same skeleton

The shape of a text is the written regular expression of its skeleton.  What it matches has the
same skeleton, and where a text with that skeleton stands before no further digit, the match is
that text and not a part of it.
-/

namespace TitleStamp

/-- The piece that matches what one mark of a skeleton stands for. -/
def pieceOfMark : Option Char → Piece
  | none => .digits
  | some character => .exactly character

/-- The regular expression of the skeleton of a text. -/
def shapeRegex (text : Text) : Regex :=
  (skeleton text).map pieceOfMark

private theorem shapeFrom_eq_written (text : Text) :
    shapeFrom false text = (shapeRegex text).written ∧
      Regex.digitsText ++ shapeFrom true text =
        Regex.written ((collapse (none :: text.map face)).map pieceOfMark) := by
  induction text with
  | nil =>
      exact ⟨rfl, rfl⟩
  | cons character rest inductionHypothesis =>
      obtain ⟨fresh, running⟩ := inductionHypothesis
      by_cases digit : character.isDigit = true
      · have mark : face character = none := if_pos digit
        constructor
        · rw [shapeFrom, if_pos digit, if_neg (by simp), running, shapeRegex, skeleton,
            List.map_cons, mark]
        · rw [shapeFrom, if_pos digit, if_pos rfl, List.nil_append, running, List.map_cons,
            mark, collapse, collapse, collapse, List.head?_cons, if_pos rfl]
      · have mark : face character = some character := if_neg digit
        constructor
        · have notDigit : character.isDigit = false := by
            simpa using digit
          rw [shapeFrom, if_neg digit, fresh, shapeRegex, shapeRegex,
            skeleton_cons_of_not_digit _ notDigit]
          rfl
        · rw [shapeFrom, if_neg digit, fresh, List.map_cons, mark]
          rfl

theorem shape_eq_written (text : Text) :
    shape text = (shapeRegex text).written :=
  (shapeFrom_eq_written text).1

/-- What the shape of a text matches has the skeleton of that text. -/
theorem skeleton_eq_of_accepts
    {text matched : Text} {captured : Option Text}
    (accepted : Regex.Accepts (shapeRegex text) matched captured) :
    skeleton matched = skeleton text := by
  induction text generalizing matched with
  | nil =>
      cases accepted
      rfl
  | cons character rest inductionHypothesis =>
      rw [shapeRegex] at accepted
      by_cases digit : character.isDigit = true
      · by_cases stops : Text.StartsOutside Char.isDigit rest
        · rw [skeleton_cons_of_digit digit stops] at accepted ⊢
          cases accepted with
          | @digits run remaining _ _ nonempty digits later =>
              have same := inductionHypothesis later
              have stopsRemaining : Text.StartsOutside Char.isDigit remaining := by
                rw [← head?_skeleton_ne_none_iff, same]
                exact head?_skeleton_ne_none_iff.mpr stops
              rw [skeleton_digits_append nonempty digits stopsRemaining, same]
        · rw [skeleton_cons_of_repeated_digit digit stops] at accepted ⊢
          exact inductionHypothesis accepted
      · have notDigit : character.isDigit = false := by
          simpa using digit
        rw [skeleton_cons_of_not_digit _ notDigit] at accepted ⊢
        cases accepted with
        | exactly _ later =>
            rw [skeleton_cons_of_not_digit _ notDigit, inductionHypothesis later]

private theorem digitsAt_of_startsOutside
    {next : Text → Option Regex.Hit} {text : Text}
    (stops : Text.StartsOutside Char.isDigit text) :
    Regex.digitsAt next text = none := by
  cases text with
  | nil => rfl
  | cons character rest =>
      have notDigit := stops character rfl
      simp [Regex.digitsAt, notDigit]

/-- The shape of a text matches all of that text where no further digit follows. -/
theorem matchAt_shapeRegex
    (text : Text) {following : Text}
    (stops : Text.StartsOutside Char.isDigit following) :
    Regex.matchAt (shapeRegex text) (text ++ following) = some ⟨following, none⟩ := by
  induction text with
  | nil => rfl
  | cons character rest inductionHypothesis =>
      rw [shapeRegex] at inductionHypothesis ⊢
      by_cases digit : character.isDigit = true
      · by_cases stopsRest : Text.StartsOutside Char.isDigit rest
        · have stopsAll : Text.StartsOutside Char.isDigit (rest ++ following) := by
            cases rest with
            | nil => exact stops
            | cons second others => exact stopsRest
          rw [skeleton_cons_of_digit digit stopsRest]
          simp [pieceOfMark, Regex.matchAt, Piece.matchAt, Regex.digitsAt, digit,
            digitsAt_of_startsOutside stopsAll, inductionHypothesis]
        · have mark : (skeleton rest).head? = some none := by
            by_contra noMark
            exact stopsRest (head?_skeleton_ne_none_iff.mp noMark)
          rw [skeleton_cons_of_repeated_digit digit stopsRest]
          cases marks : skeleton rest with
          | nil =>
              rw [marks] at mark
              cases mark
          | cons first others =>
              rw [marks, List.head?_cons, Option.some.injEq] at mark
              subst mark
              rw [marks] at inductionHypothesis
              change Regex.digitsAt _ (rest ++ following) = _ at inductionHypothesis
              change Regex.digitsAt _ (character :: (rest ++ following)) = _
              rw [Regex.digitsAt, if_pos digit, inductionHypothesis]
              rfl
      · have notDigit : character.isDigit = false := by
          simpa using digit
        rw [skeleton_cons_of_not_digit _ notDigit]
        simp [pieceOfMark, Regex.matchAt, Piece.matchAt, Regex.exactlyAt,
          inductionHypothesis]

/-- No part of a text that starts in front of the given place has the given skeleton. -/
def NoEarlierLookAlike (place : Nat) (text sample : Text) : Prop :=
  ∀ before part after : Text, text = before ++ part ++ after → before.length < place →
    skeleton part ≠ skeleton sample

theorem noEarlierLookAlike_iff {place : Nat} {text sample : Text} :
    NoEarlierLookAlike place text sample ↔
      ∀ start < place, ∀ length ≤ text.length,
        skeleton ((text.drop start).take length) ≠ skeleton sample := by
  constructor
  · intro first start early length _
    have split :
        text = text.take start ++ (text.drop start).take length ++
          (text.drop start).drop length := by
      rw [List.append_assoc, List.take_append_drop, List.take_append_drop]
    refine first _ _ _ split ?_
    rw [List.length_take]
    omega
  · rintro none_found before part after rfl early
    have found :=
      none_found before.length early part.length (by simp only [List.length_append]; omega)
    rwa [List.append_assoc, List.drop_left, List.take_left] at found

instance (place : Nat) (text sample : Text) :
    Decidable (NoEarlierLookAlike place text sample) :=
  decidable_of_iff _ noEarlierLookAlike_iff.symm

theorem noEarlierLookAlike_zero (text sample : Text) : NoEarlierLookAlike 0 text sample :=
  fun _ _ _ _ early => absurd early (Nat.not_lt_zero _)

/-- A search for the shape finds the first text with the skeleton, if no digit follows it. -/
theorem search_shapeRegex
    {before sample following : Text}
    (stops : Text.StartsOutside Char.isDigit following)
    (first : NoEarlierLookAlike before.length (before ++ sample ++ following) sample) :
    (shapeRegex sample).search (before ++ (sample ++ following)) =
      some ⟨before, sample, none, following⟩ := by
  have missed :
      ∀ skipped rest, before = skipped ++ rest → rest ≠ [] →
        Regex.matchAt (shapeRegex sample) (rest ++ (sample ++ following)) = none := by
    intro skipped rest split nonempty
    cases found : Regex.matchAt (shapeRegex sample) (rest ++ (sample ++ following)) with
    | none => rfl
    | some hit =>
        obtain ⟨matched, parts, accepted⟩ := Regex.accepts_of_matchAt found
        have earlier : skipped.length < before.length := by
          have := List.length_pos_iff.mpr nonempty
          rw [split, List.length_append]
          omega
        have whole : before ++ sample ++ following = skipped ++ matched ++ hit.rest := by
          rw [split, List.append_assoc, List.append_assoc, parts, List.append_assoc]
        exact absurd (skeleton_eq_of_accepts accepted) (first _ _ _ whole earlier)
  rw [Regex.search_append missed (matchAt_shapeRegex sample stops)]
  simp

theorem matchedDuration_eq (current durationPattern : Text) :
    matchedDuration current durationPattern =
      (((shapeRegex (probe current durationPattern)).search current).map
        (·.matched)).getD fallbackMatch := by
  rw [matchedDuration, shape_eq_written, Regex.ofText?_written]

/-- The stamp is recognized if the probe has its skeleton and no look-alike stands before it. -/
theorem matchedDuration_of_skeleton
    {before sample following durationPattern : Text}
    (learned :
      skeleton (probe (before ++ sample ++ following) durationPattern) = skeleton sample)
    (stops : Text.StartsOutside Char.isDigit following)
    (first : NoEarlierLookAlike before.length (before ++ sample ++ following) sample) :
    matchedDuration (before ++ sample ++ following) durationPattern = sample := by
  rw [matchedDuration_eq, shapeRegex, learned, ← shapeRegex, List.append_assoc,
    search_shapeRegex stops first]
  rfl

/-- What is taken for the duration lies in the title and has the skeleton of the probe, or it
is the text taken where nothing is found. -/
theorem matchedDuration_cases (current durationPattern : Text) :
    matchedDuration current durationPattern = fallbackMatch ∨
      matchedDuration current durationPattern <:+: current ∧
        skeleton (matchedDuration current durationPattern) =
          skeleton (probe current durationPattern) := by
  rw [matchedDuration_eq]
  cases searched : (shapeRegex (probe current durationPattern)).search current with
  | none =>
      exact Or.inl rfl
  | some found =>
      obtain ⟨split, accepted⟩ := Regex.accepts_of_search searched
      exact Or.inr ⟨⟨found.before, found.after, split.symm⟩, skeleton_eq_of_accepts accepted⟩

end TitleStamp
