import Mathlib.Data.List.Chain
import Mathlib.Data.List.TakeWhile
import TitleStamp.Proofs.Template.Scan
import TitleStamp.Template.Render

/-!
# Placeholders of a pattern

A pattern is cut at its placeholders into the texts between them.  With inert calls it renders to
those texts with the values of the placeholders in between, so that two parts of a pattern are
rendered apart unless a placeholder reaches from one into the other.
-/

namespace TitleStamp

/-- No colon of the text stands directly before a character of a name. -/
def NoPlaceholderIn (text : Text) : Prop :=
  text.IsChain fun left right => left = ':' → isNameCharacter right = false

instance (text : Text) : Decidable (NoPlaceholderIn text) :=
  inferInstanceAs
    (Decidable (text.IsChain fun left right => left = ':' → isNameCharacter right = false))

theorem NoPlaceholderIn.append_left
    {left right : Text}
    (absent : ':' ∉ left)
    (rightFree : NoPlaceholderIn right) :
    NoPlaceholderIn (left ++ right) := by
  induction left with
  | nil => exact rightFree
  | cons first rest inductionHypothesis =>
      simp only [List.mem_cons, not_or] at absent
      refine List.isChain_cons.mpr ⟨?_, inductionHypothesis absent.2⟩
      intro second _ colon
      exact absurd colon.symm absent.1

theorem noPlaceholderIn_of_not_mem {text : Text} (absent : ':' ∉ text) :
    NoPlaceholderIn text := by
  have extended : NoPlaceholderIn (text ++ []) :=
    NoPlaceholderIn.append_left absent List.isChain_nil
  rwa [List.append_nil] at extended

theorem NoPlaceholderIn.append
    {left right : Text}
    (leftFree : NoPlaceholderIn left)
    (rightFree : NoPlaceholderIn right)
    (stops : Text.StartsOutside isNameCharacter right) :
    NoPlaceholderIn (left ++ right) := by
  refine List.isChain_append.mpr ⟨leftFree, rightFree, ?_⟩
  intro _ _ second isFirst _
  exact stops second isFirst

/-- No placeholder of the left text goes on in the right one. -/
def NoPlaceholderAcross (left right : Text) : Prop :=
  ∀ before name, left = before ++ ':' :: name →
    (∀ character ∈ name, isNameCharacter character = true) →
      Text.StartsOutside isNameCharacter right

namespace NoPlaceholderAcross

variable {left right : Text}

theorem of_startsOutside (stops : Text.StartsOutside isNameCharacter right) :
    NoPlaceholderAcross left right :=
  fun _ _ _ _ => stops

theorem of_not_mem (absent : ':' ∉ left) : NoPlaceholderAcross left right := by
  intro before name split _
  exact absurd (by rw [split]; simp) absent

/-- A character that is neither a colon nor part of a name ends every placeholder. -/
theorem of_concat
    {last : Char}
    (notColon : last ≠ ':')
    (notName : isNameCharacter last = false) :
    NoPlaceholderAcross (left ++ [last]) right := by
  intro before name split isName
  rcases List.eq_nil_or_concat' name with rfl | ⟨others, final, rfl⟩
  · exact absurd (List.append_inj' split rfl).2 (by simpa using notColon)
  · rw [← List.cons_append, ← List.append_assoc] at split
    have sameLast := (List.append_inj' split rfl).2
    rw [List.singleton_inj.mp sameLast, isName final (by simp)] at notName
    cases notName

theorem drop_left
    {front : Text}
    (apart : NoPlaceholderAcross (front ++ left) right) :
    NoPlaceholderAcross left right := by
  intro before name split
  exact apart (front ++ before) name (by rw [split, List.append_assoc])

end NoPlaceholderAcross

theorem Lexeme.readPlaceholder_append_eq
    {left right : Text}
    (nonempty : left ≠ [])
    (apart : NoPlaceholderAcross left right) :
    readPlaceholder (left ++ right) = readPlaceholder left := by
  cases left with
  | nil => exact absurd rfl nonempty
  | cons first others =>
      by_cases colon : first = ':'
      · subst first
        have sameName :
            (others ++ right).takeWhile isNameCharacter =
              others.takeWhile isNameCharacter := by
          by_cases isName : ∀ character ∈ others, isNameCharacter character = true
          · have stops := apart [] others rfl isName
            rw [Text.takeWhile_append_of_startsOutside isName stops,
              List.takeWhile_eq_self_iff.mpr isName]
          · rw [List.takeWhile_append, if_neg]
            intro whole
            have taken := (List.takeWhile_prefix isNameCharacter).eq_of_length whole
            exact isName (List.takeWhile_eq_self_iff.mp taken)
        rw [List.cons_append, readPlaceholder, readPlaceholder, sameName]
      · rw [List.cons_append, readPlaceholder_of_head_ne colon,
          readPlaceholder_of_head_ne colon]

section Inert

variable {values : Variables}

theorem renderInert_nil : renderInert values [] = [] :=
  rfl

theorem renderInert_firstLexeme
    {lexeme : Lexeme} {rest : Text}
    (first : firstLexeme .inert (lexeme.source ++ rest) = some lexeme) :
    renderInert values (lexeme.source ++ rest) =
      lexeme.inertValue values ++ renderInert values rest := by
  rw [renderInert, lexemes_append first, List.flatMap_cons, renderInert]

/-- Two parts of a pattern are rendered apart if no placeholder goes across the cut. -/
theorem renderInert_append
    {left right : Text}
    (apart : NoPlaceholderAcross left right) :
    renderInert values (left ++ right) =
      renderInert values left ++ renderInert values right := by
  induction left using lexeme_induction .inert with
  | nil => rw [renderInert_nil, List.nil_append, List.nil_append]
  | append lexeme rest first inductionHypothesis =>
      -- The first lexeme of the left part stays the first one in front of the right part.
      have nonempty : lexeme.source ++ rest ≠ [] :=
        List.append_ne_nil_of_left_ne_nil (source_ne_nil first) rest
      have firstOfBoth :
          firstLexeme .inert (lexeme.source ++ (rest ++ right)) = some lexeme := by
        rw [← first, ← List.append_assoc, firstLexeme_inert, firstLexeme_inert,
          Lexeme.readPlaceholder_append_eq nonempty apart, Lexeme.readCharacter_append nonempty]
      rw [List.append_assoc, renderInert_firstLexeme firstOfBoth,
        inductionHypothesis apart.drop_left, renderInert_firstLexeme first, List.append_assoc]

theorem renderInert_placeholder
    {name : Text}
    (nonempty : name ≠ [])
    (isName : ∀ character ∈ name, isNameCharacter character = true) :
    renderInert values (':' :: name) = values.get name := by
  have read : Lexeme.readPlaceholder (':' :: (name ++ [])) = some (.placeholder name) :=
    Lexeme.readPlaceholder_append nonempty isName Text.startsOutside_nil
  have first :
      firstLexeme .inert ((Lexeme.placeholder name).source ++ []) =
        some (.placeholder name) := by
    rw [firstLexeme_inert, Lexeme.source, List.cons_append, read]
    rfl
  have rendered :
      renderInert values ((Lexeme.placeholder name).source ++ []) =
        values.get name ++ renderInert values [] :=
    renderInert_firstLexeme first
  rwa [renderInert_nil, List.append_nil, List.append_nil] at rendered

theorem renderInert_singleton (character : Char) :
    renderInert values [character] = [character] := by
  have notPlaceholder : Lexeme.readPlaceholder [character] = none := by
    unfold Lexeme.readPlaceholder
    split
    · rename_i same
      cases (List.cons.inj same).2
      rfl
    · rfl
  have first :
      firstLexeme .inert ((Lexeme.literal [character]).source ++ []) =
        some (.literal [character]) := by
    change firstLexeme .inert [character] = _
    rw [firstLexeme_inert, notPlaceholder]
    rfl
  exact renderInert_firstLexeme first

theorem renderInert_eq_self {text : Text} (free : NoPlaceholderIn text) :
    renderInert values text = text := by
  induction text with
  | nil => rfl
  | cons character rest inductionHypothesis =>
      obtain ⟨freeHere, freeLater⟩ := List.isChain_cons.mp free
      have apart : NoPlaceholderAcross [character] rest := by
        by_cases colon : character = ':'
        · exact .of_startsOutside fun second isFirst => freeHere second isFirst colon
        · exact .of_not_mem (by simpa using Ne.symm colon)
      have split : character :: rest = [character] ++ rest := rfl
      rw [split, renderInert_append apart, renderInert_singleton, inductionHypothesis freeLater]

/-- What stands between two texts without colons is rendered apart from them. -/
theorem renderInert_between
    {lead trail : Text} (inner : Text)
    (leadFree : ':' ∉ lead)
    (trailFree : ':' ∉ trail)
    (stops : Text.StartsOutside isNameCharacter trail) :
    renderInert values (lead ++ (inner ++ trail)) =
      lead ++ (renderInert values inner ++ trail) := by
  rw [renderInert_append (.of_not_mem leadFree), renderInert_append (.of_startsOutside stops),
    renderInert_eq_self (noPlaceholderIn_of_not_mem leadFree),
    renderInert_eq_self (noPlaceholderIn_of_not_mem trailFree)]

end Inert

/-- A placeholder of a pattern and the text up to the next one. -/
structure Occurrence where
  name : Text
  after : Text
  name_ne_nil : name ≠ []
  isName : ∀ character ∈ name, isNameCharacter character = true
  /-- No longer name stands there. -/
  name_ends : Text.StartsOutside isNameCharacter after
  after_free : NoPlaceholderIn after

namespace Occurrence

def source (occurrence : Occurrence) : Text :=
  ':' :: (occurrence.name ++ occurrence.after)

/-- The occurrence with the value in place of the placeholder. -/
def filled (values : Variables) (occurrence : Occurrence) : Text :=
  values.get occurrence.name ++ occurrence.after

end Occurrence

/-- A pattern cut at its placeholders. -/
structure PlaceholderCut where
  /-- The text up to the first placeholder. -/
  lead : Text
  lead_free : NoPlaceholderIn lead
  occurrences : List Occurrence

namespace PlaceholderCut

/-- The pattern that is cut. -/
def source (cut : PlaceholderCut) : Text :=
  cut.lead ++ cut.occurrences.flatMap Occurrence.source

/-- The pattern with all placeholders replaced by their values at once. -/
def filled (values : Variables) (cut : PlaceholderCut) : Text :=
  cut.lead ++ cut.occurrences.flatMap (Occurrence.filled values)

private theorem startsOutside_occurrences (occurrences : List Occurrence) :
    Text.StartsOutside isNameCharacter (occurrences.flatMap Occurrence.source) := by
  cases occurrences with
  | nil => exact Text.startsOutside_nil
  | cons occurrence later => exact Text.startsOutside_cons.mpr (by decide)

private theorem renderInert_occurrences
    (values : Variables) (occurrences : List Occurrence) :
    renderInert values (occurrences.flatMap Occurrence.source) =
      occurrences.flatMap (Occurrence.filled values) := by
  induction occurrences with
  | nil => rfl
  | cons occurrence later inductionHypothesis =>
      have laterStops := startsOutside_occurrences later
      have split :
          (occurrence :: later).flatMap Occurrence.source =
            (':' :: occurrence.name) ++
              (occurrence.after ++ later.flatMap Occurrence.source) := by
        simp [Occurrence.source]
      rw [split,
        renderInert_append
          (.of_startsOutside (Text.startsOutside_append occurrence.name_ends laterStops)),
        renderInert_placeholder occurrence.name_ne_nil occurrence.isName,
        renderInert_append (.of_startsOutside laterStops),
        renderInert_eq_self occurrence.after_free, inductionHypothesis, List.flatMap_cons,
        Occurrence.filled, List.append_assoc]

/-- With inert calls a pattern renders to the texts of its cut and the values in between. -/
theorem renderInert_source (values : Variables) (cut : PlaceholderCut) :
    renderInert values cut.source = cut.filled values := by
  rw [source, renderInert_append (.of_startsOutside (startsOutside_occurrences _)),
    renderInert_eq_self cut.lead_free, renderInert_occurrences, filled]

theorem exists_source_eq (pattern : Text) : ∃ cut : PlaceholderCut, cut.source = pattern := by
  induction pattern with
  | nil => exact ⟨⟨[], List.isChain_nil, []⟩, rfl⟩
  | cons character rest inductionHypothesis =>
      obtain ⟨cut, rfl⟩ := inductionHypothesis
      by_cases opens : character = ':' ∧ ¬Text.StartsOutside isNameCharacter cut.lead
      · -- A name at the start of the lead makes the colon a placeholder.
        obtain ⟨rfl, named⟩ := opens
        have parts :
            cut.lead.takeWhile isNameCharacter ++ cut.lead.dropWhile isNameCharacter =
              cut.lead :=
          List.takeWhile_append_dropWhile
        have nonempty : cut.lead.takeWhile isNameCharacter ≠ [] := by
          intro empty
          rw [empty, List.nil_append] at parts
          exact named (parts ▸ Text.startsOutside_dropWhile isNameCharacter cut.lead)
        have afterFree : NoPlaceholderIn (cut.lead.dropWhile isNameCharacter) := by
          have free := cut.lead_free
          rw [← parts] at free
          exact (List.isChain_append.mp free).2.1
        let occurrence : Occurrence :=
          ⟨_, _, nonempty, List.all_eq_true.mp List.all_takeWhile,
            Text.startsOutside_dropWhile isNameCharacter cut.lead, afterFree⟩
        have source_eq : occurrence.source = ':' :: cut.lead :=
          congrArg (':' :: ·) parts
        refine ⟨⟨[], List.isChain_nil, occurrence :: cut.occurrences⟩, ?_⟩
        simp [source, source_eq]
      · have free : NoPlaceholderIn (character :: cut.lead) := by
          refine List.isChain_cons.mpr ⟨?_, cut.lead_free⟩
          intro second isFirst colon
          have stops := Decidable.not_not.mp (not_and.mp opens colon)
          exact stops second isFirst
        exact ⟨⟨character :: cut.lead, free, cut.occurrences⟩, rfl⟩

end PlaceholderCut

end TitleStamp
