import TitleStamp.Duration.Pattern

/-!
# Patterns with named fields

A pattern in which every field is followed by the name of its unit renders durations that can be
read again.  Years and months are left out, because patterns and texts do not agree on their
lengths.
-/

namespace TitleStamp

/-- The shortest name of a unit in a text. -/
def TimeUnit.shortName : TimeUnit → Text
  | millisecond => ['m', 's']
  | unit => [unit.letter]

/-- A field and the quoted name of its unit. -/
structure NamedField where
  unit : TimeUnit
  width : Nat
  notYear : unit ≠ .year := by decide
  notMonth : unit ≠ .month := by decide
  width_pos : 0 < width := by decide

namespace NamedField

def pattern (field : NamedField) : Text :=
  List.replicate field.width field.unit.letter ++ '\'' :: (field.unit.shortName ++ ['\''])

def segments (field : NamedField) : List Segment :=
  [.field field.unit field.width, .literal field.unit.shortName]

/-- What is shown for a field and its name. -/
def shown (values : TimeUnit → Int) (field : NamedField) : Text :=
  paddedField field.width (values field.unit) ++ field.unit.shortName

end NamedField

/-- Named fields of different units, some with a space in front. -/
structure NamedFields where
  first : NamedField
  /-- The other fields and whether a space stands in front of each. -/
  rest : List (Bool × NamedField)
  distinct : (first.unit :: rest.map fun entry => entry.2.unit).Nodup := by decide

namespace NamedFields

/-- The fields in their order. -/
def list (fields : NamedFields) : List NamedField :=
  fields.first :: fields.rest.map Prod.snd

def units (fields : NamedFields) : List TimeUnit :=
  fields.list.map NamedField.unit

theorem nodup_units (fields : NamedFields) : fields.units.Nodup := by
  have distinct := fields.distinct
  rwa [units, list, List.map_cons, List.map_map]

/-- The length of the smallest unit in milliseconds. -/
def step (fields : NamedFields) : Nat :=
  (fields.units.map TimeUnit.millis).min (by simp [units, list])

/-- The space in front of a field, if there is one. -/
def gap (spaced : Bool) : Text :=
  if spaced then [' '] else []

def pattern (fields : NamedFields) : Text :=
  fields.first.pattern ++ fields.rest.flatMap fun entry => gap entry.1 ++ entry.2.pattern

/-- What is shown for the fields. -/
def shown (values : TimeUnit → Int) (fields : NamedFields) : Text :=
  fields.first.shown values ++
    fields.rest.flatMap fun entry => gap entry.1 ++ entry.2.shown values

/-- The segment of the space in front of a field. -/
def gapSegments (spaced : Bool) : List Segment :=
  if spaced then [.literal [' ']] else []

def segments (fields : NamedFields) : List Segment :=
  fields.first.segments ++
    fields.rest.flatMap fun entry => gapSegments entry.1 ++ entry.2.segments

end NamedFields

/-! ## Reading the pattern -/

section Reading

open Segment

theorem readFrom_run
    {repeated : Char} (notQuote : repeated ≠ '\'') (count more : Nat) (rest : Text) :
    readFrom (.run repeated count) (List.replicate more repeated ++ '\'' :: rest) =
      ofRun repeated (count + more) :: readFrom (.quoted []) rest := by
  induction more generalizing count with
  | zero => simp [readFrom]
  | succ more inductionHypothesis =>
      rw [List.replicate_succ, List.cons_append, readFrom, if_neg notQuote, if_pos rfl,
        inductionHypothesis]
      congr 2
      omega

theorem readFrom_quoted
    {name : Text} (noQuote : '\'' ∉ name) (text rest : Text) :
    readFrom (.quoted text) (name ++ '\'' :: rest) =
      ofQuoted (text ++ name) ++ readFrom .fresh rest := by
  induction name generalizing text with
  | nil => simp [readFrom]
  | cons character name inductionHypothesis =>
      obtain ⟨different, later⟩ := not_or.mp (mt List.mem_cons.mpr noQuote)
      rw [List.cons_append, readFrom, if_neg (Ne.symm different), inductionHypothesis later,
        List.append_assoc]
      rfl

private theorem letter_ne (unit : TimeUnit) : unit.letter ≠ '\'' ∧ unit.letter ≠ ' ' := by
  cases unit <;> decide

/-- A named field is read alike at the start and after a space. -/
private theorem readFrom_field
    (field : NamedField) (rest : Text) :
    readFrom (.run field.unit.letter 1)
        (List.replicate (field.width - 1) field.unit.letter ++
          '\'' :: (field.unit.shortName ++ '\'' :: rest)) =
      field.segments ++ readFrom .fresh rest := by
  have isField : ofRun field.unit.letter (1 + (field.width - 1)) =
      .field field.unit field.width := by
    rw [ofRun, TimeUnit.ofLetter?_letter, Nat.add_sub_cancel' field.width_pos]
  have isName : ofQuoted field.unit.shortName = [.literal field.unit.shortName] := by
    cases field.unit <;> rfl
  have noQuote : '\'' ∉ field.unit.shortName := by
    cases field.unit <;> decide
  rw [readFrom_run (letter_ne field.unit).1, readFrom_quoted noQuote, List.nil_append, isField,
    isName]
  rfl

private theorem pattern_append_eq_cons (field : NamedField) (rest : Text) :
    field.pattern ++ rest =
      field.unit.letter ::
        (List.replicate (field.width - 1) field.unit.letter ++
          '\'' :: (field.unit.shortName ++ '\'' :: rest)) := by
  obtain ⟨width, isWidth⟩ := Nat.exists_eq_add_of_lt field.width_pos
  rw [NamedField.pattern, isWidth, Nat.zero_add, Nat.add_sub_cancel, List.replicate_succ]
  simp

theorem readFrom_gap_append (spaced : Bool) (field : NamedField) (rest : Text) :
    readFrom .fresh (NamedFields.gap spaced ++ (field.pattern ++ rest)) =
      NamedFields.gapSegments spaced ++ (field.segments ++ readFrom .fresh rest) := by
  obtain ⟨notQuote, notSpace⟩ := letter_ne field.unit
  rw [pattern_append_eq_cons, ← readFrom_field]
  cases spaced with
  | false => simp [NamedFields.gap, NamedFields.gapSegments, readFrom, notQuote]
  | true =>
      have isSpace : ofRun ' ' 1 = .literal [' '] := rfl
      simp [NamedFields.gap, NamedFields.gapSegments, readFrom, notQuote, notSpace, isSpace]

theorem NamedFields.segments_pattern (fields : NamedFields) :
    TitleStamp.segments fields.pattern = fields.segments := by
  have restSegments (rest : List (Bool × NamedField)) :
      readFrom .fresh (rest.flatMap fun entry => gap entry.1 ++ entry.2.pattern) =
        rest.flatMap fun entry => gapSegments entry.1 ++ entry.2.segments := by
    induction rest with
    | nil => rfl
    | cons entry rest inductionHypothesis =>
        rw [List.flatMap_cons, List.append_assoc, readFrom_gap_append, inductionHypothesis,
          List.flatMap_cons, List.append_assoc]
  have firstSegments := readFrom_gap_append false fields.first
    (fields.rest.flatMap fun entry => gap entry.1 ++ entry.2.pattern)
  rw [restSegments] at firstSegments
  exact firstSegments

end Reading

/-! ## Rendering the pattern -/

namespace NamedFields

/-- The value that a unit shows for a duration. -/
def value (fields : NamedFields) (duration : Duration) (unit : TimeUnit) : Int :=
  ((fieldValues duration (fieldUnits fields.segments)).lookup unit).getD 0

theorem format_pattern (fields : NamedFields) (duration : Duration) :
    duration.format fields.pattern = fields.shown (fields.value duration) := by
  have shownField (field : NamedField) :
      field.segments.flatMap
          (·.shown (fieldValues duration (fieldUnits fields.segments))) =
        field.shown (fields.value duration) := by
    simp [NamedField.segments, NamedField.shown, Segment.shown, value]
  have shownGap (spaced : Bool) :
      (gapSegments spaced).flatMap
          (·.shown (fieldValues duration (fieldUnits fields.segments))) = gap spaced := by
    cases spaced <;> rfl
  rw [Duration.format, segments_pattern]
  change (fields.first.segments ++ fields.rest.flatMap fun entry =>
    gapSegments entry.1 ++ entry.2.segments).flatMap _ = _
  rw [List.flatMap_append, shownField, List.flatMap_assoc, shown]
  simp only [List.flatMap_append, shownField, shownGap]

theorem filterMap_unit?_segments (fields : NamedFields) :
    fields.segments.filterMap Segment.unit? = fields.units := by
  have fieldUnit (field : NamedField) : field.segments.filterMap Segment.unit? = [field.unit] :=
    rfl
  have noUnit (spaced : Bool) : (gapSegments spaced).filterMap Segment.unit? = [] := by
    cases spaced <;> rfl
  rw [segments, List.filterMap_append, fieldUnit, List.filterMap_flatMap]
  simp only [List.filterMap_append, fieldUnit, noUnit, List.nil_append]
  rw [← List.map_eq_flatMap, units, list, List.map_cons, List.map_map]
  rfl

theorem mem_units_fieldUnits_iff (fields : NamedFields) (unit : TimeUnit) :
    unit ∈ (fieldUnits fields.segments).units ↔ unit ∈ fields.units := by
  rw [mem_units_fieldUnits, filterMap_unit?_segments]

end NamedFields

end TitleStamp
