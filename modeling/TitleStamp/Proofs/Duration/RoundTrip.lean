import TitleStamp.Proofs.Duration.Distribution
import TitleStamp.Proofs.Duration.Format
import TitleStamp.Proofs.Duration.NamedFields
import TitleStamp.Proofs.Duration.PlainTerms

/-!
# Reading a formatted duration

A duration that is rendered by named fields mentions exactly the values of its fields.  Their sum
is the duration without what is left over below the smallest unit, and within the range of exact
whole numbers nothing is lost to rounding.
-/

namespace TitleStamp

/-! ## A rendered duration as plain terms -/

private theorem shortName_mem_plainWords
    {unit : TimeUnit} (notYear : unit ≠ .year) (notMonth : unit ≠ .month) :
    (unit.shortName.map Char.toLower, unit.millis) ∈ plainWords := by
  cases unit with
  | year => exact absurd rfl notYear
  | month => exact absurd rfl notMonth
  | _ => decide

namespace NamedField

/-- How the value of a field is mentioned. -/
def mention (values : TimeUnit → Int) (field : NamedField) : Mention :=
  ⟨paddedField field.width (values field.unit), [], field.unit.shortName⟩

/-- The term that is shown for a field. -/
def term (values : TimeUnit → Int) (field : NamedField) : PlainTerm where
  negative := decide (values field.unit < 0)
  digits := padLeft field.width (Text.ofNat (values field.unit).natAbs)
  spaces := 0
  word := field.unit.shortName
  millis := field.unit.millis
  isDigits := ⟨padLeft_ne_nil _ _, fun _ member => isDigit_of_mem_padLeft member⟩
  named := shortName_mem_plainWords field.notYear field.notMonth

variable (values : TimeUnit → Int) (field : NamedField)

private theorem numeral_term :
    (field.term values).numeral = paddedField field.width (values field.unit) := by
  rw [PlainTerm.numeral, term, paddedField]
  by_cases negative : values field.unit < 0 <;> simp [negative]

theorem written_term : (field.term values).written = field.shown values := by
  rw [PlainTerm.written, numeral_term]
  rfl

theorem mention_term : (field.term values).mention = field.mention values := by
  rw [PlainTerm.mention, numeral_term]
  rfl

private theorem magnitude_term :
    (field.term values).magnitude = (values field.unit * field.unit.millis).natAbs := by
  rw [PlainTerm.magnitude, term, digitsValue_padLeft, Int.natAbs_mul, Int.natAbs_natCast]

private theorem amount_term :
    (field.term values).amount = values field.unit * field.unit.millis := by
  have positive : (0 : Int) < field.unit.millis := Int.natCast_pos.mpr field.unit.millis_pos
  have sameSign := (Double.mul_neg_iff_of_pos (values field.unit) positive).symm
  rw [PlainTerm.amount, magnitude_term, term, decide_eq_decide.mpr sameSign, Double.signed_natAbs]

end NamedField

namespace NamedFields

variable (values : TimeUnit → Int) (fields : NamedFields)

/-- The other terms that are shown and whether a space stands in front of each. -/
private def restTerms : List (Bool × PlainTerm) :=
  fields.rest.map fun entry => (entry.1, entry.2.term values)

private theorem shown_eq_joined :
    fields.shown values =
      PlainTerm.joined (fields.first.term values) (fields.restTerms values) := by
  rw [shown, PlainTerm.joined, restTerms, List.flatMap_map, NamedField.written_term]
  simp only [NamedField.written_term]

private theorem terms_eq :
    fields.first.term values :: (fields.restTerms values).map Prod.snd =
      fields.list.map (NamedField.term values) := by
  rw [restTerms, list, List.map_map, List.map_cons, List.map_map]
  rfl

/-- A rendered duration mentions the values of its fields and nothing else. -/
theorem mentions_shown :
    mentions (fields.shown values) = fields.list.map (NamedField.mention values) := by
  rw [shown_eq_joined, PlainTerm.mentions_joined, terms_eq, List.map_map]
  exact List.map_congr_left fun field _ => field.mention_term values

/-- A rendered duration reads as the sum of its fields, if that is exact. -/
theorem parse?_shown
    (small : (fields.units.map fun unit => (values unit * unit.millis).natAbs).sum ≤ 2 ^ 53) :
    (Duration.parse? (fields.shown values)).map Duration.millis =
      some (fields.units.map fun unit => values unit * unit.millis).sum := by
  have magnitudes :
      (fields.list.map (NamedField.term values)).map PlainTerm.magnitude =
        fields.units.map fun unit => (values unit * unit.millis).natAbs := by
    rw [units, List.map_map, List.map_map]
    exact List.map_congr_left fun field _ => field.magnitude_term values
  have amounts :
      (fields.list.map (NamedField.term values)).map PlainTerm.amount =
        fields.units.map fun unit => values unit * unit.millis := by
    rw [units, List.map_map, List.map_map]
    exact List.map_congr_left fun field _ => field.amount_term values
  have sum := PlainTerm.parse?_joined (fields.first.term values) (fields.restTerms values)
  rw [terms_eq, magnitudes, amounts, ← shown_eq_joined] at sum
  exact sum small

/-! ## The duration without what is left over -/

private theorem nested_units (fields : NamedFields) :
    Nested (fieldUnits fields.segments).units := by
  let regular (unit : TimeUnit) : Bool := unit ≠ .year ∧ unit ≠ .month
  have areRegular :
      (fieldUnits fields.segments).units.filter regular = (fieldUnits fields.segments).units := by
    refine List.filter_eq_self.mpr fun unit member => ?_
    obtain ⟨field, _, rfl⟩ := List.mem_map.mp ((fields.mem_units_fieldUnits_iff unit).mp member)
    exact decide_eq_true ⟨field.notYear, field.notMonth⟩
  have among : (fieldUnits fields.segments).units.Sublist (TimeUnit.all.filter regular) := by
    rw [← areRegular]
    exact List.filter_sublist.filter regular
  have allNested : Nested (TimeUnit.all.filter regular) := by
    unfold Nested
    decide
  exact allNested.sublist among

/-- The smallest unit is the last when the units are listed from the largest on. -/
private theorem exists_smallest (fields : NamedFields) :
    ∃ larger smallest,
      (fieldUnits fields.segments).units = larger ++ [smallest] ∧
        Nested (larger ++ [smallest]) ∧ smallest.millis = fields.step := by
  have isMember := fields.mem_units_fieldUnits_iff
  have nested := nested_units fields
  generalize (fieldUnits fields.segments).units = units at isMember nested ⊢
  have nonempty : units ≠ [] :=
    List.ne_nil_of_mem ((isMember fields.first.unit).mpr (by simp [NamedFields.units, list]))
  obtain ⟨larger, smallest, rfl⟩ : ∃ larger smallest, units = larger ++ [smallest] :=
    ⟨_, _, (List.dropLast_concat_getLast nonempty).symm⟩
  have least : ∀ unit ∈ fields.units, smallest.millis ≤ unit.millis := by
    intro unit member
    rcases List.mem_append.mp ((isMember unit).mpr member) with isLarger | isSmallest
    · obtain ⟨_, _, multiple⟩ := List.pairwise_append.mp nested
      exact Nat.le_of_dvd unit.millis_pos (multiple unit isLarger smallest (by simp))
    · rw [List.mem_singleton.mp isSmallest]
  have isStep : fields.step = smallest.millis := by
    refine (List.min_eq_iff _).mpr ⟨?_, ?_⟩
    · exact List.mem_map.mpr ⟨smallest, (isMember smallest).mp (by simp), rfl⟩
    · intro length member
      obtain ⟨unit, isUnit, rfl⟩ := List.mem_map.mp member
      exact least unit isUnit
  exact ⟨larger, smallest, rfl, nested, isStep.symm⟩

theorem value_eq (fields : NamedFields) (duration : Duration) (unit : TimeUnit) :
    fields.value duration unit =
      duration.millis.sign *
        unitCount (fieldUnits fields.segments).units duration.millis.natAbs unit :=
  lookup_fieldValues duration (fieldUnits fields.segments) unit

/-- The counts of the fields make up the duration down to the smallest unit. -/
theorem sum_unitCount (fields : NamedFields) (remaining : Nat) :
    (fields.units.map fun unit =>
        unitCount (fieldUnits fields.segments).units remaining unit * unit.millis).sum =
      remaining - remaining % fields.step := by
  obtain ⟨larger, smallest, isUnits, nested, isStep⟩ := exists_smallest fields
  have sameUnits : fields.units.Perm (fieldUnits fields.segments).units :=
    (List.perm_ext_iff_of_nodup fields.nodup_units (TitleStamp.nodup_units _)).mpr
      fun unit => (fields.mem_units_fieldUnits_iff unit).symm
  have total := sum_unitCount_add_leftover (TitleStamp.nodup_units (fieldUnits fields.segments))
    remaining
  rw [isUnits, leftover_eq_mod nested, isStep] at total
  rw [(sameUnits.map _).sum_eq, isUnits]
  omega

/-- Cutting off toward zero takes the remainder from the magnitude. -/
private theorem tdiv_mul_eq (number : Int) (step : Nat) :
    number.tdiv step * step =
      number.sign * ((number.natAbs - number.natAbs % step : Nat) : Int) := by
  have floor : number.natAbs - number.natAbs % step = number.natAbs / step * step := by
    have parts := Nat.div_add_mod' number.natAbs step
    omega
  have quotient : number.tdiv step = number.sign * (number.natAbs / step : Nat) := by
    conv => lhs; rw [← Int.sign_mul_natAbs number]
    rcases Int.lt_trichotomy number 0 with negative | rfl | positive
    · rw [Int.sign_eq_neg_one_of_neg negative, Int.neg_one_mul, Int.neg_one_mul, Int.neg_tdiv,
        Int.ofNat_tdiv]
    · simp
    · rw [Int.sign_eq_one_of_pos positive, Int.one_mul, Int.one_mul, Int.ofNat_tdiv]
  rw [floor, quotient, Int.natCast_mul, Int.mul_assoc]

/-- The values of the fields make up the duration cut off to a multiple of the smallest unit. -/
theorem sum_value (fields : NamedFields) (duration : Duration) :
    (fields.units.map fun unit => fields.value duration unit * unit.millis).sum =
      duration.millis.tdiv fields.step * fields.step := by
  have signed (count : TimeUnit → Nat) :
      (fields.units.map fun unit =>
          duration.millis.sign * (count unit : Int) * (unit.millis : Int)).sum =
        duration.millis.sign *
          ((fields.units.map fun unit => count unit * unit.millis).sum : Nat) := by
    induction fields.units with
    | nil => simp
    | cons unit rest inductionHypothesis =>
        rw [List.map_cons, List.map_cons, List.sum_cons, List.sum_cons, inductionHypothesis,
          Int.natCast_add, Int.mul_add, Int.natCast_mul, Int.mul_assoc]
  simp only [fields.value_eq]
  rw [signed, sum_unitCount, tdiv_mul_eq]

theorem sum_natAbs_value_le (fields : NamedFields) (duration : Duration) :
    (fields.units.map fun unit => (fields.value duration unit * unit.millis).natAbs).sum ≤
      duration.millis.natAbs := by
  have sign := natAbs_sign_le_one duration.millis
  have counted := fields.sum_unitCount duration.millis.natAbs
  refine Nat.le_trans (List.sum_le_sum fun unit _ => ?_)
    (Nat.le_trans (Nat.le_of_eq counted) (Nat.sub_le _ _))
  rw [fields.value_eq, Int.mul_assoc, Int.natAbs_mul, ← Int.natCast_mul, Int.natAbs_natCast]
  exact Nat.le_trans (Nat.mul_le_mul_right _ sign) (Nat.le_of_eq (Nat.one_mul _))

end NamedFields

/-- Reading what named fields render gives the duration cut off to a multiple of the smallest
unit. -/
theorem parse?_format
    (fields : NamedFields) (duration : Duration)
    (small : duration.millis.natAbs ≤ 2 ^ 53) :
    (Duration.parse? (duration.format fields.pattern)).map Duration.millis =
      some (duration.millis.tdiv fields.step * fields.step) := by
  have bounded := Nat.le_trans (fields.sum_natAbs_value_le duration) small
  rw [fields.format_pattern, fields.parse?_shown _ bounded, fields.sum_value]

/-- Minutes, weeks and seconds of a negative duration, of which 42 milliseconds are cut off. -/
theorem parse?_format_minutes_weeks_seconds :
    let fields : NamedFields :=
      { first := { unit := .minute, width := 2 }
        rest := [(true, { unit := .week, width := 1 }), (false, { unit := .second, width := 2 })] }
    let duration : Duration := ⟨-694861042, by decide, by decide⟩
    fields.pattern = "mm'm' w'w'ss's'".toList ∧
      duration.format fields.pattern = "-1501m -1w-01s".toList ∧
      duration.millis.natAbs ≤ 2 ^ 53 ∧
      (Duration.parse? (duration.format fields.pattern)).map Duration.millis =
        some (-694861000) := by
  intro fields duration
  have small : duration.millis.natAbs ≤ 2 ^ 53 := by decide
  refine ⟨rfl, by decide +kernel, small, ?_⟩
  have step : fields.step = 1000 := by decide +kernel
  rw [parse?_format fields duration small, step]
  decide

end TitleStamp
