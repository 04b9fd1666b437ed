import Mathlib.Data.List.Chain
import TitleStamp.Proofs.Text.LetterCase
import TitleStamp.Template.Headline

/-!
# Case mappings settle

What a case mapping writes is left alone when it is applied again.  The tables of case pairs are
compared run by run: the code points to which a run moves its own are apart from all runs of the
table.  The small form of a capital need not be the letter that the capital was made of, but it
has the same capital.
-/

namespace TitleStamp

namespace CaseRun

/-- The code points to which a run moves its own. -/
def image (run : CaseRun) : CaseRun where
  first := (run.first + run.distance).toNat
  last := (run.last + run.distance).toNat
  step := run.step
  distance := -run.distance

/-- The image of a run consists of characters. -/
def hasCharacters (run : CaseRun) : Bool :=
  decide (0 ≤ run.first + run.distance) &&
    (Nat.blt run.image.last 0xD800 ||
      Nat.ble 0xE000 run.image.first && Nat.blt run.image.last 0x110000)

/-- The ends or the parity of two runs tell that they have no code point in common. -/
def isApart (run other : CaseRun) : Bool :=
  Nat.blt run.last other.first || Nat.blt other.last run.first ||
    Nat.beq other.step 2 && (Nat.beq run.step 2 || Nat.beq run.first run.last) &&
      Nat.beq ((run.first + other.first) % 2) 1

/-- The ends and the steps of two runs tell that the other has all code points of the run. -/
def isWithin (run other : CaseRun) : Bool :=
  Nat.ble other.first run.first && Nat.ble run.last other.last &&
    Nat.beq ((run.first - other.first) % other.step) 0 &&
    (Nat.beq run.first run.last || Nat.beq (run.step % other.step) 0)

variable {run other : CaseRun} {codePoint : Nat}

theorem contains_iff :
    run.contains codePoint = true ↔
      run.first ≤ codePoint ∧ codePoint ≤ run.last ∧
        (codePoint - run.first) % run.step = 0 := by
  simp [contains, and_assoc]

theorem contains_image
    (positive : 0 ≤ run.first + run.distance)
    (inside : run.contains codePoint = true) :
    run.image.contains (codePoint + run.distance).toNat = true := by
  rw [contains_iff] at inside ⊢
  obtain ⟨above, below, step⟩ := inside
  have moved :
      (codePoint + run.distance).toNat - (run.first + run.distance).toNat =
        codePoint - run.first := by
    omega
  refine ⟨?_, ?_, ?_⟩
  · simp only [image]
    omega
  · simp only [image]
    omega
  · simp only [image, moved, step]

theorem not_contains_of_isApart
    (apart : run.isApart other = true)
    (inside : run.contains codePoint = true) :
    other.contains codePoint = false := by
  rw [Bool.eq_false_iff, Ne, contains_iff]
  rintro ⟨otherAbove, otherBelow, otherStep⟩
  obtain ⟨above, below, step⟩ := contains_iff.mp inside
  simp only [isApart, Bool.or_eq_true, Bool.and_eq_true, Nat.blt_eq, Nat.beq_eq] at apart
  rcases apart with (before | behind) | ⟨⟨otherTwo, two | single⟩, odd⟩
  · omega
  · omega
  · rw [otherTwo] at otherStep
    rw [two] at step
    omega
  · rw [otherTwo] at otherStep
    omega

theorem contains_of_isWithin
    (within : run.isWithin other = true)
    (inside : run.contains codePoint = true) :
    other.contains codePoint = true := by
  rw [contains_iff] at inside ⊢
  simp only [isWithin, Bool.and_eq_true, Bool.or_eq_true, Nat.ble_eq, Nat.beq_eq] at within
  obtain ⟨above, below, step⟩ := inside
  obtain ⟨⟨⟨firstBelow, lastAbove⟩, offset⟩, single | steps⟩ := within
  · have only : codePoint = run.first := by
      omega
    rw [only]
    exact ⟨firstBelow, single ▸ lastAbove, offset⟩
  · refine ⟨by omega, by omega, ?_⟩
    have offsets :
        codePoint - other.first = (codePoint - run.first) + (run.first - other.first) := by
      omega
    have divides : other.step ∣ codePoint - run.first :=
      Nat.dvd_trans (Nat.dvd_of_mod_eq_zero steps) (Nat.dvd_of_mod_eq_zero step)
    rw [offsets]
    exact Nat.mod_eq_zero_of_dvd (Nat.dvd_add divides (Nat.dvd_of_mod_eq_zero offset))

theorem nonneg_of_hasCharacters (characters : run.hasCharacters = true) :
    0 ≤ run.first + run.distance := by
  simp only [hasCharacters, Bool.and_eq_true, decide_eq_true_eq] at characters
  exact characters.1

theorem toNat_ofNat_image
    (characters : run.hasCharacters = true)
    (inside : run.contains codePoint = true) :
    (Char.ofNat (codePoint + run.distance).toNat).toNat = (codePoint + run.distance).toNat := by
  simp only [hasCharacters, Bool.and_eq_true, Bool.or_eq_true, decide_eq_true_eq, Nat.ble_eq,
    Nat.blt_eq] at characters
  obtain ⟨above, below, _⟩ := contains_iff.mp (contains_image characters.1 inside)
  have valid : (codePoint + run.distance).toNat.isValidChar := by
    rcases characters.2 with low | ⟨high, bounded⟩
    · exact Or.inl (by omega)
    · exact Or.inr ⟨by omega, by omega⟩
  rw [Char.ofNat, dif_pos valid]
  rfl

/-- No run of a table has a code point to which a run moves its own, if all runs of the table are
apart from its image. -/
theorem not_contains_image
    {runs : List CaseRun}
    (settled : (run.hasCharacters && runs.all run.image.isApart) = true)
    (inside : run.contains codePoint = true) :
    ∀ other ∈ runs,
      other.contains (Char.ofNat (codePoint + run.distance).toNat).toNat = false := by
  obtain ⟨characters, apart⟩ := Bool.and_eq_true_iff.mp settled
  intro other isOther
  rw [toNat_ofNat_image characters inside]
  exact not_contains_of_isApart (List.all_eq_true.mp apart other isOther)
    (contains_image (nonneg_of_hasCharacters characters) inside)

/-- In a sorted table only one run has a given code point. -/
theorem find?_eq_of_sorted
    {runs : List CaseRun}
    (sorted : runs.Pairwise fun left right => left.last < right.first)
    (member : run ∈ runs)
    (inside : run.contains codePoint = true) :
    runs.find? (·.contains codePoint) = some run := by
  obtain ⟨before, after, rfl⟩ := List.append_of_mem member
  refine List.find?_eq_some_iff_append.mpr ⟨inside, before, after, rfl, ?_⟩
  intro earlier inBefore
  have apart := (List.pairwise_append.mp sorted).2.2 earlier inBefore run List.mem_cons_self
  obtain ⟨above, _, _⟩ := contains_iff.mp inside
  simp only [Bool.not_eq_true', Bool.eq_false_iff, Ne, contains_iff, not_and]
  omega

/-- A character stays in no run, or moves by the distance of one. -/
theorem apply_cases (runs : List CaseRun) (character : Char) :
    ((∀ run ∈ runs, run.contains character.toNat = false) ∧
      apply runs character = character) ∨
    ∃ run ∈ runs, run.contains character.toNat = true ∧
      apply runs character = Char.ofNat (character.toNat + run.distance).toNat := by
  cases found : runs.find? (·.contains character.toNat) with
  | none =>
      refine Or.inl ⟨?_, by rw [apply, found]⟩
      simpa using List.find?_eq_none.mp found
  | some run =>
      refine Or.inr ⟨run, List.mem_of_find?_eq_some found, ?_, by rw [apply, found]⟩
      simpa using List.find?_some found

theorem apply_of_not_contains
    {runs : List CaseRun} {character : Char}
    (outside : ∀ run ∈ runs, run.contains character.toNat = false) :
    apply runs character = character := by
  rcases apply_cases runs character with ⟨_, unchanged⟩ | ⟨run, member, inside, _⟩
  · exact unchanged
  · rw [outside run member] at inside
    cases inside

end CaseRun

/-! ## Lower case -/

/-- The code points of the characters with another lower case. -/
def capitalRuns : List CaseRun :=
  ⟨0x41, 0x5A, 1, 0⟩ :: ⟨0x130, 0x130, 1, 0⟩ :: lowerRuns

theorem lowerCharacter_of_not_contains
    {character : Char}
    (outside : ∀ run ∈ capitalRuns, run.contains character.toNat = false) :
    lowerCharacter character = [character] := by
  obtain ⟨notCapital, notDotted, others⟩ :
      (⟨0x41, 0x5A, 1, 0⟩ : CaseRun).contains character.toNat = false ∧
        (⟨0x130, 0x130, 1, 0⟩ : CaseRun).contains character.toNat = false ∧
          ∀ run ∈ lowerRuns, run.contains character.toNat = false := by
    simpa [capitalRuns] using outside
  unfold lowerCharacter
  split
  · rcases toLower_eq_self_or_mem_capitals character with unchanged | isCapital
    · rw [unchanged]
    · have listed :
          ∀ letter ∈ capitals, (⟨0x41, 0x5A, 1, 0⟩ : CaseRun).contains letter.toNat = true := by
        decide
      rw [listed character isCapital] at notCapital
      cases notCapital
  · split
    · rename_i dotted
      rw [dotted] at notDotted
      exact absurd notDotted (by decide)
    · rw [CaseRun.apply_of_not_contains others]

private theorem lowerRuns_apart :
    (lowerRuns.all fun run => run.hasCharacters && capitalRuns.all run.image.isApart) = true := by
  decide +kernel

/-- The lower case of a character has no other lower case. -/
theorem lowerCharacter_of_mem_lowerCharacter
    {character small : Char}
    (member : small ∈ lowerCharacter character) :
    lowerCharacter small = [small] := by
  unfold lowerCharacter at member
  split at member
  · rename_i ascii
    rw [List.mem_singleton.mp member]
    exact ascii_induction (fun other => lowerCharacter other.toLower = [other.toLower])
      (by decide +kernel) ascii
  · split at member
    · have settled : ∀ letter ∈ ['i', '\u0307'], lowerCharacter letter = [letter] := by
        decide +kernel
      exact settled small member
    · rename_i notAscii notDotted
      rw [List.mem_singleton.mp member]
      rcases CaseRun.apply_cases lowerRuns character with
        ⟨_, unchanged⟩ | ⟨run, isRun, inside, moved⟩
      · rw [unchanged, lowerCharacter, if_neg notAscii, if_neg notDotted, unchanged]
      · rw [moved]
        exact lowerCharacter_of_not_contains
          (CaseRun.not_contains_image (List.all_eq_true.mp lowerRuns_apart run isRun) inside)

/-! ## Upper case -/

/-- The code points of the characters with another upper case. -/
def smallRuns : List CaseRun :=
  ⟨0x61, 0x7A, 1, 0⟩ :: upperExpansions.map (fun entry => ⟨entry.1, entry.1, 1, 0⟩) ++ upperRuns

theorem upperCharacter_of_not_contains
    {character : Char}
    (outside : ∀ run ∈ smallRuns, run.contains character.toNat = false) :
    upperCharacter character = [character] := by
  unfold upperCharacter
  split
  · rename_i ascii
    have notSmall := outside ⟨0x61, 0x7A, 1, 0⟩ (by simp [smallRuns])
    have unchanged :
        (⟨0x61, 0x7A, 1, 0⟩ : CaseRun).contains character.toNat = false →
          character.toUpper = character :=
      ascii_induction
        (fun other =>
          (⟨0x61, 0x7A, 1, 0⟩ : CaseRun).contains other.toNat = false → other.toUpper = other)
        (by decide) ascii
    rw [unchanged notSmall]
  · split
    · rename_i expansion found
      obtain ⟨before, after, parts, _⟩ := List.lookup_eq_some_iff.mp found
      have listed : (⟨character.toNat, character.toNat, 1, 0⟩ : CaseRun) ∈ smallRuns := by
        simp [smallRuns, parts]
      have missed := outside _ listed
      simp [CaseRun.contains] at missed
    · rw [CaseRun.apply_of_not_contains fun run isRun =>
        outside run (List.mem_append_right _ isRun)]

private theorem upperRuns_apart :
    (upperRuns.all fun run => run.hasCharacters && smallRuns.all run.image.isApart) = true := by
  decide +kernel

private theorem upperExpansions_settled :
    ∀ entry ∈ upperExpansions, ∀ codePoint ∈ entry.2,
      upperCharacter (Char.ofNat codePoint) = [Char.ofNat codePoint] := by
  decide +kernel

/-- The upper case of a character has no other upper case. -/
theorem upperCharacter_of_mem_upperCharacter
    {character capital : Char}
    (member : capital ∈ upperCharacter character) :
    upperCharacter capital = [capital] := by
  unfold upperCharacter at member
  split at member
  · rename_i ascii
    rw [List.mem_singleton.mp member]
    exact ascii_induction (fun other => upperCharacter other.toUpper = [other.toUpper])
      (by decide +kernel) ascii
  · split at member
    · rename_i expansion found
      obtain ⟨before, after, parts, _⟩ := List.lookup_eq_some_iff.mp found
      obtain ⟨codePoint, inExpansion, rfl⟩ := List.mem_map.mp member
      exact upperExpansions_settled (character.toNat, expansion) (by simp [parts]) codePoint
        inExpansion
    · rename_i notAscii _ noExpansion
      rw [List.mem_singleton.mp member]
      rcases CaseRun.apply_cases upperRuns character with
        ⟨_, unchanged⟩ | ⟨run, isRun, inside, moved⟩
      · rw [unchanged, upperCharacter, if_neg notAscii, noExpansion]
        simp only [unchanged]
      · rw [moved]
        exact upperCharacter_of_not_contains
          (CaseRun.not_contains_image (List.all_eq_true.mp upperRuns_apart run isRun) inside)

/-! ## Between the cases -/

/-- A table of runs in the order of their code points. -/
def CaseRun.Precedes (left right : CaseRun) : Prop :=
  left.last < right.first ∧ right.first ≤ right.last

instance (left right : CaseRun) : Decidable (left.Precedes right) :=
  inferInstanceAs (Decidable (_ ∧ _))

instance : IsTrans CaseRun CaseRun.Precedes where
  trans := by
    rintro first second third ⟨secondAbove, _⟩ ⟨thirdAbove, ordered⟩
    exact ⟨by omega, ordered⟩

private theorem lowerRuns_sorted :
    lowerRuns.Pairwise fun left right => left.last < right.first := by
  have chain : lowerRuns.IsChain CaseRun.Precedes := by
    decide +kernel
  exact (List.isChain_iff_pairwise.mp chain).imp fun ordered => ordered.1

theorem lowerCharacter_of_contains
    {run : CaseRun} {character : Char}
    (isRun : run ∈ lowerRuns)
    (inside : run.contains character.toNat = true) :
    lowerCharacter character = [Char.ofNat (character.toNat + run.distance).toNat] := by
  have beyond : ∀ run ∈ lowerRuns, 0x80 ≤ run.first ∧ run.contains 0x130 = false := by
    decide +kernel
  have notAscii : ¬character.toNat < 0x80 := by
    have above := (CaseRun.contains_iff.mp inside).1
    have start := (beyond run isRun).1
    omega
  have notDotted : character ≠ 'İ' := by
    rintro rfl
    exact absurd ((beyond run isRun).2.symm.trans inside) (by decide)
  rw [lowerCharacter, if_neg notAscii, if_neg notDotted, CaseRun.apply,
    CaseRun.find?_eq_of_sorted lowerRuns_sorted isRun inside]

/-- The capital of a letter, and the letter that has the same capital and is the small form of
it.  Where the capital is several letters, the first of them is meant. -/
structure HasCapital (letter capital small : Char) (more : Text) : Prop where
  upper_eq : upperCharacter letter = capital :: more
  lower_eq : lowerCharacter capital = [small]
  upper_small : upperCharacter small = [capital]
  small_inWord : Headline.isHeadlineCharacter letter = true →
    Headline.isHeadlineCharacter small = true
  sigma_not_mem : 'Σ' ∉ more
  more_inWord : ∀ other ∈ more,
    ∃ lowered, lowerCharacter other = [lowered] ∧ Headline.isHeadlineCharacter lowered = true

/-- Whether the small form of the capital of a letter has the same capital. -/
def recovers (letter : Char) : Bool :=
  match upperCharacter letter with
  | [] => false
  | capital :: more =>
      match lowerCharacter capital with
      | [small] =>
          upperCharacter small == [capital] &&
            (Headline.isHeadlineCharacter small || !Headline.isHeadlineCharacter letter) &&
            more.all fun other =>
              other != 'Σ' &&
                match lowerCharacter other with
                | [lowered] => Headline.isHeadlineCharacter lowered
                | _ => false
      | _ => false

theorem exists_hasCapital_of_recovers
    {letter : Char} (recovered : recovers letter = true) :
    ∃ capital small more, HasCapital letter capital small more := by
  unfold recovers at recovered
  split at recovered
  · cases recovered
  · rename_i capital more upper_eq
    split at recovered
    · rename_i small lower_eq
      simp only [Bool.and_eq_true, Bool.or_eq_true, Bool.not_eq_true', beq_iff_eq,
        List.all_eq_true, bne_iff_ne] at recovered
      obtain ⟨⟨upper_small, inWord⟩, moreLetters⟩ := recovered
      refine ⟨capital, small, more, upper_eq, lower_eq, upper_small, ?_, ?_, ?_⟩
      · rcases inWord with inside | outside
        · exact fun _ => inside
        · intro inside
          rw [outside] at inside
          cases inside
      · exact fun member => (moreLetters 'Σ' member).1 rfl
      · intro other member
        have lowered := (moreLetters other member).2
        split at lowered
        · exact ⟨_, ‹_›, lowered⟩
        · cases lowered
    · cases recovered

/-- Whether a run of small letters undoes a run of capitals. -/
def CaseRun.isMirrored (run : CaseRun) : Bool :=
  lowerRuns.any fun other => run.image.isWithin other && decide (other.distance = -run.distance)

/-- The small form of a capital from a mirrored run is the letter itself. -/
theorem lowerCharacter_of_isMirrored
    {run : CaseRun} {letter : Char}
    (isRun : run ∈ upperRuns)
    (mirrored : run.isMirrored = true)
    (inside : run.contains letter.toNat = true) :
    lowerCharacter (Char.ofNat (letter.toNat + run.distance).toNat) = [letter] := by
  obtain ⟨other, isOther, undoes⟩ := List.any_eq_true.mp mirrored
  rw [Bool.and_eq_true, decide_eq_true_eq] at undoes
  have settled := List.all_eq_true.mp upperRuns_apart run isRun
  rw [Bool.and_eq_true] at settled
  have positive := CaseRun.nonneg_of_hasCharacters settled.1
  have sameCodePoint := CaseRun.toNat_ofNat_image settled.1 inside
  have insideOther := CaseRun.contains_of_isWithin undoes.1 (CaseRun.contains_image positive inside)
  rw [← sameCodePoint] at insideOther
  have back : ((letter.toNat + run.distance).toNat + -run.distance).toNat = letter.toNat := by
    have above := (CaseRun.contains_iff.mp inside).1
    omega
  rw [lowerCharacter_of_contains isOther insideOther, sameCodePoint, undoes.2, back,
    Char.ofNat_toNat]

private theorem upperRuns_recover :
    (upperRuns.all fun run => run.isMirrored ||
      (List.range' run.first (run.last + 1 - run.first)).all fun codePoint =>
        lowerCharacter (Char.ofNat codePoint) != [Char.ofNat codePoint] ||
          recovers (Char.ofNat codePoint)) = true := by
  decide +kernel

private theorem upperExpansions_recover :
    (upperExpansions.all fun entry => recovers (Char.ofNat entry.1)) = true := by
  decide +kernel

/-- A letter without another lower case has a capital whose small form has the same capital. -/
theorem exists_hasCapital
    {letter : Char} (isSmall : lowerCharacter letter = [letter]) :
    ∃ capital small more, HasCapital letter capital small more := by
  by_cases ascii : letter.toNat < 0x80
  · exact exists_hasCapital_of_recovers
      (ascii_induction (recovers · = true) (by decide +kernel) ascii)
  cases found : upperExpansions.lookup letter.toNat with
  | some expansion =>
      obtain ⟨before, after, parts, _⟩ := List.lookup_eq_some_iff.mp found
      have recovered := List.all_eq_true.mp upperExpansions_recover (letter.toNat, expansion)
        (by simp [parts])
      rw [Char.ofNat_toNat] at recovered
      exact exists_hasCapital_of_recovers recovered
  | none =>
      have upper_eq : upperCharacter letter = [CaseRun.apply upperRuns letter] := by
        rw [upperCharacter, if_neg ascii, found]
      rcases CaseRun.apply_cases upperRuns letter with
        ⟨_, unchanged⟩ | ⟨run, isRun, inside, moved⟩
      · rw [unchanged] at upper_eq
        exact ⟨letter, letter, [], upper_eq, isSmall, upper_eq, id, List.not_mem_nil,
          fun _ member => (nomatch member)⟩
      · rw [moved] at upper_eq
        rcases Bool.or_eq_true_iff.mp (List.all_eq_true.mp upperRuns_recover run isRun) with
          mirrored | recovered
        · have lower_eq := lowerCharacter_of_isMirrored isRun mirrored inside
          exact ⟨_, letter, [], upper_eq, lower_eq, upper_eq, id, List.not_mem_nil,
            fun _ member => (nomatch member)⟩
        · have listed : letter.toNat ∈ List.range' run.first (run.last + 1 - run.first) := by
            obtain ⟨above, below, _⟩ := CaseRun.contains_iff.mp inside
            rw [List.mem_range'_1]
            omega
          have recovered := List.all_eq_true.mp recovered letter.toNat listed
          rw [Char.ofNat_toNat, isSmall, bne_self_eq_false, Bool.false_or] at recovered
          exact exists_hasCapital_of_recovers recovered

end TitleStamp
