import TitleStamp.Proofs.Duration.Mentions
import TitleStamp.Proofs.Number.Sign
import TitleStamp.Retitle

/-!
# Texts without minus signs mention no negative durations

The numerals of the mentions of a text are parts of that text, so without a minus sign in the text
every mention contributes a duration that is not negative, and so does every message of a pull
request.
-/

namespace TitleStamp

namespace Mention

theorem number_subset_of_mem_collectFrom
    {covered : Nat} {text : Text} {mention : Mention}
    (member : mention ∈ collectFrom covered text) :
    mention.number ⊆ text := by
  obtain ⟨source, isSuffix, read⟩ := exists_read?_of_mem_collectFrom member
  obtain ⟨number, found, rfl⟩ := Option.map_eq_some_iff.mp read
  exact List.Subset.trans (readNumber?_isPrefix found).subset isSuffix.subset

end Mention

private theorem unsigned_exactUnitLength?
    {name : Text} {length : Double}
    (found : exactUnitLength? name = some length) :
    Double.Unsigned length := by
  have listed : ∀ entry ∈ unitNames, Double.Unsigned entry.2 := by
    simp only [unitNames, wholeMillis, List.forall_mem_cons]
    refine ⟨Double.unsigned_ofDecimal _ _, Double.unsigned_ofDecimal _ _, ?_⟩
    simp [Double.unsigned_ofInt]
  obtain ⟨entry, entryFound, rfl⟩ := Option.map_eq_some_iff.mp found
  exact listed entry (List.mem_of_find?_eq_some entryFound)

private theorem unsigned_unitLength?
    {word : Text} {length : Double}
    (found : unitLength? word = some length) :
    Double.Unsigned length := by
  unfold unitLength? at found
  dsimp only at found
  split at found
  · rename_i exact_length exactFound
    cases found
    exact unsigned_exactUnitLength? exactFound
  · obtain ⟨name, _, nameFound⟩ := Option.bind_eq_some_iff.mp found
    exact unsigned_exactUnitLength? nameFound

private theorem unsigned_millis?
    {mention : Mention} {amount : Double}
    (noMinus : '-' ∉ mention.number)
    (contributed : mention.millis? = some amount) :
    Double.Unsigned amount := by
  unfold Mention.millis? at contributed
  split at contributed
  · rename_i length number lengthFound numberRead
    cases contributed
    exact Double.unsigned_mul (Double.unsigned_ofText? noMinus numberRead)
      (unsigned_unitLength? lengthFound)
  · cases contributed

private theorem unsigned_foldl_add
    {amounts : List Double} {start : Double}
    (startUnsigned : Double.Unsigned start)
    (unsigned : ∀ amount ∈ amounts, Double.Unsigned amount) :
    Double.Unsigned (amounts.foldl Double.add start) := by
  induction amounts generalizing start with
  | nil => exact startUnsigned
  | cons amount amounts inductionHypothesis =>
      obtain ⟨here, later⟩ := List.forall_mem_cons.mp unsigned
      exact inductionHypothesis (Double.unsigned_add startUnsigned here) later

namespace Duration

/-- A text without minus signs mentions no negative duration. -/
theorem millis_nonneg_of_parse?
    {text : Text} {duration : Duration}
    (noMinus : '-' ∉ text)
    (parsed : parse? text = some duration) :
    0 ≤ duration.millis := by
  have unsigned :
      ∀ amount ∈ (mentions (dropSeparators text)).filterMap Mention.millis?,
        Double.Unsigned amount := by
    intro amount member
    obtain ⟨mention, mentioned, contributed⟩ := List.mem_filterMap.mp member
    have inside : mention.number ⊆ text :=
      List.Subset.trans (Mention.number_subset_of_mem_collectFrom mentioned)
        (dropSeparators_subset text)
    exact unsigned_millis? (fun minus => noMinus (inside minus)) contributed
  unfold parse? at parsed
  split at parsed
  · cases parsed
  · rw [millis_of_ofMillis? parsed]
    exact Double.toWord_nonneg
      (unsigned_foldl_add (.finite (Int.le_refl 0)) unsigned)

private theorem foldl_add?_nonneg
    {durations : List Duration} {total : Duration}
    (totalNonnegative : 0 ≤ total.millis)
    (nonnegative : ∀ duration ∈ durations, 0 ≤ duration.millis) :
    0 ≤ (durations.foldl
      (fun total duration => (total.add? duration).getD .longest) total).millis := by
  induction durations generalizing total with
  | nil => exact totalNonnegative
  | cons duration durations inductionHypothesis =>
      obtain ⟨here, later⟩ := List.forall_mem_cons.mp nonnegative
      have sumNonnegative : 0 ≤ ((total.add? duration).getD .longest).millis := by
        cases added : total.add? duration with
        | none => decide
        | some sum =>
            rw [Option.getD_some, millis_of_ofMillis? added]
            exact Int.add_nonneg totalNonnegative here
      exact inductionHypothesis sumNonnegative later

end Duration

/-- Messages without minus signs have a total that is not negative. -/
theorem totalDuration_nonneg
    {messages : List Text}
    (noMinus : ∀ message ∈ messages, '-' ∉ message) :
    0 ≤ (totalDuration messages).millis := by
  have parsedNonnegative :
      ∀ duration ∈ messages.filterMap Duration.parse?, 0 ≤ duration.millis := by
    intro duration member
    obtain ⟨message, isMessage, parsed⟩ := List.mem_filterMap.mp member
    exact Duration.millis_nonneg_of_parse? (noMinus message isMessage) parsed
  exact Duration.foldl_add?_nonneg (by decide) parsedNonnegative

end TitleStamp
