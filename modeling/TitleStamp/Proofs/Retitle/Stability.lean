import TitleStamp.Proofs.Stamp.StandardPattern

/-!
# When a second retitle keeps the title

Under the default patterns a second retitle finds the stamp of the first one exactly if the
durations mentioned in the stamped title, the stamp among them, sum to one with the signs of the
stamp.  Otherwise something else is removed or nothing is, and the title changes.
-/

namespace TitleStamp

namespace PullRequest

/-- The outcome of a retitle right after a retitle. -/
def retitleAgain (pullRequest : PullRequest) (settings : Settings) : Retitle :=
  { pullRequest with title := (pullRequest.retitle settings).title }.retitle settings

variable (pullRequest : PullRequest) (settings : Settings) (scanComments scanBody : Bool)

theorem total_retitleAgain :
    (pullRequest.retitleAgain settings).total = (pullRequest.retitle settings).total :=
  rfl

theorem title_retitleAgain_switched :
    (pullRequest.retitleAgain (.switched scanComments scanBody)).title =
      (pullRequest.retitle (.switched scanComments scanBody)).total.format
          Settings.defaultDurationPattern ++ separator ++
        cleanTitle (pullRequest.retitle (.switched scanComments scanBody)).title
          Settings.defaultDurationPattern Settings.defaultTitlePattern := by
  rw [retitleAgain, title_retitle_switched, ← retitleAgain, total_retitleAgain]

theorem isChanged_retitleAgain :
    (pullRequest.retitleAgain settings).isChanged = false ↔
      (pullRequest.retitleAgain settings).title = (pullRequest.retitle settings).title :=
  decide_eq_false_iff_not.trans not_not

/-- A second retitle keeps the title, and so counts as no change, exactly if the stamped title
teaches the signs of the total. -/
theorem title_retitleAgain_eq_iff :
    ((pullRequest.retitleAgain (.switched scanComments scanBody)).title =
        (pullRequest.retitle (.switched scanComments scanBody)).title ↔
      (learnedDuration (pullRequest.retitle (.switched scanComments scanBody)).title).SignsAgree
        (pullRequest.retitle (.switched scanComments scanBody)).total) ∧
      ((pullRequest.retitleAgain (.switched scanComments scanBody)).isChanged = false ↔
        (learnedDuration (pullRequest.retitle (.switched scanComments scanBody)).title).SignsAgree
          (pullRequest.retitle (.switched scanComments scanBody)).total) := by
  have firstTitle := pullRequest.title_retitle_switched scanComments scanBody
  have secondTitle := pullRequest.title_retitleAgain_switched scanComments scanBody
  have kept :
      (pullRequest.retitleAgain (.switched scanComments scanBody)).title =
          (pullRequest.retitle (.switched scanComments scanBody)).title ↔
        (learnedDuration
          (pullRequest.retitle (.switched scanComments scanBody)).title).SignsAgree
            (pullRequest.retitle (.switched scanComments scanBody)).total := by
    rw [← cleanTitle_stamped_eq_iff firstTitle]
    constructor
    · intro same
      exact List.append_cancel_left (secondTitle.symm.trans (same.trans firstTitle))
    · intro same
      rw [same] at secondTitle
      exact secondTitle.trans firstTitle.symm
  exact ⟨kept, (pullRequest.isChanged_retitleAgain _).trans kept⟩

/-- A range in the title teaches a negative duration, and the stamps accumulate. -/
theorem title_retitleAgain_range :
    let pullRequest : PullRequest :=
      ⟨[], "shave 3-5h off".toList, [], [], [some "wire it up 1h".toList]⟩
    (pullRequest.retitle (.switched false false)).title =
        "[1h0m] • shave 3-5h off".toList ∧
      (pullRequest.retitleAgain (.switched false false)).title =
        "[1h0m] • [1h0m] • shave 3-5h off".toList := by
  intro pullRequest
  have shown :
      (pullRequest.retitle (.switched false false)).total.format
        Settings.defaultDurationPattern = "[1h0m]".toList := by
    decide +kernel
  have cleaned :
      cleanTitle pullRequest.title Settings.defaultDurationPattern
        Settings.defaultTitlePattern = "shave 3-5h off".toList := by
    decide +kernel
  have missed :
      cleanTitle "[1h0m] • shave 3-5h off".toList Settings.defaultDurationPattern
        Settings.defaultTitlePattern = "[1h0m] • shave 3-5h off".toList := by
    decide +kernel
  have firstTitle :
      (pullRequest.retitle (.switched false false)).title =
        "[1h0m] • shave 3-5h off".toList := by
    rw [title_retitle_switched, shown, cleaned]
    decide
  refine ⟨firstTitle, ?_⟩
  rw [title_retitleAgain_switched, shown, firstTitle, missed]
  decide

end PullRequest

end TitleStamp
