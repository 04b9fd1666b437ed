import TitleStamp.Proofs.Stamp.StandardPattern
import TitleStamp.Session

/-!
# Stamps do not accumulate over a session

Under the default patterns, and while no text contains a minus sign, the title of a session is the
title it started with, bare or under one stamp.  A retitle removes that stamp, if there is one,
and sets the stamp of the current total.
-/

namespace TitleStamp

theorem millis_learnedDuration_nonneg
    {current : Text}
    (noMinus : '-' ∉ current) :
    0 ≤ (learnedDuration current).millis := by
  rw [learnedDuration]
  cases parsed : Duration.parse? current with
  | none => decide
  | some learned => exact Duration.millis_nonneg_of_parse? noMinus parsed

/-- A title in which nothing can be taken for a stamp. -/
structure Unstamped (title : Text) : Prop where
  noMinus : '-' ∉ title
  noStamp : ∀ part, Duration.LooksStamped part → ¬part <:+: title
  noFallback : ¬". • ".toList <:+: title

theorem Unstamped.cleanTitle_eq
    {title : Text}
    (unstamped : Unstamped title) :
    cleanTitle title Settings.defaultDurationPattern Settings.defaultTitlePattern = title := by
  rw [cleanTitle_default]
  rcases Text.replaceFirst_after?_cases
      (matchedDuration title Settings.defaultDurationPattern ++ separator) [] title with
    unchanged | ⟨before, rest, split, _⟩
  · exact unchanged
  · rcases matchedDuration_default_cases title with fallback | ⟨inside, shown⟩
    · have occurs : matchedDuration title Settings.defaultDurationPattern ++ separator <:+: title :=
        ⟨before, rest, by rw [List.append_assoc]; exact split.symm⟩
      rw [fallback] at occurs
      exact absurd occurs unstamped.noFallback
    · have stamped : Duration.LooksStamped (matchedDuration title Settings.defaultDurationPattern) :=
        Duration.looksStamped_of_skeleton_eq
          (millis_learnedDuration_nonneg unstamped.noMinus) shown
      exact absurd inside (unstamped.noStamp _ stamped)

/-- A pull request none of whose texts beside the title contains a minus sign. -/
structure PullRequest.MinusFree (pullRequest : PullRequest) : Prop where
  body : '-' ∉ pullRequest.bodyText
  comments : ∀ text, some text ∈ pullRequest.comments → '-' ∉ text
  commits : ∀ text, some text ∈ pullRequest.commits → '-' ∉ text

theorem PullRequest.MinusFree.messages
    {pullRequest : PullRequest} {settings : Settings} {message : Text}
    (minusFree : pullRequest.MinusFree)
    (member : message ∈ pullRequest.messages settings) :
    '-' ∉ message := by
  rcases List.mem_append.mp member with earlier | isBody
  · rcases List.mem_append.mp earlier with isCommit | isComment
    · exact minusFree.commits message (by simpa using isCommit)
    · split at isComment
      · exact minusFree.comments message (by simpa using isComment)
      · cases isComment
  · split at isBody
    · rw [List.mem_singleton.mp isBody]
      exact minusFree.body
    · cases isBody

namespace Session

/-- A step that edits no title, adds no minus sign and keeps the default patterns. -/
inductive Step.Mild : Step → Prop where
  | setBody {text : Text} (noMinus : '-' ∉ text) : Mild (.setBody text)
  | addCommit {text : Text} (noMinus : '-' ∉ text) : Mild (.addCommit text)
  | addComment {text : Text} (noMinus : '-' ∉ text) : Mild (.addComment text)
  | setSettings (scanComments scanBody : Bool) :
      Mild (.setSettings (.switched scanComments scanBody))
  | messages : Mild .messages
  | clean : Mild .clean
  | retitle : Mild .retitle

/-- The title is the given one, bare or under one stamp, and the texts around it are without
minus signs. -/
structure AtMostOneStamp (title : Text) (session : Session) : Prop where
  title_eq : session.pullRequest.title = title ∨
    ∃ duration : Duration, 0 ≤ duration.millis ∧
      session.pullRequest.title =
        duration.format Settings.defaultDurationPattern ++ separator ++ title
  minusFree : session.pullRequest.MinusFree
  defaultPatterns : ∃ scanComments scanBody, session.settings = .switched scanComments scanBody

variable {title : Text} {session : Session}

theorem AtMostOneStamp.total_nonneg (holds : AtMostOneStamp title session) :
    0 ≤ (totalDuration (session.pullRequest.messages session.settings)).millis :=
  totalDuration_nonneg fun _ member => holds.minusFree.messages member

/-- A retitle puts the title under the stamp of the total and no other. -/
theorem AtMostOneStamp.title_retitle
    (unstamped : Unstamped title)
    (holds : AtMostOneStamp title session) :
    (session.pullRequest.retitle session.settings).title =
      (totalDuration (session.pullRequest.messages session.settings)).format
        Settings.defaultDurationPattern ++ separator ++ title := by
  obtain ⟨scanComments, scanBody, settings_eq⟩ := holds.defaultPatterns
  have cleaned :
      cleanTitle session.pullRequest.title Settings.defaultDurationPattern
        Settings.defaultTitlePattern = title := by
    rcases holds.title_eq with bare | ⟨duration, nonnegative, stamped⟩
    · rw [bare]
      exact unstamped.cleanTitle_eq
    · rw [stamped]
      exact cleanTitle_stamped (skeleton_probe_stamped nonnegative unstamped.noMinus)
  rw [settings_eq, PullRequest.title_retitle_switched, cleaned]
  rfl

theorem AtMostOneStamp.step
    {step : Step}
    (unstamped : Unstamped title)
    (holds : AtMostOneStamp title session)
    (mild : step.Mild) :
    AtMostOneStamp title (session.step step).1 := by
  obtain ⟨title_eq, minusFree, defaultPatterns⟩ := id holds
  cases mild with
  | setBody noMinus =>
      exact ⟨title_eq, ⟨noMinus, minusFree.comments, minusFree.commits⟩, defaultPatterns⟩
  | addCommit noMinus =>
      refine ⟨title_eq, ⟨minusFree.body, minusFree.comments, ?_⟩, defaultPatterns⟩
      intro message member
      rcases List.mem_append.mp member with earlier | added
      · exact minusFree.commits message earlier
      · cases List.mem_singleton.mp added
        exact noMinus
  | addComment noMinus =>
      refine ⟨title_eq, ⟨minusFree.body, ?_, minusFree.commits⟩, defaultPatterns⟩
      intro message member
      rcases List.mem_append.mp member with earlier | added
      · exact minusFree.comments message earlier
      · cases List.mem_singleton.mp added
        exact noMinus
  | setSettings scanComments scanBody =>
      exact ⟨title_eq, minusFree, scanComments, scanBody, rfl⟩
  | messages => exact holds
  | clean => exact holds
  | retitle =>
      refine ⟨Or.inr ⟨_, holds.total_nonneg, holds.title_retitle unstamped⟩,
        ⟨minusFree.body, minusFree.comments, minusFree.commits⟩, defaultPatterns⟩

theorem AtMostOneStamp.run
    {steps : List Step}
    (unstamped : Unstamped title)
    (holds : AtMostOneStamp title session)
    (mild : ∀ step ∈ steps, step.Mild) :
    AtMostOneStamp title (session.run steps).1 := by
  induction steps generalizing session with
  | nil => exact holds
  | cons step steps inductionHypothesis =>
      obtain ⟨here, later⟩ := List.forall_mem_cons.mp mild
      exact inductionHypothesis (holds.step unstamped here) later

theorem run_append (session : Session) (earlier later : List Step) :
    (session.run (earlier ++ later)).1 = ((session.run earlier).1.run later).1 := by
  induction earlier generalizing session with
  | nil => rfl
  | cons step steps inductionHypothesis =>
      exact inductionHypothesis (session.step step).1

/-- Right after a retitle the title is the one the session started with under the stamp of the
total at that moment. -/
theorem title_run_retitle
    {steps : List Step} {scanComments scanBody : Bool}
    (unstamped : Unstamped session.pullRequest.title)
    (minusFree : session.pullRequest.MinusFree)
    (defaultPatterns : session.settings = .switched scanComments scanBody)
    (mild : ∀ step ∈ steps, step.Mild) :
    let last := (session.run steps).1
    let total := (totalDuration (last.pullRequest.messages last.settings)).millis
    (session.run (steps ++ [.retitle])).1.pullRequest.title =
      '[' :: (Text.ofInt (total / 3600000) ++ 'h' ::
        (Text.ofInt (total % 3600000 / 60000) ++ "m] • ".toList ++ session.pullRequest.title)) := by
  intro last total
  have start : AtMostOneStamp session.pullRequest.title session :=
    ⟨Or.inl rfl, minusFree, scanComments, scanBody, defaultPatterns⟩
  have holds : AtMostOneStamp session.pullRequest.title last := start.run unstamped mild
  have retitled := holds.title_retitle unstamped
  rw [Duration.format_default, Duration.hours_eq holds.total_nonneg,
    Duration.minutes_eq holds.total_nonneg] at retitled
  rw [run_append]
  refine retitled.trans ?_
  simp [separator, total]

theorem title_run_retitle_twice :
    let session : Session :=
      ⟨⟨[], "Fix 12 bugs in 3 h".toList, [], [], [some "parser 2h".toList, none]⟩,
        .switched false false⟩
    let steps : List Step :=
      [.retitle, .addComment "review 30m".toList, .setSettings (.switched true false), .clean]
    (session.run (steps ++ [.retitle])).1.pullRequest.title =
      "[2h30m] • Fix 12 bugs in 3 h".toList := by
  intro session steps
  have unstamped : Unstamped session.pullRequest.title := by
    refine ⟨by decide, ?_, by decide⟩
    rintro _ ⟨_, _, _, _⟩ inside
    have bracket : '[' ∈ session.pullRequest.title := inside.subset List.mem_cons_self
    exact absurd bracket (by decide)
  have minusFree : session.pullRequest.MinusFree := by
    refine ⟨by decide, ?_, ?_⟩
    · intro message member
      cases member
    · intro message member
      simp only [session, List.mem_cons, Option.some.injEq, reduceCtorEq, List.not_mem_nil,
        or_false] at member
      rw [member]
      decide
  have mild : ∀ step ∈ steps, step.Mild := by
    simp only [steps, List.forall_mem_cons, List.not_mem_nil, false_implies, implies_true,
      and_true]
    exact ⟨.retitle, .addComment (by decide), .setSettings true false, .clean⟩
  have retitled := title_run_retitle unstamped minusFree rfl mild
  have total :
      (totalDuration ((session.run steps).1.pullRequest.messages
        (session.run steps).1.settings)).millis = 9000000 := by
    decide +kernel
  dsimp only at retitled
  rw [total] at retitled
  rw [retitled]
  decide

end Session

end TitleStamp
