import TitleStamp.Retitle

/-!
# Sessions

A session is a pull request that lives through edits, changes of settings and retitles.
-/

namespace TitleStamp

structure Session where
  pullRequest : PullRequest
  settings : Settings
  deriving DecidableEq, Repr

namespace Session

inductive Step where
  | setTitle (text : Text)
  | setBody (text : Text)
  | addCommit (text : Text)
  | addComment (text : Text)
  | setSettings (settings : Settings)
  | messages
  | clean
  | retitle
  deriving DecidableEq, Repr

inductive Answer where
  | text (text : Text)
  | count (count : Nat)
  | settings (settings : Settings)
  | messages (messages : List Text)
  | retitled (retitle : Retitle)
  deriving DecidableEq

/-- Takes a step.  A retitle stores the new title. -/
def step (session : Session) : Step → Session × Answer
  | .setTitle text =>
      (⟨{ session.pullRequest with title := text }, session.settings⟩, .text text)
  | .setBody text =>
      (⟨{ session.pullRequest with bodyText := text }, session.settings⟩, .text text)
  | .addCommit text =>
      let commits := session.pullRequest.commits ++ [some text]
      (⟨{ session.pullRequest with commits := commits }, session.settings⟩,
        .count commits.length)
  | .addComment text =>
      let comments := session.pullRequest.comments ++ [some text]
      (⟨{ session.pullRequest with comments := comments }, session.settings⟩,
        .count comments.length)
  | .setSettings settings => (⟨session.pullRequest, settings⟩, .settings settings)
  | .messages => (session, .messages (session.pullRequest.messages session.settings))
  | .clean =>
      (session, .text (cleanTitle session.pullRequest.title session.settings.durationPattern
        session.settings.titlePattern))
  | .retitle =>
      let retitle := session.pullRequest.retitle session.settings
      (⟨{ session.pullRequest with title := retitle.title }, session.settings⟩,
        .retitled retitle)

def run (session : Session) : List Step → Session × List Answer
  | [] => (session, [])
  | step :: steps =>
      let (next, answer) := session.step step
      let (last, answers) := run next steps
      (last, answer :: answers)

end Session

end TitleStamp
