import TitleStamp.PullRequest.Request
import TitleStamp.Settings
import TitleStamp.Stamp.Clean
import TitleStamp.Template.Render

/-!
# Retitling

The durations mentioned in the messages of a pull request are summed, and the title is cleaned
and stamped with the sum.
-/

namespace TitleStamp

/-- The texts that are scanned for durations: the messages of the commits, then the comments and
the body as far as the settings say so. -/
def PullRequest.messages (pullRequest : PullRequest) (settings : Settings) : List Text :=
  pullRequest.commits.filterMap (fun message => message) ++
    (if settings.scanComments then
      pullRequest.comments.filterMap (fun comment => comment)
    else
      []) ++
    (if settings.scanBody then [pullRequest.bodyText] else [])

/-- The sum of the durations that messages mention.  A sum out of range counts as the longest
duration, and the rest is added to that. -/
def totalDuration (messages : List Text) : Duration :=
  (messages.filterMap Duration.parse?).foldl
    (fun total duration => (total.add? duration).getD .longest) .zero

def stamp (titlePattern duration title : Text) : Text :=
  render .applied
    (Variables.ofBindings [("duration".toList, duration), ("title".toList, title)]) titlePattern

structure Retitle where
  pullRequestId : Text
  previousTitle : Text
  title : Text
  /-- The sum of the durations in the messages. -/
  total : Duration
  /-- The previous title without its stamp. -/
  cleaned : Text
  /-- The number of messages. -/
  scanned : Nat
  deriving DecidableEq

namespace Retitle

def isChanged (retitle : Retitle) : Bool :=
  retitle.title ≠ retitle.previousTitle

/-- The request that gives the pull request its new title. -/
def request (retitle : Retitle) : Request :=
  .updateTitle retitle.pullRequestId retitle.title

end Retitle

def PullRequest.retitle (pullRequest : PullRequest) (settings : Settings) : Retitle :=
  let messages := pullRequest.messages settings
  let total := totalDuration messages
  let cleaned := cleanTitle pullRequest.title settings.durationPattern settings.titlePattern
  ⟨pullRequest.id, pullRequest.title,
    stamp settings.titlePattern (total.format settings.durationPattern) cleaned,
    total, cleaned, messages.length⟩

end TitleStamp
