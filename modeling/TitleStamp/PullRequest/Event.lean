import TitleStamp.Failure
import TitleStamp.Json.Record
import TitleStamp.PullRequest.Basic

/-!
# Events

An event has a kind and a payload.  The payload is a JSON record of which only a few fields
matter, all of them optional.
-/

namespace TitleStamp

/-- The kinds of event that lead to a pull request. -/
inductive EventKind where
  | pullRequest
  | issueComment
  | push
  deriving DecidableEq, Repr

namespace EventKind

def all : List EventKind :=
  [pullRequest, issueComment, push]

def name : EventKind → Text
  | pullRequest => "pull_request".toList
  | issueComment => "issue_comment".toList
  | push => "push".toList

def named? (given : Text) : Option EventKind :=
  all.find? (·.name = given)

end EventKind

namespace Payload

structure Head where
  ref : Option Text := none
  deriving DecidableEq, Repr

structure PullRequest where
  number : Option Nat := none
  head : Option Head := none
  deriving DecidableEq, Repr

structure Issue where
  number : Option Nat := none
  deriving DecidableEq, Repr

structure Owner where
  name : Option Text := none
  login : Option Text := none
  deriving DecidableEq, Repr

structure Repository where
  name : Option Text := none
  owner : Option Owner := none
  deriving DecidableEq, Repr

end Payload

/-- The fields of an event payload that matter. -/
structure Payload where
  pullRequest : Option Payload.PullRequest := none
  issue : Option Payload.Issue := none
  ref : Option Text := none
  repository : Option Payload.Repository := none
  deriving DecidableEq, Repr

namespace Payload

open Json (Fault Field Node)

def readHead : Node → Except Fault Head :=
  Field.readRecord
    [.optional "ref" Node.text fun ref head => { head with ref := some ref }]
    {}

def readPullRequest : Node → Except Fault PullRequest :=
  Field.readRecord
    [.optional "number" Node.natural fun number record => { record with number := some number },
     .optional "head" readHead fun head record => { record with head := some head }]
    {}

def readIssue : Node → Except Fault Issue :=
  Field.readRecord
    [.optional "number" Node.natural fun number record => { record with number := some number }]
    {}

def readOwner : Node → Except Fault Owner :=
  Field.readRecord
    [.optional "name" Node.text fun name record => { record with name := some name },
     .optional "login" Node.text fun login record => { record with login := some login }]
    {}

def readRepository : Node → Except Fault Repository :=
  Field.readRecord
    [.optional "name" Node.text fun name record => { record with name := some name },
     .optional "owner" readOwner fun owner record => { record with owner := some owner }]
    {}

def read : Node → Except Fault Payload :=
  Field.readRecord
    [.optional "pull_request" readPullRequest fun pullRequest record =>
      { record with pullRequest := some pullRequest },
     .optional "issue" readIssue fun issue record => { record with issue := some issue },
     .optional "ref" Node.text fun ref record => { record with ref := some ref },
     .optional "repository" readRepository fun repository record =>
      { record with repository := some repository }]
    {}

end Payload

structure Event where
  kind : EventKind
  payload : Payload
  deriving DecidableEq, Repr

namespace Event

/-- What a pushed ref starts with when it is a branch. -/
def branchStart : Text :=
  "refs/heads/".toList

def kindOfName (name : Text) : Except Failure EventKind :=
  match EventKind.named? name with
  | some kind => .ok kind
  | none => .error (.unsupportedEvent name)

/-- Reads an event from its name and the text of its payload.  The payload of an unsupported
event is not looked at. -/
def ofText (name payload : Text) : Except Failure Event := do
  let kind ← kindOfName name
  match Json.readText Payload.read payload with
  | .ok payload => .ok ⟨kind, payload⟩
  | .error fault => .error (.invalidJson fault)

/-- The head branch of the pull request, or the pushed branch. -/
def branch? (event : Event) : Option Text :=
  match event.kind with
  | .pullRequest => do
      let pullRequest ← event.payload.pullRequest
      let head ← pullRequest.head
      head.ref
  | .push => event.payload.ref.map fun ref => (Text.after? branchStart ref).getD ref
  | .issueComment => none

def number? (event : Event) : Option Nat :=
  match event.kind with
  | .pullRequest => event.payload.pullRequest.bind (·.number)
  | .issueComment => event.payload.issue.bind (·.number)
  | .push => none

/-- The repository of the event.  An owner without a name goes by the login. -/
def repository? (event : Event) : Option Repository := do
  let repository ← event.payload.repository
  let owner ← repository.owner
  let name ← repository.name
  let ownerName ← owner.name <|> owner.login
  some ⟨name, ownerName⟩

end Event

end TitleStamp
