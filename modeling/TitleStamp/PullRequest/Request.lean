import TitleStamp.Json.Printer
import TitleStamp.PullRequest.Event

/-!
# Requests

The request that looks up the pull request of an event and the request that changes a title.
A request has a query text and variables; sending it is up to others.
-/

namespace TitleStamp

inductive Request where
  /-- Look up a pull request by its number. -/
  | byNumber (number : Nat) (repository : Repository)
  /-- Look up the first pull request of a branch. -/
  | byBranch (branch : Text) (repository : Repository)
  /-- Change the title of a pull request. -/
  | updateTitle (pullRequestId title : Text)
  deriving DecidableEq, Repr

namespace Request

/-- A query text of the given lines. -/
def ofLines (lines : List String) : Text :=
  lines.flatMap fun line => line.toList ++ ['\n']

/-- The lines that ask for the fields of a pull request. -/
def pullRequestLines : List String :=
  ["    id",
   "    title",
   "    bodyText",
   "    comments(first: 100) \x7b",
   "        nodes \x7b",
   "            bodyText",
   "        \x7d",
   "    \x7d",
   "    commits(first: 250) \x7b",
   "        nodes \x7b",
   "            commit \x7b",
   "                message",
   "            \x7d",
   "        \x7d",
   "    \x7d"]

def byNumberQuery : Text :=
  ofLines <|
    ["",
     "query ($number: Int!, $name: String!, $owner: String!) \x7b",
     "    repository(name: $name, owner: $owner) \x7b",
     "        pullRequest(number: $number) \x7b"] ++ pullRequestLines ++
    ["        \x7d",
     "    \x7d",
     "\x7d"]

def byBranchQuery : Text :=
  ofLines <|
    ["",
     "query ($branch: String!, $name: String!, $owner: String!) \x7b",
     "    repository(name: $name, owner: $owner) \x7b",
     "        pullRequests(headRefName: $branch, first: 1) \x7b",
     "            nodes \x7b"] ++ pullRequestLines ++
    ["            \x7d",
     "        \x7d",
     "    \x7d",
     "\x7d"]

def updateTitleQuery : Text :=
  ofLines
    ["",
     "mutation ($title: String!, $pullRequestId: String!) \x7b",
     "    updatePullRequest(input: \x7b title: $title, pullRequestId: $pullRequestId \x7d) \x7b",
     "        __typename",
     "    \x7d",
     "\x7d"]

def query : Request → Text
  | byNumber _ _ => byNumberQuery
  | byBranch _ _ => byBranchQuery
  | updateTitle _ _ => updateTitleQuery

/-- The variables of a request, in the order in which they are written. -/
def parameters : Request → List (Text × Json.Output)
  | byNumber number repository =>
      [("number".toList, .natural number),
       ("name".toList, .string repository.name),
       ("owner".toList, .string repository.owner)]
  | byBranch branch repository =>
      [("branch".toList, .string branch),
       ("name".toList, .string repository.name),
       ("owner".toList, .string repository.owner)]
  | updateTitle pullRequestId title =>
      [("title".toList, .string title),
       ("pullRequestId".toList, .string pullRequestId)]

def body (request : Request) : Json.Output :=
  .object
    [("query".toList, .string request.query),
     ("variables".toList, .object request.parameters)]

/-- The request that looks up the pull request of an event: by number if the event has one, else
by branch. -/
def lookup (event : Event) : Except Failure Request :=
  match event.repository? with
  | none => .error (.missingPayloadPart .repository)
  | some repository =>
      match event.number?, event.branch? with
      | some number, _ => .ok (.byNumber number repository)
      | none, some branch => .ok (.byBranch branch repository)
      | none, none => .error (.missingPayloadPart .numberOrBranch)

end Request

end TitleStamp
