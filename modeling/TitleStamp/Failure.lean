import TitleStamp.Json.Fault
import TitleStamp.Template.Lexeme
import TitleStamp.Text.Quoted

/-!
# Failures

Everything that can keep a command from doing its work, with the message and the exit code of
each case.  Rendering and cleaning never fail.
-/

namespace TitleStamp

/-- A part of an event payload that a lookup needs. -/
inductive PayloadPart where
  | repository
  | numberOrBranch
  deriving DecidableEq, Repr

/-- How a message calls a part of an event payload. -/
def PayloadPart.description : PayloadPart → Text
  | repository => "repository".toList
  | numberOrBranch => "pull request number or branch".toList

/-- Why a command failed. -/
inductive Failure where
  /-- A file or the standard input could not be read. -/
  | unreadable (path reason : Text)
  | invalidJson (fault : Json.Fault)
  /-- The event is not one that changes a title. -/
  | unsupportedEvent (name : Text)
  | missingPayloadPart (part : PayloadPart)
  | missingPullRequest
  /-- A variable was given without an equals sign. -/
  | invalidVariable (argument : Text)
  | noDuration (text : Text)
  deriving DecidableEq, Repr

namespace Failure

/-- What is wrong with a JSON text, in words.  They stand in for the words of the reader of JSON
texts, which are not modelled. -/
def faultDescription : Json.Fault → Text
  | .endsEarly => "the text ends inside a value".toList
  | .malformed => "the text is malformed".toList
  | .mismatch => "a value has the wrong shape".toList

def message : Failure → Text
  | unreadable path reason => "failed to read ".toList ++ path ++ ": ".toList ++ reason
  | invalidJson fault => "invalid JSON: ".toList ++ faultDescription fault
  | unsupportedEvent name => "unsupported event '".toList ++ name ++ "'".toList
  | missingPayloadPart part => "event payload has no ".toList ++ part.description
  | missingPullRequest => "response contains no pull request".toList
  | invalidVariable argument =>
      "invalid variable '".toList ++ argument ++ "' (expected key=value)".toList
  | noDuration text => "no duration found in ".toList ++ text.quoted

/-- The exit code of a command that fails.  An unsupported event counts as success. -/
def exitCode : Failure → Nat
  | unreadable _ _ => 1
  | invalidJson _ => 1
  | unsupportedEvent _ => 0
  | missingPayloadPart _ => 2
  | missingPullRequest => 2
  | invalidVariable _ => 2
  | noDuration _ => 2

end Failure

def ScanStop.message (stop : ScanStop) : Text :=
  "no rule matched at byte ".toList ++ Text.ofNat stop.position ++ " (near ".toList ++
    stop.snippet.quoted ++ ")".toList

end TitleStamp
