import TitleStamp.CommandLine.Run

/-!
# The program

The program reads what its command needs, runs the command line and leaves the outcome behind.
-/

namespace TitleStamp.Main

/-- The environment variables that commands look at. -/
def environmentNames : List String :=
  ["PRTIME_LOG", "INPUT_DURATIONPATTERN", "INPUT_TITLEPATTERN", "INPUT_SCANCOMMENTS",
   "INPUT_SCANPULLREQUESTBODY", "GITHUB_EVENT_NAME", "GITHUB_EVENT_PATH", "NO_COLOR",
   "CLICOLOR_FORCE"]

/-- The values of the environment variables that are set. -/
def readEnvironment : IO Environment := do
  let found ← environmentNames.filterMapM fun name => do
    return (← IO.getEnv name).map fun value => (name, value.toList)
  return fun name => found.lookup name

/-- What is wrong and the number of the error, which may come with a minus sign. -/
def described (details : String) (code : UInt32) : Text :=
  Text.capitalized details.toList ++ " (os error ".toList ++
    Text.ofNat (min code.toNat (0 - code).toNat) ++ ")".toList

/-- Why the system refused to read something. -/
def reason : IO.Error → Text
  | .noFileOrDirectory _ code details => described details code
  | .permissionDenied _ code details => described details code
  | .inappropriateType _ code details => described details code
  | other => other.toString.toList

/-- The text that bytes encode. -/
def decode (bytes : ByteArray) : Except Text Text :=
  match String.fromUTF8? bytes with
  | some content => .ok content.toList
  | none => .error "stream did not contain valid UTF-8".toList

/-- The bytes of a stream up to its end, after those already read. -/
partial def readAll (stream : IO.FS.Stream) (bytes : ByteArray) : IO ByteArray := do
  let chunk ← stream.read 65536
  if chunk.isEmpty then return bytes else readAll stream (bytes ++ chunk)

/-- Reads a source, or says why it cannot be read. -/
def readSource (source : Source) : IO (Except Text Text) := do
  try
    match source with
    | .standardInput => return decode (← readAll (← IO.getStdin) ByteArray.empty)
    | .file path => return decode (← IO.FS.readBinFile (String.ofList path))
  catch refused => return .error (reason refused)

/-- The surroundings of a command line: of all that could be read, only the source that its
command reads. -/
def surroundingsOf (given : List Text) : IO Surroundings := do
  let environment ← readEnvironment
  let source :=
    match Invocation.ofArguments given environment with
    | .ok invocation => invocation.command.source?
    | .error _ => none
  let content ←
    match source with
    | some source => readSource source
    | none => pure (.ok [])
  return ⟨environment, content, fun _ => content⟩

end TitleStamp.Main

/-- Runs the command line. -/
def main (given : List String) : IO UInt32 := do
  let arguments := given.map String.toList
  let surroundings ← TitleStamp.Main.surroundingsOf arguments
  let outcome := TitleStamp.runCommandLine arguments surroundings
  (← IO.getStderr).putStr (String.ofList outcome.standardError)
  (← IO.getStdout).putStr (String.ofList outcome.standardOutput)
  return outcome.exitCode.toUInt32
