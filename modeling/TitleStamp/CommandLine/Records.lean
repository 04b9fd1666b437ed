import TitleStamp.CommandLine.Log
import TitleStamp.Number.Shown
import TitleStamp.Retitle
import TitleStamp.Text.Quoted

/-!
# Records of the steps

What is reported on the way to a result.  Scanning a pattern reports every lexeme, and after it what
finding its value reports; a scan inside another counts bytes from its own start.
-/

namespace TitleStamp

def templateTarget : Text :=
  "prtime::template".toList

def retitleTarget : Text :=
  "prtime::action".toList

/-! ## Rendering -/

/-- The name of the rule that reads a lexeme. -/
def Lexeme.ruleName : Lexeme → Text
  | .placeholder _ => "placeholder".toList
  | .call _ _ => "function call".toList
  | .literal _ => "literal".toList

/-- The record of a lexeme between two bytes of the scanned text. -/
def Lexeme.record (start stop : Nat) (lexeme : Lexeme) : Log.Record :=
  ⟨.trace, "prtime::engine".toList,
    lexeme.ruleName ++ " matched ".toList ++ lexeme.source.quoted ++ " at ".toList ++
      Text.ofNat start ++ "..".toList ++ Text.ofNat stop⟩

/-- The records of a scan from a given byte on, for lexemes with what finding their values
reports. -/
def scanRecords : (start : Nat) → List (Lexeme × List Log.Record) → List Log.Record
  | _, [] => []
  | start, (lexeme, reported) :: rest =>
      let stop := start + Text.byteLength lexeme.source
      lexeme.record start stop :: reported ++ scanRecords stop rest

/-- What looking up a placeholder reports. -/
def Variables.records (values : Variables) (name : Text) : List Log.Record :=
  match values name with
  | some _ => []
  | none =>
      [⟨.debug, templateTarget,
        "placeholder :".toList ++ name ++ " has no value, substituting an empty string".toList⟩]

def unknownCallRecord (name : Text) : Log.Record :=
  ⟨.debug, templateTarget,
    name ++ "(...) is not a registered function, keeping it as text".toList⟩

/-- What finding the value of a lexeme reports when calls are inert. -/
def Lexeme.inertRecords (values : Variables) : Lexeme → List Log.Record
  | .placeholder name => values.records name
  | _ => []

def renderInertRecords (values : Variables) (pattern : Text) : List Log.Record :=
  scanRecords 0 ((lexemes .inert pattern).map fun lexeme => (lexeme, lexeme.inertRecords values))

def renderAppliedRecords (values : Variables) (pattern : Text) : List Log.Record :=
  scanRecords 0 <| (lexemes .applied pattern).attach.map fun ⟨lexeme, _⟩ =>
    (lexeme,
      match lexeme with
      | .placeholder name => values.records name
      | .call name argument =>
          match Transform.named? name with
          | some _ => renderAppliedRecords values argument
          | none =>
              unknownCallRecord name ::
                renderInertRecords values (Lexeme.call name argument).source
      | .literal _ => [])
termination_by pattern.length
decreasing_by exact argument_length_lt ‹_›

/-- What finding the value of a lexeme reports when calls are applied. -/
def Lexeme.appliedRecords (values : Variables) : Lexeme → List Log.Record
  | .placeholder name => values.records name
  | .call name argument =>
      match Transform.named? name with
      | some _ => renderAppliedRecords values argument
      | none =>
          unknownCallRecord name :: renderInertRecords values (Lexeme.call name argument).source
  | .literal _ => []

theorem renderAppliedRecords_eq_scanRecords (values : Variables) (pattern : Text) :
    renderAppliedRecords values pattern =
      scanRecords 0
        ((lexemes .applied pattern).map fun lexeme => (lexeme, lexeme.appliedRecords values)) := by
  rw [renderAppliedRecords,
    List.map_subtype (g := fun lexeme => (lexeme, lexeme.appliedRecords values))]
  · rw [List.unattach_attach]
  · intro lexeme member
    cases lexeme <;> rfl

/-- What rendering a pattern reports. -/
def renderRecords (calls : Calls) (values : Variables) (pattern : Text) : List Log.Record :=
  match calls with
  | .applied => renderAppliedRecords values pattern
  | .inert => renderInertRecords values pattern

/-! ## Durations and titles -/

/-- The record of a mention, if its word names a unit. -/
def Mention.record? (mention : Mention) : Option Log.Record :=
  mention.millis?.map fun amount =>
    ⟨.trace, "prtime::duration::parse".toList,
      "duration term ".toList ++ mention.source.quoted ++ " = ".toList ++
        amount.shown (mention.number.head? = some '-') ++ " ms".toList⟩

/-- What summing the durations in a text reports. -/
def Duration.parseRecords (text : Text) : List Log.Record :=
  (mentions (dropSeparators text)).filterMap Mention.record?

/-- What cleaning a title reports. -/
def cleanTitleRecords (current durationPattern titlePattern : Text) : List Log.Record :=
  let probe := probe current durationPattern
  let matched := matchedDuration current durationPattern
  Duration.parseRecords current ++
    [⟨.debug, "prtime::title".toList,
      "clean_title: probe=".toList ++ probe.quoted ++ " shape=".toList ++ (shape probe).quoted ++
        " matched=".toList ++ matched.quoted ++ " extraction=".toList ++
        (extraction titlePattern matched).quoted⟩]

/-- What stamping a title reports. -/
def stampRecords (titlePattern duration title : Text) : List Log.Record :=
  renderRecords .applied
    (Variables.ofBindings [("duration".toList, duration), ("title".toList, title)]) titlePattern

/-- The record that sums up a retitle. -/
def Retitle.record (retitle : Retitle) : Log.Record :=
  ⟨.info, retitleTarget,
    "pull request ".toList ++ retitle.pullRequestId ++ ": ".toList ++
      Text.ofInt retitle.total.millis ++ " ms over ".toList ++ Text.ofNat retitle.scanned ++
      " messages, title ".toList ++ retitle.cleaned.quoted⟩

/-- What retitling a pull request reports. -/
def PullRequest.retitleRecords (pullRequest : PullRequest) (settings : Settings) :
    List Log.Record :=
  let retitle := pullRequest.retitle settings
  (pullRequest.messages settings).flatMap Duration.parseRecords ++
    cleanTitleRecords pullRequest.title settings.durationPattern settings.titlePattern ++
    retitle.record ::
    stampRecords settings.titlePattern (retitle.total.format settings.durationPattern)
      retitle.cleaned

/-! ## Requests -/

/-- What looking up a pull request reports. -/
def Request.lookupRecords : Request → List Log.Record
  | .byNumber number repository => [record ('#' :: Text.ofNat number) repository]
  | .byBranch branch repository => [record ("for branch ".toList ++ branch) repository]
  | .updateTitle _ _ => []
where
  record (sought : Text) (repository : Repository) : Log.Record :=
    ⟨.debug, "prtime::action::graphql".toList,
      "looking up pull request ".toList ++ sought ++ " in ".toList ++ repository.owner ++
        '/' :: repository.name⟩

end TitleStamp
