import TitleStamp.PullRequest.Response
import TitleStamp.Proofs.Json.Documents

/-!
# Answers with and without an envelope

The data of an answer are read alike whether they stand alone or in an envelope.  What stands
alone is not taken for an envelope, and an envelope is not taken for data.
-/

namespace TitleStamp.Response

open Json

/-- The text of an envelope around the text of its data. -/
def envelopeText (data : Text) : Text :=
  "\x7b\"data\":".toList ++ (data ++ ['\x7d'])

/-- The envelope around data. -/
def envelope (data : Node) : Node :=
  .object [(.ok "data".toList, data)] none

/-- Whether a value is an object with a member of the given name. -/
def HasMember (name : Text) : Node → Prop
  | .object members _ => ∃ member ∈ members, member.1 = .ok name
  | _ => False

variable {text : Text} {node : Node}

/-- The text around data is the text of the envelope around them. -/
theorem written_envelopeText (written : Written text node) :
    Written (envelopeText text) (envelope node) := by
  have closed : Spells (text ++ ['\x7d']) (node.tokens ++ [.closeObject]) :=
    written.spells.append (.token .closeObject .nil) (by decide)
  have opened : Spells (envelopeText text)
      (.openObject :: .string (.ok "data".toList) :: .colon ::
        (node.tokens ++ [.closeObject])) := by
    change Spells
      (['\x7b'] ++ (('"' :: ("data".toList ++ ['"'])) ++ ([':'] ++ (text ++ ['\x7d'])))) _
    exact .token .openObject <| .token (.ordinary "data".toList (by decide)) <| .token .colon closed
  refine ⟨?_, ?_⟩
  · simp [envelope, Node.isComplete, membersAreComplete, written.complete]
  · simpa [envelope, Node.tokens, membersTokens, laterMembersTokens] using opened

theorem usedFault?_envelope (shallow : node.depth ≤ 126) :
    (envelope node).usedFault? nestingLimit = node.usedFault? nestingLimit := by
  have innermost : (envelope node).usedFault? nestingLimit = node.usedFault? 126 := by
    simp [envelope, nestingLimit, Node.usedFault?, membersUsedFault?, faultOf?]
  rw [innermost]
  exact node.usedFault?_eq_of_depth_le 126 nestingLimit shallow (Nat.le_succ_of_le shallow)

section Single

variable {name : String} {members : List Member} {breach : Option Breach}

theorem single?_of_absent
    (absent : ∀ member ∈ members, member.1.toOption ≠ some name.toList) :
    single? name (.object members breach) = none := by
  have noMember : members.filter
      (fun member => decide (member.1.toOption = some name.toList)) = [] :=
    List.filter_eq_nil_iff.mpr fun member isMember => by simpa using absent member isMember
  simp [single?, fields?, noMember]

theorem single?_singleton (value : Node) :
    single? name (.object [(.ok name.toList, value)] breach) = some value := by
  simp [single?, fields?, Except.toOption]

end Single

/-- What is not an object with data is not an envelope. -/
theorem envelope?_eq_none (noData : ¬HasMember "data".toList node) : envelope? node = none := by
  cases node with
  | object members breach =>
      have absent : single? "data" (.object members breach) = none := by
        apply single?_of_absent
        rintro ⟨found, value⟩ isMember named
        cases found with
        | error fault => cases named
        | ok found => exact noData ⟨_, isMember, congrArg Except.ok (Option.some.inj named)⟩
      rw [envelope?, absent]
      rfl
  | null | boolean | number | string | array | broken => rfl

theorem envelope?_envelope (node : Node) : envelope? (envelope node) = data? node := by
  rw [envelope, envelope?, single?_singleton]
  rfl

/-- An envelope has no repository of its own. -/
theorem data?_envelope (node : Node) : data? (envelope node) = none := by
  have absent : single? "repository" (envelope node) = none := by
    apply single?_of_absent
    intro member isMember
    rw [List.mem_singleton.mp isMember]
    change some "data".toList ≠ some "repository".toList
    decide
  rw [data?, absent]
  rfl

/-- Data give the same pull request or the same failure with and without an envelope. -/
theorem parse_envelopeText (written : Written text node) (shallow : node.depth ≤ 126)
    (noData : ¬HasMember "data".toList node) :
    parse (envelopeText text) = parse text := by
  have choice :
      (envelope? (envelope node) <|> data? (envelope node)) =
        (envelope? node <|> data? node) := by
    rw [envelope?_envelope, data?_envelope, envelope?_eq_none noData]
    cases data? node <;> rfl
  unfold parse
  simp only [read_of_written written, read_of_written (written_envelopeText written),
    usedFault?_envelope shallow, choice]

theorem parse_envelopeText_array :
    parse (envelopeText "[[[\"i\",\"t\"],null]]".toList) =
      .ok ⟨"i".toList, "t".toList, [], [], []⟩ := by
  have written :
      Written "[[[\"i\",\"t\"],null]]".toList
        (.array [.array [.array [.string (.ok "i".toList), .string (.ok "t".toList)] none,
          .null] none] none) := by
    refine ⟨by decide, ?_⟩
    exact .token .openArray <| .token .openArray <| .token .openArray <|
      .token (.ordinary "i".toList (by decide)) <| .token .comma <|
      .token (.ordinary "t".toList (by decide)) <| .token .closeArray <|
      .token .comma <| .token .nullWord <| .token .closeArray <| .token .closeArray .nil
  rw [parse_envelopeText written (by decide) id, parse, read_of_written written]
  rfl

end TitleStamp.Response
