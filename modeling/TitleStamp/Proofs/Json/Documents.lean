import TitleStamp.Json.Document
import TitleStamp.Proofs.Json.Tokens

/-!
# Written documents

A text is a JSON text of a value if the value breaks off nowhere and the text spells its tokens.
Reading a JSON text gives back the value, and nothing is left after it.
-/

namespace TitleStamp.Json

mutual

/-- The tokens that a value is written with. -/
def Node.tokens : Node → List Token
  | .null => [.null]
  | .boolean value => [.boolean value]
  | .number natural => [.number natural]
  | .string content => [.string content]
  | .array items _ => .openArray :: (itemsTokens items ++ [.closeArray])
  | .object members _ => .openObject :: (membersTokens members ++ [.closeObject])
  | .broken _ => []

def itemsTokens : List Node → List Token
  | [] => []
  | item :: rest => item.tokens ++ laterItemsTokens rest

def laterItemsTokens : List Node → List Token
  | [] => []
  | item :: rest => .comma :: (item.tokens ++ laterItemsTokens rest)

def membersTokens : List (Except Fault Text × Node) → List Token
  | [] => []
  | (name, value) :: rest =>
      .string name :: .colon :: (value.tokens ++ laterMembersTokens rest)

def laterMembersTokens : List (Except Fault Text × Node) → List Token
  | [] => []
  | (name, value) :: rest =>
      .comma :: .string name :: .colon :: (value.tokens ++ laterMembersTokens rest)

end

mutual

/-- Whether every container of a value is closed and no value in it breaks off. -/
def Node.isComplete : Node → Bool
  | .array items breach => itemsAreComplete items && breach.isNone
  | .object members breach => membersAreComplete members && breach.isNone
  | .broken _ => false
  | _ => true

def itemsAreComplete : List Node → Bool
  | [] => true
  | item :: rest => item.isComplete && itemsAreComplete rest

def membersAreComplete : List (Except Fault Text × Node) → Bool
  | [] => true
  | (_, value) :: rest => value.isComplete && membersAreComplete rest

end

section Completeness

variable {item value : Node} {items : List Node} {name : Except Fault Text}
  {members : List Member} {breach : Option Breach}

theorem Node.isComplete_array_iff :
    (Node.array items breach).isComplete = true ↔
      itemsAreComplete items = true ∧ breach = none := by
  simp [Node.isComplete]

theorem Node.isComplete_object_iff :
    (Node.object members breach).isComplete = true ↔
      membersAreComplete members = true ∧ breach = none := by
  simp [Node.isComplete]

theorem itemsAreComplete_cons_iff :
    itemsAreComplete (item :: items) = true ↔
      item.isComplete = true ∧ itemsAreComplete items = true := by
  simp [itemsAreComplete]

theorem membersAreComplete_cons_iff :
    membersAreComplete ((name, value) :: members) = true ↔
      value.isComplete = true ∧ membersAreComplete members = true := by
  simp [membersAreComplete]

mutual

/-- A complete value is skipped without a fault. -/
theorem Node.skippedFault?_of_isComplete :
    (node : Node) → node.isComplete = true → node.skippedFault? = none
  | .null, _ | .boolean _, _ | .number _, _ | .string _, _ => rfl
  | .array items breach, complete => by
      obtain ⟨itemsComplete, rfl⟩ := Node.isComplete_array_iff.mp complete
      rw [Node.skippedFault?, itemsSkippedFault?_of_isComplete items itemsComplete]
      rfl
  | .object members breach, complete => by
      obtain ⟨membersComplete, rfl⟩ := Node.isComplete_object_iff.mp complete
      rw [Node.skippedFault?, membersSkippedFault?_of_isComplete members membersComplete]
      rfl

theorem itemsSkippedFault?_of_isComplete :
    (items : List Node) → itemsAreComplete items = true → itemsSkippedFault? items = none
  | [], _ => rfl
  | item :: rest, complete => by
      obtain ⟨itemComplete, restComplete⟩ := itemsAreComplete_cons_iff.mp complete
      rw [itemsSkippedFault?, Node.skippedFault?_of_isComplete item itemComplete,
        itemsSkippedFault?_of_isComplete rest restComplete]
      rfl

theorem membersSkippedFault?_of_isComplete :
    (members : List (Except Fault Text × Node)) → membersAreComplete members = true →
      membersSkippedFault? members = none
  | [], _ => rfl
  | (_, value) :: rest, complete => by
      obtain ⟨valueComplete, restComplete⟩ := membersAreComplete_cons_iff.mp complete
      rw [membersSkippedFault?, Node.skippedFault?_of_isComplete value valueComplete,
        membersSkippedFault?_of_isComplete rest restComplete]
      rfl

end

end Completeness

/-- A text is a JSON text of a value. -/
structure Written (text : Text) (node : Node) : Prop where
  complete : node.isComplete = true
  spells : Spells text node.tokens

section Building

variable {node : Node} {frames : List Frame} {rest : List Token}

/-- What is built once a value is complete. -/
def buildAfter (node : Node) (frames : List Frame) (rest : List Token) : Document :=
  match supply node frames with
  | some (next, frames) => build next frames rest
  | none => ⟨node, !rest.isEmpty⟩

/-- Where an array may end, the first token of a value does what it does where a value has to
come. -/
private theorem build_itemOrEnd (complete : node.isComplete = true) (items : List Node)
    (frames : List Frame) (rest : List Token) :
    build .itemOrEnd (.array items :: frames) (node.tokens ++ rest) =
      build .value (.array items :: frames) (node.tokens ++ rest) := by
  cases node with
  | broken breach => cases complete
  | null | boolean | number | string | array | object => rfl

mutual

/-- The tokens of a value build that value. -/
theorem build_tokens :
    (node : Node) → node.isComplete = true → (frames : List Frame) → (rest : List Token) →
      build .value frames (node.tokens ++ rest) = buildAfter node frames rest
  | .null, _, _, _ | .boolean _, _, _, _ | .number _, _, _, _ | .string _, _, _, _ => rfl
  | .array items breach, complete, frames, rest => by
      obtain ⟨itemsComplete, rfl⟩ := Node.isComplete_array_iff.mp complete
      have opened :
          build .value frames ((Node.array items none).tokens ++ rest) =
            build .itemOrEnd (.array [] :: frames)
              (itemsTokens items ++ .closeArray :: rest) := by
        simp [Node.tokens, build, move, valueMove]
      rw [opened]
      cases items with
      | nil => rfl
      | cons item more =>
          obtain ⟨itemComplete, moreComplete⟩ := itemsAreComplete_cons_iff.mp itemsComplete
          rw [itemsTokens, List.append_assoc, build_itemOrEnd itemComplete,
            build_tokens item itemComplete]
          exact build_laterItemsTokens more moreComplete [item] frames rest
  | .object members breach, complete, frames, rest => by
      obtain ⟨membersComplete, rfl⟩ := Node.isComplete_object_iff.mp complete
      have opened :
          build .value frames ((Node.object members none).tokens ++ rest) =
            build .nameOrEnd (.object [] :: frames)
              (membersTokens members ++ .closeObject :: rest) := by
        simp [Node.tokens, build, move, valueMove]
      rw [opened]
      cases members with
      | nil => rfl
      | cons member more =>
          obtain ⟨name, value⟩ := member
          obtain ⟨valueComplete, moreComplete⟩ :=
            membersAreComplete_cons_iff.mp membersComplete
          have named :
              build .nameOrEnd (.object [] :: frames)
                  (membersTokens ((name, value) :: more) ++ .closeObject :: rest) =
                build .value (.member [] name :: frames)
                  (value.tokens ++ (laterMembersTokens more ++ .closeObject :: rest)) := by
            simp [membersTokens, build, move, nameMove]
          rw [named, build_tokens value valueComplete]
          exact build_laterMembersTokens more moreComplete [(name, value)] frames rest

theorem build_laterItemsTokens :
    (items : List Node) → itemsAreComplete items = true → (done : List Node) →
      (frames : List Frame) → (rest : List Token) →
      build .nextItem (.array done :: frames) (laterItemsTokens items ++ .closeArray :: rest) =
        buildAfter (.array (done.reverse ++ items) none) frames rest
  | [], _, done, frames, rest => by
      rw [List.append_nil]
      rfl
  | item :: more, complete, done, frames, rest => by
      obtain ⟨itemComplete, moreComplete⟩ := itemsAreComplete_cons_iff.mp complete
      have resumed :
          build .nextItem (.array done :: frames)
              (laterItemsTokens (item :: more) ++ .closeArray :: rest) =
            build .value (.array done :: frames)
              (item.tokens ++ (laterItemsTokens more ++ .closeArray :: rest)) := by
        simp [laterItemsTokens, build, move]
      have collected : done.reverse ++ item :: more = (item :: done).reverse ++ more := by
        rw [List.reverse_cons, List.append_assoc, List.singleton_append]
      rw [resumed, build_tokens item itemComplete, collected]
      exact build_laterItemsTokens more moreComplete (item :: done) frames rest

theorem build_laterMembersTokens :
    (members : List (Except Fault Text × Node)) → membersAreComplete members = true →
      (done : List Member) → (frames : List Frame) → (rest : List Token) →
      build .nextMember (.object done :: frames)
          (laterMembersTokens members ++ .closeObject :: rest) =
        buildAfter (.object (done.reverse ++ members) none) frames rest
  | [], _, done, frames, rest => by
      rw [List.append_nil]
      rfl
  | (name, value) :: more, complete, done, frames, rest => by
      obtain ⟨valueComplete, moreComplete⟩ := membersAreComplete_cons_iff.mp complete
      have resumed :
          build .nextMember (.object done :: frames)
              (laterMembersTokens ((name, value) :: more) ++ .closeObject :: rest) =
            build .value (.member done name :: frames)
              (value.tokens ++ (laterMembersTokens more ++ .closeObject :: rest)) := by
        simp [laterMembersTokens, build, move, nameMove]
      have collected :
          done.reverse ++ (name, value) :: more = ((name, value) :: done).reverse ++ more := by
        rw [List.reverse_cons, List.append_assoc, List.singleton_append]
      rw [resumed, build_tokens value valueComplete, collected]
      exact build_laterMembersTokens more moreComplete ((name, value) :: done) frames rest

end

end Building

section Depth

mutual

/-- How deep the containers of a value are nested. -/
def Node.depth : Node → Nat
  | .array items _ => itemsDepth items + 1
  | .object members _ => membersDepth members + 1
  | _ => 0

def itemsDepth : List Node → Nat
  | [] => 0
  | item :: rest => max item.depth (itemsDepth rest)

def membersDepth : List (Except Fault Text × Node) → Nat
  | [] => 0
  | (_, value) :: rest => max value.depth (membersDepth rest)

end

mutual

/-- Two limits on nesting make no difference where neither is exceeded. -/
theorem Node.usedFault?_eq_of_depth_le :
    (node : Node) → (limit other : Nat) → node.depth ≤ limit → node.depth ≤ other →
      node.usedFault? limit = node.usedFault? other
  | .null, _, _, _, _ | .boolean _, _, _, _, _ | .number _, _, _, _, _
  | .string _, _, _, _, _ | .broken _, _, _, _, _ => by
      simp only [Node.usedFault?]
  | .array items breach, limit + 1, other + 1, within, withinOther => by
      rw [Node.usedFault?, Node.usedFault?,
        itemsUsedFault?_eq_of_depth_le items limit other (Nat.le_of_succ_le_succ within)
          (Nat.le_of_succ_le_succ withinOther)]
  | .object members breach, limit + 1, other + 1, within, withinOther => by
      rw [Node.usedFault?, Node.usedFault?,
        membersUsedFault?_eq_of_depth_le members limit other (Nat.le_of_succ_le_succ within)
          (Nat.le_of_succ_le_succ withinOther)]

theorem itemsUsedFault?_eq_of_depth_le :
    (items : List Node) → (limit other : Nat) → itemsDepth items ≤ limit →
      itemsDepth items ≤ other → itemsUsedFault? limit items = itemsUsedFault? other items
  | [], _, _, _, _ => rfl
  | item :: rest, limit, other, within, withinOther => by
      obtain ⟨itemWithin, restWithin⟩ := Nat.max_le.mp within
      obtain ⟨itemWithinOther, restWithinOther⟩ := Nat.max_le.mp withinOther
      rw [itemsUsedFault?, itemsUsedFault?,
        Node.usedFault?_eq_of_depth_le item limit other itemWithin itemWithinOther,
        itemsUsedFault?_eq_of_depth_le rest limit other restWithin restWithinOther]

theorem membersUsedFault?_eq_of_depth_le :
    (members : List (Except Fault Text × Node)) → (limit other : Nat) →
      membersDepth members ≤ limit → membersDepth members ≤ other →
      membersUsedFault? limit members = membersUsedFault? other members
  | [], _, _, _, _ => rfl
  | (name, value) :: rest, limit, other, within, withinOther => by
      obtain ⟨valueWithin, restWithin⟩ := Nat.max_le.mp within
      obtain ⟨valueWithinOther, restWithinOther⟩ := Nat.max_le.mp withinOther
      rw [membersUsedFault?, membersUsedFault?,
        Node.usedFault?_eq_of_depth_le value limit other valueWithin valueWithinOther,
        membersUsedFault?_eq_of_depth_le rest limit other restWithin restWithinOther]

end

end Depth

/-- Reading a JSON text gives back its value, and nothing is left. -/
theorem read_of_written {text : Text} {node : Node} (written : Written text node) :
    Json.read text = ⟨node, false⟩ := by
  have built := build_tokens node written.complete [] []
  rw [List.append_nil] at built
  rw [Json.read, tokens_of_spells written.spells, built]
  rfl

end TitleStamp.Json
