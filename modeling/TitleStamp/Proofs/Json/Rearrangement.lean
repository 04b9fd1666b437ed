import Mathlib.Data.List.Pairwise
import TitleStamp.Json.Record
import TitleStamp.Proofs.Json.Documents

/-!
# Rearranged records

The members of an object may change places, and members of unknown names may be added.  A record
whose fields are stored independently of each other is read alike before and after.  Only whether
it is read and what is read is the same: of several faults another one may come first.
-/

namespace TitleStamp.Json

/-- A member that a record knows, and how its value may be rearranged. -/
structure KnownMember where
  name : Text
  rearranged : Node → Node → Prop

/-- A member keeps its name.  Only the value of a known member may be rearranged. -/
def KeepsMember (known : List KnownMember) (before after : Member) : Prop :=
  after.1 = before.1 ∧
    (after.2 = before.2 ∨
      ∃ entry ∈ known, before.1 = .ok entry.name ∧ entry.rearranged before.2 after.2)

/-- A member whose name is a text that no known member has. -/
def IsUnknownMember (known : List KnownMember) (member : Member) : Prop :=
  ∃ name, member.1 = .ok name ∧ ∀ entry ∈ known, entry.name ≠ name

/-- Items keep their places, and each is rearranged like the member it stands for. -/
inductive RearrangedItems : List KnownMember → List Node → List Node → Prop where
  | same (known : List KnownMember) (items : List Node) : RearrangedItems known items items
  | item {entry : KnownMember} {known : List KnownMember} {before after : Node}
      {itemsBefore itemsAfter : List Node}
      (rearranged : entry.rearranged before after)
      (others : RearrangedItems known itemsBefore itemsAfter) :
      RearrangedItems (entry :: known) (before :: itemsBefore) (after :: itemsAfter)

/-- A record before and after its members change places and unknown ones are added, in it and in
the records that it holds.  What is no object or array stays as it is. -/
inductive Rearranged (known : List KnownMember) : Node → Node → Prop where
  | same (node : Node) : Rearranged known node node
  | object {before kept added after : List Member}
      (keeps : List.Forall₂ (KeepsMember known) before kept)
      (unknown : ∀ member ∈ added, IsUnknownMember known member)
      (permuted : after.Perm (kept ++ added)) :
      Rearranged known (.object before none) (.object after none)
  | array {before after : List Node} (items : RearrangedItems known before after) :
      Rearranged known (.array before none) (.array after none)

namespace Field

variable {Record : Type} {fields : List (Field Record)} {name : Text} {field : Field Record}
  {member : Member} {members rest : List Member} {seen : List Text} {record : Record}

/-- Two fields may be stored in either order. -/
def Commutes (first second : Field Record) : Prop :=
  ∀ value other record,
    ((first.store value record).toOption.bind fun record => (second.store other record).toOption) =
      (second.store other record).toOption.bind fun record => (first.store value record).toOption

theorem Commutes.symm {first second : Field Record} (commutes : first.Commutes second) :
    second.Commutes first :=
  fun value other record => (commutes other value record).symm

instance : Std.Symm (@Commutes Record) :=
  ⟨fun _ _ => Commutes.symm⟩

variable {known : List KnownMember}

section Optional

variable {Value Other : Type} {label : String} {read : Node → Except Fault Value}
  {put : Value → Record → Record}

end Optional

end Field

end TitleStamp.Json
