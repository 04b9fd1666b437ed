import TitleStamp.Json.Document

/-!
# Records in JSON documents

A record is written as an object, whose members may come in any order and among members of other
names, or as an array of all fields in their order.  Fields are stored one by one, so the first
problem in reading order is the one reported.
-/

namespace TitleStamp.Json

def Node.natural : Node → Except Fault Nat
  | .number (.ok (some value)) => .ok value
  | .number (.ok none) => .error .mismatch
  | .number (.error fault) => .error fault
  | .string (.error fault) => .error fault
  | .broken breach => .error breach.used
  | _ => .error .mismatch

def Node.text : Node → Except Fault Text
  | .string content => content
  | .number (.error fault) => .error fault
  | .broken breach => .error breach.used
  | _ => .error .mismatch

/-- A field of a record: its name and how its value is stored in the record. -/
structure Field (Record : Type) where
  name : Text
  store : Node → Record → Except Fault Record

namespace Field

variable {Record Value : Type}

/-- A field that may be missing or null. -/
def optional (name : String) (read : Node → Except Fault Value)
    (put : Value → Record → Record) : Field Record where
  name := name.toList
  store node record :=
    match node with
    | .null => .ok record
    | present => (read present).map fun value => put value record

/-- Stores the members of an object that is closed unless it has a breach.  A member of another
name is skipped and a second one of the same name is a mismatch. -/
def storeMembers (fields : List (Field Record)) (breach : Option Breach) :
    (seen : List Text) → List Member → Record → Except Fault Record
  | _, [], record =>
      match breach with
      | none => .ok record
      | some breach => .error breach.used
  | seen, (name, value) :: rest, record => do
      let name ← name
      match fields.find? (·.name = name) with
      | none =>
          match value.skippedFault? with
          | some fault => .error fault
          | none => storeMembers fields breach seen rest record
      | some field =>
          if seen.contains name then
            .error .mismatch
          else do
            let record ← field.store value record
            storeMembers fields breach (name :: seen) rest record

/-- Stores the items of an array, one for each field. -/
def storeItems (breach : Option Breach) :
    List (Field Record) → List Node → Record → Except Fault Record
  | [], [], record =>
      match breach with
      | none => .ok record
      | some breach => .error breach.used
  | [], _ :: _, _ => .error .malformed
  | _ :: _, [], _ =>
      match breach with
      | none => .error .mismatch
      | some breach => .error breach.used
  | field :: fields, item :: items, record => do
      let record ← field.store item record
      storeItems breach fields items record

/-- Reads a record, starting from a record without values. -/
def readRecord (fields : List (Field Record)) (empty : Record) :
    Node → Except Fault Record
  | .object members breach => storeMembers fields breach [] members empty
  | .array items breach => storeItems breach fields items empty
  | .number (.error fault) => .error fault
  | .string (.error fault) => .error fault
  | .broken breach => .error breach.used
  | _ => .error .mismatch

end Field

/-- Reads a text whose whole content is a value. -/
def readText {Value : Type} (read : Node → Except Fault Value) (text : Text) :
    Except Fault Value := do
  let document := Json.read text
  let value ← read document.root
  if document.trailing then .error .malformed else .ok value

end TitleStamp.Json
