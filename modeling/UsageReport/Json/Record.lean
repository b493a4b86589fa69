import UsageReport.Json.Value

/-! Records in JSON documents: an object with a field for each part, or an array with the parts in
order. A part that is not there has a default; a part of the wrong type spoils the record. -/

namespace UsageReport.Json

/-- A record before its parts are read. -/
inductive Record where
  | named (fields : Object)
  | listed (items : List Value)

namespace Record

/-- The record of a value, which as an array has at most `count` items. -/
def ofValue? (count : Nat) : Value → Option Record
  | .object fields => some (.named fields)
  | .array items => if items.length ≤ count then some (.listed items) else none
  | _ => none

def get? (r : Record) (index : Nat) (name : String) : Option Value :=
  match r with
  | .named fields => fields.lookup name
  | .listed items => items[index]?

/-- A part, read by `read`, with a default. -/
def part? {α : Type} (r : Record) (index : Nat) (name : String) (default : α)
    (read : Value → Option α) : Option α :=
  match r.get? index name with
  | none => some default
  | some v => read v

end Record

namespace Value

def optional? {α : Type} (read : Value → Option α) : Value → Option (Option α)
  | .null => some none
  | v => (read v).map some

def natural? (limit : Nat) : Value → Option Nat
  | .integer n => if 0 ≤ n ∧ n ≤ limit then some n.toNat else none
  | _ => none

/-- The fields of an object in the order of their names, each read by `read`. -/
def sortedFields? {α : Type} (read : Value → Option α) (v : Value) : Option (Fields α) := do
  let fields ← v.object?
  (fields.mergeSort fun a b => a.1 ≤ b.1).mapM fun (name, v) => (read v).map (name, ·)

end Value

end UsageReport.Json
