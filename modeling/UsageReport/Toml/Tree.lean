import UsageReport.Toml.Value

/-! Tables while a document is read. A table is defined once: by its own header, or by the keys of
one table that lead into it. A header may still define a table that so far only stands on the way
to others. -/

namespace UsageReport.Toml

open UsageReport.Json (Fields)

/-- How a table came to be. -/
inductive Origin where
  /-- By its own header. -/
  | header
  /-- On the way of a header to another table. -/
  | passage
  /-- By keys that lead into it. -/
  | dotted
deriving DecidableEq, Repr

/-- A value or an open table. -/
inductive Node where
  | value (v : Value)
  | table (origin : Origin) (fields : List (String × Node))
  /-- A list of tables, of which the last one is open. -/
  | tables (closed : List (List (String × Node))) (last : List (String × Node))

abbrev Branch := List (String × Node)

namespace Branch

/-- Gives the value `v` to `key` in the table that the names of `path` lead to. The path makes
tables, and leads only through tables that have no header; the last one has to be made by keys. -/
def put? (fields : Branch) (path : List String) (key : String) (v : Value) : Option Branch :=
  match path with
  | [] => if (fields.lookup key).isSome then none else some (Fields.set fields key (.value v))
  | name :: rest =>
    match fields.lookup name with
    | none => do
      let inner ← put? [] rest key v
      return Fields.set fields name (.table .dotted inner)
    | some (.table origin inner) =>
      if origin = .header ∨ (rest = [] ∧ origin ≠ .dotted) then none
      else do
        let inner ← put? inner rest key v
        return Fields.set fields name (.table origin inner)
    | some (.tables closed last) =>
      if rest = [] then none
      else do
        let last ← put? last rest key v
        return Fields.set fields name (.tables closed last)
    | some (.value _) => none

/-- Applies `f` to the table that the names of a header lead to. The path makes tables, and leads
into the last one of a list of tables. -/
def within? (fields : Branch) (path : List String) (f : Branch → Option Branch) : Option Branch :=
  match path with
  | [] => f fields
  | name :: rest =>
    match fields.lookup name with
    | none => do
      let inner ← within? [] rest f
      return Fields.set fields name (.table .passage inner)
    | some (.table origin inner) => do
      let inner ← within? inner rest f
      return Fields.set fields name (.table origin inner)
    | some (.tables closed last) => do
      let last ← within? last rest f
      return Fields.set fields name (.tables closed last)
    | some (.value _) => none

/-- Defines the table `name` by a header. -/
def define? (name : String) (fields : Branch) : Option Branch :=
  match fields.lookup name with
  | none => some (Fields.set fields name (.table .header []))
  | some (.table .passage inner) => some (Fields.set fields name (.table .header inner))
  | some _ => none

/-- Adds a table to the list of tables `name`. -/
def append? (name : String) (fields : Branch) : Option Branch :=
  match fields.lookup name with
  | none => some (Fields.set fields name (.tables [] []))
  | some (.tables closed last) => some (Fields.set fields name (.tables (closed ++ [last]) []))
  | some _ => none

end Branch

namespace Node

mutual

def close : Node → Value
  | .value v => v
  | .table _ fields => .table (closeFields fields)
  | .tables closed last => .array (closeTables closed ++ [.table (closeFields last)])

def closeFields : List (String × Node) → List (String × Value)
  | [] => []
  | (name, node) :: rest => (name, close node) :: closeFields rest

def closeTables : List (List (String × Node)) → List Value
  | [] => []
  | fields :: rest => .table (closeFields fields) :: closeTables rest

end

end Node

end UsageReport.Toml
