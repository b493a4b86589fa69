import UsageReport.Decimal.Layout
import UsageReport.Json.Value
import UsageReport.Number.Basic
import UsageReport.Table.Fault

/-! Tables with one row for each item, whose cells are texts and numbers. -/

namespace UsageReport.Table

open UsageReport.Decimal (Layout)
open UsageReport.Json (Value)

inductive Cell where
  | text (s : String)
  | number (x : Number)
deriving BEq

namespace Cell

def dump : Cell → String
  | .text s => "'" ++ s ++ "'"
  | .number x => Layout.plain.render x.value

def json : Cell → Value
  | .text s => .string s
  | .number x => .real x.value

end Cell

structure Categorical where
  columns : List String
  rows : List (List Cell)
  columns_ne : columns ≠ []
  widths : ∀ row ∈ rows, row.length = columns.length

namespace Categorical

def create (columns : List String) : Except Fault Categorical :=
  if h : columns = [] then .error (.shape .noColumns) else .ok ⟨columns, [], h, by simp⟩

/-- The table with more rows at its end. The first row of a wrong width is reported. -/
def extend (t : Categorical) (rows : List (List Cell)) : Except Fault Categorical :=
  match found : rows.find? (·.length ≠ t.columns.length) with
  | some row => .error (.shape (.rowWidth row.length t.columns.length))
  | none => .ok { t with
      rows := t.rows ++ rows
      widths := by
        intro row inside
        rcases List.mem_append.1 inside with old | new
        · exact t.widths row old
        · simpa using List.find?_eq_none.1 found row new }

def addRow (t : Categorical) (row : List Cell) : Except Fault Categorical := t.extend [row]

def dump (t : Categorical) : String :=
  String.join (t.rows.map fun row => "[" ++ ",".intercalate (row.map Cell.dump) ++ "],\n")

def rowsJson (t : Categorical) : Value := .array (t.rows.map fun row => .array (row.map Cell.json))

def json (t : Categorical) : Value :=
  .object [("column_names", .array (t.columns.map .string)), ("rows", t.rowsJson)]

end Categorical

end UsageReport.Table
