import UsageReport.Decimal.Layout
import UsageReport.Number.Order
import UsageReport.Table.Fault

/-! Tables of readings over time: a column of timestamps and one or more series of numbers. Every
row has one value for each series; a row of another width is refused and changes nothing. -/

namespace UsageReport.Table

open UsageReport.Time (Instant)
open UsageReport.Decimal (Layout)
open UsageReport.Number (largest?)

/-- The name of a series and the unit of its values. -/
structure Series where
  name : String
  unit : String
deriving DecidableEq, Repr

/-- The values of all series at one instant. -/
structure Row where
  time : Instant
  values : List Number
deriving BEq

/-- A table of series over time. -/
structure TimeSeries where
  /-- The unit of the timestamps, which has no meaning of its own. -/
  timeUnit : String
  series : List Series
  rows : List Row
  series_ne : series ≠ []
  widths : ∀ row ∈ rows, row.values.length = series.length

namespace TimeSeries

instance : BEq TimeSeries :=
  ⟨fun t u => t.timeUnit == u.timeUnit && t.series == u.series && t.rows == u.rows⟩

/-- The empty table with the given columns, of which the first is the timestamps'. Without units
every column has the empty unit. -/
def create (names : List String) (units : Option (List String)) : Except Fault TimeSeries :=
  let units := units.getD (names.map fun _ => "")
  if wide : names.length < 2 then .error (.shape (.tooFewColumns names.length))
  else if names.headD "" ≠ timestampName then .error (.shape (.firstColumn (names.headD "")))
  else if fit : units.length ≠ names.length then
    .error (.shape (.unitCount units.length names.length))
  else .ok {
    timeUnit := units.headD ""
    series := List.zipWith Series.mk names.tail units.tail
    rows := []
    series_ne := by
      intro none
      have := congrArg List.length none
      simp only [List.length_zipWith, List.length_tail, List.length_nil] at this
      omega
    widths := by simp }

def ofSeries (names : List String) (unit : String) : Except Fault TimeSeries :=
  create (timestampName :: names) (some ("" :: names.map fun _ => unit))

def columnNames (t : TimeSeries) : List String := timestampName :: t.series.map Series.name

def columnUnits (t : TimeSeries) : List String := t.timeUnit :: t.series.map Series.unit

def widthFault (t : TimeSeries) (width : Nat) : Fault :=
  .shape (.rowWidth (width + 1) (t.series.length + 1))

/-- The table with more rows at its end. The first row of a wrong width is reported. -/
def extend (t : TimeSeries) (rows : List Row) : Except Fault TimeSeries :=
  match found : rows.find? (·.values.length ≠ t.series.length) with
  | some row => .error (t.widthFault row.values.length)
  | none => .ok { t with
      rows := t.rows ++ rows
      widths := by
        intro row inside
        rcases List.mem_append.1 inside with old | new
        · exact t.widths row old
        · simpa using List.find?_eq_none.1 found row new }

def push (t : TimeSeries) (row : Row) : Except Fault TimeSeries := t.extend [row]

/-- The table with one more row, whose timestamp is text. A wrong width is reported first. -/
def addRow (t : TimeSeries) (timestamp : String) (values : List Number) :
    Except Fault TimeSeries := do
  if values.length ≠ t.series.length then throw (t.widthFault values.length)
  let time ← (Instant.parse timestamp).mapError .timestamp
  t.push ⟨time, values⟩

def column (t : TimeSeries) (index : Nat) : List Number := t.rows.filterMap (·.values[index]?)

/-- The largest value of a series, zero where it has none. -/
def maxOf (t : TimeSeries) (index : Nat) : Number := (largest? (t.column index)).getD 0

def indexOf? (t : TimeSeries) (name : String) : Option Nat :=
  t.series.findIdx? (·.name = name)

def Row.dump (row : Row) : String :=
  "['" ++ row.time.rendererDate ++ "'"
    ++ String.join (row.values.map fun x => "," ++ Layout.plain.render x.value) ++ "],\n"

def dump (t : TimeSeries) : String := String.join (t.rows.map Row.dump)

theorem length_columnNames (t : TimeSeries) : t.columnNames.length = t.series.length + 1 := by
  simp [columnNames]

theorem length_columnUnits (t : TimeSeries) : t.columnUnits.length = t.series.length + 1 := by
  simp [columnUnits]

end TimeSeries

end UsageReport.Table
