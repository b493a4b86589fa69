import UsageReport.Chart.Basic

/-! Requests for charts. A request is granted when it has one selector, its secondary columns exist
and it has a title for each axis; the first of these that fails is reported. The axes of a chart
over time share out its series. -/

namespace UsageReport.Chart

open UsageReport.Number (largest?)
open UsageReport.Table (TimeSeries)

inductive SelectorFault where
  | both
  | neither
deriving DecidableEq, Repr

def SelectorFault.message : SelectorFault → String
  | .both => "a chart cannot be both a button and a combo entry"
  | .neither => "a chart needs a button label or a combo entry"

inductive Fault where
  | selector (title : String) (fault : SelectorFault)
  | unknownColumn (title column : String)
  | axisCount (title : String) (expected found : Nat)
deriving DecidableEq, Repr

def Fault.message : Fault → String
  | .selector title fault => "chart '" ++ title ++ "': " ++ fault.message
  | .unknownColumn title column =>
    "chart '" ++ title ++ "': no column named '" ++ column ++ "' to route to the secondary axis"
  | .axisCount title expected found =>
    "chart '" ++ title ++ "' needs " ++ toString expected ++ " axis title(s), got "
      ++ toString found

structure Request where
  title : String
  source : Source
  data : Data
  button : Option String := none
  combo : Option (String × String) := none
  stacked : Bool := false
  /-- The titles and caps of the axes, the primary one first. -/
  axes : List (String × AxisMax) := []
  /-- The columns that the secondary axis measures. -/
  secondary : List String := []
  margin : MarginPolicy := {}

namespace Request

/-- The selector, where exactly one is given. -/
def selector (r : Request) : Except Fault Selector :=
  match r.button, r.combo with
  | some label, none => .ok (.button label)
  | none, some (group, entry) => .ok (.comboEntry group entry)
  | some _, some _ => .error (.selector r.title .both)
  | none, none => .error (.selector r.title .neither)

def indexOf (r : Request) (table : TimeSeries) (column : String) : Except Fault Nat :=
  match table.indexOf? column with
  | some index => .ok index
  | none => .error (.unknownColumn r.title column)

def cap (r : Request) (table : TimeSeries) (series : List Nat) : AxisMax → Option Float
  | .auto => none
  | .fixed x => some x
  | .withMargin => some (r.margin.cap ((largest? (series.map table.maxOf)).getD 0).value)

/-- The axes of a table over time. The secondary axis measures the secondary columns, and the
primary axis all others. -/
def timeSeriesAxes (r : Request) (table : TimeSeries) : Except Fault (List Axis) := do
  let found ← r.secondary.mapM (r.indexOf table)
  let (second, first) := (List.range table.series.length).partition found.contains
  let expected := if second = [] then 1 else 2
  if r.axes.length ≠ expected then throw (.axisCount r.title expected r.axes.length)
  return List.zipWith (fun (title, max) series => ⟨title, r.cap table series max, series⟩) r.axes
    [first, second]

/-- The axes of a table of items, which has no secondary columns and no series. -/
def categoricalAxes (r : Request) : Except Fault (List Axis) :=
  match r.secondary with
  | column :: _ => .error (.unknownColumn r.title column)
  | [] =>
    if r.axes.length = 1 ∨ r.axes.length = 2 then
      .ok (r.axes.map fun (title, max) =>
        ⟨title, match max with | .fixed x => some x | _ => none, []⟩)
    else .error (.axisCount r.title 2 r.axes.length)

def build (r : Request) : Except Fault Chart := do
  let selector ← r.selector
  let axes ← match r.data with
    | .timeSeries table => r.timeSeriesAxes table
    | .categorical _ => r.categoricalAxes
  return { title := r.title, selector, source := r.source, stacked := r.stacked, axes,
           data := r.data }

end Request

end UsageReport.Chart
