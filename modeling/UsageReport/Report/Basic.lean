import UsageReport.Metric.Topic
import UsageReport.Report.Overview
import UsageReport.Table.Columnar

/-! Reports: numbered charts and two overviews. The tables over time stand in the report as one text
each, which a chart gets when it is added. -/

namespace UsageReport

open UsageReport.Json (Value)
open UsageReport.Table (TimeSeries Series Categorical CompactFault)

namespace Report

/-- How a table over time becomes one text. -/
abbrev Spelling := TimeSeries → Except CompactFault String

inductive Fault where
  | metric (fault : Metric.Fault)
  /-- The table of the chart with the given number cannot be spelled. -/
  | spelling (id : Nat) (fault : CompactFault)

def Fault.message : Fault → String
  | .metric fault => fault.message
  | .spelling id fault => "encoding chart " ++ toString id ++ ": " ++ fault.message

/-- A chart with its number in the report, and the text of its table where that is over time. -/
structure Entered where
  id : Nat
  chart : Chart
  encoded : Option String

/-- The charts of a report that is being made, numbered from one. -/
structure Builder where
  charts : List Entered := []

namespace Builder

/-- Adds a chart. Also gives its number. -/
def push (spell : Spelling) (b : Builder) (chart : Chart) : Except Fault (Nat × Builder) := do
  let id := b.charts.length + 1
  let encoded ← match chart.data with
    | .timeSeries table => (some <$> spell table).mapError (.spelling id)
    | .categorical _ => .ok none
  return (id, ⟨b.charts ++ [⟨id, chart, encoded⟩]⟩)

def pushAll (spell : Spelling) (b : Builder) (charts : List Chart) : Except Fault Builder :=
  charts.foldlM (fun b chart => Prod.snd <$> b.push spell chart) b

end Builder

end Report

structure Report where
  charts : List Report.Entered
  monitoring : List Report.Entry
  monitoredSystem : List Report.Entry

namespace Report

def Builder.finish (b : Builder) (c : Capture) : Report :=
  ⟨b.charts, monitoringOverview c, systemOverview c⟩

def generate (spell : Spelling) (c : Metric.Context) : Except Fault Report := do
  let charts ← (Metric.charts c).mapError .metric
  let builder ← Builder.pushAll spell {} charts
  return builder.finish c.capture

def indexJson (index : Option Nat) : Value :=
  (index.map fun (n : Nat) => Value.integer n).getD .null

def selectorJson : Chart.Selector → Value
  | .button label => .object [("kind", .string "button"), ("label", .string label)]
  | .comboEntry group entry =>
    .object [("kind", .string "combo_entry"), ("group", .string group), ("entry", .string entry)]

def axisJson (a : Chart.Axis) : Value := .object [
  ("title", .string a.title),
  ("max", (a.cap.map Value.real).getD .null),
  ("series", .array (a.series.map fun (n : Nat) => .integer n))]

/-- A column of a chart's table. An empty unit is left out. -/
def columnJson (name unit : String) (axis : Option Nat) (stacked : Bool) : Value :=
  .object ([("name", .string name)] ++ (if unit = "" then [] else [("unit", .string unit)])
    ++ [("axis", indexJson axis), ("stacked", .bool stacked)])

def seriesJson (c : Chart) (series : Series) (index : Nat) : Value :=
  let axis := c.axisOf? index
  columnJson series.name series.unit axis (axis.any c.isAxisStacked)

/-- The columns of a chart's table. -/
def columnsJson (c : Chart) : List Value :=
  match c.data with
  | .timeSeries t =>
    columnJson Table.timestampName t.timeUnit none false
      :: t.series.zipIdx.map fun (series, index) => seriesJson c series index
  | .categorical t => t.columns.map fun name => columnJson name "" none false

def dataJson (encoded : Option String) : Chart.Data → Value
  | .timeSeries t => .object [("kind", .string "columnar"), ("rows", .integer t.rows.length),
      ("encoded", .string (encoded.getD ""))]
  | .categorical t => .object [("kind", .string "categorical"), ("rows", t.rowsJson)]

def Entered.json (e : Entered) : Value := .object [
  ("id", .integer e.id),
  ("title", .string e.chart.title),
  ("selector", selectorJson e.chart.selector),
  ("source", .string e.chart.source.name),
  ("stacked", .bool e.chart.stacked),
  ("axes", .array (e.chart.axes.map axisJson)),
  ("columns", .array (columnsJson e.chart)),
  ("data", dataJson e.encoded e.chart.data)]

def json (r : Report) : Value := .object [
  ("charts", .array (r.charts.map Entered.json)),
  ("monitoring_summary", .array (r.monitoring.map Entry.json)),
  ("monitored_system_summary", .array (r.monitoredSystem.map Entry.json))]

def compactSpelling : Spelling := fun table => .ok table.encodeCompact

end Report

end UsageReport
