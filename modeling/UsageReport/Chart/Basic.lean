import UsageReport.Chart.Axis
import UsageReport.Table.Categorical
import UsageReport.Table.TimeSeries

/-! Charts: a table with what a renderer needs to draw it. -/

namespace UsageReport

open UsageReport.Table (TimeSeries Categorical)

namespace Chart

/-- What the readings of a chart are about. -/
inductive Source where
  | baremetal
  | cgroupAggregate
  | cgroupPerTask
deriving DecidableEq, Repr

def Source.name : Source → String
  | .baremetal => "baremetal"
  | .cgroupAggregate => "cgroup_aggregate"
  | .cgroupPerTask => "cgroup_per_task"

/-- Where a chart is chosen: by a button of its own, or as an entry of a group. -/
inductive Selector where
  | button (label : String)
  | comboEntry (group entry : String)
deriving DecidableEq, Repr

inductive Data where
  | timeSeries (table : TimeSeries)
  | categorical (table : Categorical)

end Chart

structure Chart where
  title : String
  selector : Chart.Selector
  source : Chart.Source
  /-- The series of the first axis are stacked. -/
  stacked : Bool
  axes : List Chart.Axis
  data : Chart.Data

namespace Chart

/-- The series of an axis are stacked. Only those of the first axis ever are. -/
def isAxisStacked (c : Chart) (axis : Nat) : Bool := c.stacked && axis == 0

def axisOf? (c : Chart) (series : Nat) : Option Nat := c.axes.findIdx? (·.series.contains series)

def timeSeries? (c : Chart) : Option TimeSeries :=
  match c.data with
  | .timeSeries table => some table
  | .categorical _ => none

def categorical? (c : Chart) : Option Categorical :=
  match c.data with
  | .timeSeries _ => none
  | .categorical table => some table

end Chart

end UsageReport
