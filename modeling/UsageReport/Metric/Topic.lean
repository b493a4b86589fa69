import UsageReport.Metric.Device
import UsageReport.Metric.Load
import UsageReport.Metric.TaskCharts

/-! The topics of a report in order, and the charts of each. -/

namespace UsageReport.Metric

/-- What a group of charts is about. -/
inductive Topic where
  | cgroupProcessor
  | cgroupMemory
  | cgroupNetwork
  | topTasks
  | systemProcessor
  | systemMemory
  | systemNetwork
  | disks
  | load
deriving DecidableEq, Repr

namespace Topic

def all : List Topic :=
  [cgroupProcessor, cgroupMemory, cgroupNetwork, topTasks, systemProcessor, systemMemory,
    systemNetwork, disks, load]

/-- The charts of a topic, none where nothing was collected for it. -/
def charts (c : Context) : Topic → Except Fault (List Chart)
  | cgroupProcessor => Metric.cgroupProcessor c
  | cgroupMemory => Metric.cgroupMemory c
  | cgroupNetwork => Metric.cgroupNetwork c
  | topTasks => Metric.topTasks c
  | systemProcessor => Metric.systemProcessor c
  | systemMemory => Metric.systemMemory c
  | systemNetwork => Metric.systemNetwork c
  | disks => Metric.disks c
  | load => Metric.load c

end Topic

def charts (c : Context) : Except Fault (List Chart) := do
  return (← Topic.all.mapM (Topic.charts c)).flatten

end UsageReport.Metric
