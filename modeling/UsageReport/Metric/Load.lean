import UsageReport.Metric.Context
import UsageReport.Metric.Processor

/-! The chart of the load average, as a share of all CPUs. -/

namespace UsageReport.Metric

open UsageReport.Capture (number?)
open UsageReport.Table (Row)

def loadSection : String := "proc_loadavg"

def loadFields : List (String × String) :=
  [("load_avg_1min", "LoadAvg (1min)"), ("load_avg_5min", "LoadAvg (5min)"),
    ("load_avg_15min", "LoadAvg (15min)")]

/-- The number of CPUs of the system, never less than one. -/
def systemCpuCount (c : Context) : Nat :=
  max 1 (c.capture.header.cpuCount?.getD (c.capture.logicalCpus statSection).length)

def loadRow? (cpus : Nat) (r : Reading) : Option Row := do
  let values ← loadFields.mapM fun (key, _) =>
    (number? r.fields key).map fun x => 100 * x / .ofFloat cpus.toFloat
  return ⟨r.time, values⟩

def load (c : Context) : Except Fault (List Chart) := do
  if ¬ c.capture.hasSection loadSection then return []
  let rows := (readings c.capture loadSection).filterMap (loadRow? (systemCpuCount c))
  let table ← tabulate (loadFields.map fun (_, column) => (column, percent)) rows
  let chart ← granted {
    title := "Average Load of " ++ c.hostname ++ " (from baremetal stats)"
    source := .baremetal
    data := .timeSeries table
    button := some "Average Load"
    axes := [("Load (%)", .auto)]
    margin := c.margin }
  return [chart]

end UsageReport.Metric
