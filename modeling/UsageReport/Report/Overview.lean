import UsageReport.Decimal.Fixed
import UsageReport.Decimal.Layout
import UsageReport.Metric.Device
import UsageReport.Metric.Processor

/-! The two overviews of a report, each a list of names and texts: about the monitoring and about
the monitored system. -/

namespace UsageReport.Report

open UsageReport.Decimal (Layout)
open UsageReport.Json (Value)
open UsageReport.Time (Instant)

def generator : String × String := ("cmonitor-report", "0.8.0")

def generatedBy : String := generator.1 ++ " " ++ generator.2

structure Entry where
  name : String
  value : String
deriving DecidableEq, Repr

namespace Entry

def ofOption (name : String) (value : Option String) : Entry := ⟨name, value.getD "N/A"⟩

def json (e : Entry) : Value := .object [("name", .string e.name), ("value", .string e.value)]

end Entry

def filled (s : String) : Option String := if s = "" then none else some s

/-- The time from the first sample to the last, in seconds. -/
def sampledTime? (c : Capture) : Option String := do
  let start ← (← c.samples.head?).utc?
  let stop ← (← c.samples.getLast?).utc?
  let stop ← (Instant.parse stop).toOption
  let start ← (Instant.parse start).toOption
  let seconds := Float.ofInt (start.millisecondsFrom stop) / 1000
  return Decimal.fixed 1 seconds ++ " s"

/-- The overview of the monitoring. -/
def monitoringOverview (c : Capture) : List Entry :=
  let collector := c.header.collector
  let interval := (collector.map (·.interval)).filter (0 < ·)
  [.ofOption "Collector version" (collector.bind fun k => filled k.version),
    .ofOption "Collected KPIs" (collector.bind fun k => filled k.collecting),
    .ofOption "Started sampling at (UTC)" (c.samples.head?.bind (·.utc?)),
    .ofOption "Samples" (some (toString c.samples.length)),
    .ofOption "Sampling interval" (interval.map fun x => Layout.plain.render x ++ " s"),
    .ofOption "Total time sampled" (sampledTime? c),
    .ofOption "Report generated by" (some generatedBy)]

/-- The number of CPUs, by the header or else by the template. -/
def cpuCount? (c : Capture) : Option Nat :=
  let counted := (c.logicalCpus Metric.statSection).length
  c.header.cpuCount?.or (if 0 < counted then some counted else none)

def keyCount? (c : Capture) (name : String) : Option Nat :=
  (c.templateSection? name).map List.length

/-- The overview of the monitored system. -/
def systemOverview (c : Capture) : List Entry :=
  let header := c.header
  [.ofOption "Hostname" header.hostname?,
    .ofOption "OS" (header.os.bind fun os => filled os.prettyName),
    .ofOption "CPU model" header.cpuModel?,
    .ofOption "CPU count" ((cpuCount? c).map toString),
    .ofOption "Disks" ((keyCount? c Metric.disksSection).map toString),
    .ofOption "Network interfaces" ((keyCount? c Metric.systemNetworkSection).map toString),
    .ofOption "NUMA nodes" (header.numaNodeCount?.map toString)]

end UsageReport.Report
