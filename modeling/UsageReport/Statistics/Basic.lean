import UsageReport.Metric.Memory
import UsageReport.Metric.Processor
import UsageReport.Statistics.Summary

/-! Statistics of the monitored cgroup over the samples with readings. Every such sample counts once
for each quantity, as a reading or as skipped, unless the quantity was not collected. -/

namespace UsageReport

open UsageReport.Capture (Sample lookupNumber?)
open UsageReport.Json (Value Object)
open UsageReport.Metric (CounterNames accountingSection cgroupMemorySection throttlingPercent)

namespace Statistics

/-- There are too few samples for statistics. -/
structure TooFewSamples where
  found : Nat
  required : Nat
deriving DecidableEq, Repr

def TooFewSamples.message (f : TooFewSamples) : String :=
  "statistics need at least " ++ toString f.required ++ " samples, found " ++ toString f.found

/-- The readings of a quantity. -/
structure Quantity where
  unit : String
  values : List Number
  /-- The number of samples without a reading. -/
  skipped : Nat

namespace Quantity

def ofSamples (unit : String) (collected : Bool) (read : Sample → Option Number)
    (samples : List Sample) : Quantity :=
  if collected then ⟨unit, samples.filterMap read, samples.countP fun s => (read s).isNone⟩
  else ⟨unit, [], 0⟩

def summary (q : Quantity) (verbose : Bool) : Value := Statistics.summary q.unit verbose q.values

end Quantity

end Statistics

structure Statistics where
  /-- The number of samples with readings. -/
  analyzed : Nat
  cpu : Statistics.Quantity
  cpuThrottle : Statistics.Quantity
  memory : Statistics.Quantity
  memoryFailures : Statistics.Quantity

namespace Statistics

/-- The busy time of all CPUs, in percent. -/
def cpuReading (s : Sample) : Option Number := do
  let stats ← s.section? accountingSection
  let user ← lookupNumber? stats "cpu_tot.user"
  let system ← lookupNumber? stats "cpu_tot.sys"
  return user + system

/-- The share of throttled periods, where the sample has an entry on throttling. -/
def throttleReading (s : Sample) : Option Number := do
  let stats ← s.section? accountingSection
  if (stats.lookup "throttling").isSome then some (throttlingPercent stats) else none

def memoryReading (counter : String) (s : Sample) : Option Number :=
  (s.section? cgroupMemorySection).bind (lookupNumber? · counter)

/-- The statistics of a capture with at least `least` samples. -/
def ofCapture (least : Nat) (c : Capture) : Except TooFewSamples Statistics :=
  if c.samples.length < least then .error ⟨c.samples.length, least⟩
  else
    let names := CounterNames.ofVersion c.header.cgroupVersion
    let hasCpu := ((c.templateSection? accountingSection).bind (·.lookup "cpu_tot")).isSome
    let hasMemory := c.hasSection cgroupMemorySection
    let samples := c.dataSamples
    .ok {
      analyzed := samples.length
      cpu := .ofSamples "%" hasCpu cpuReading samples
      cpuThrottle := .ofSamples "%" hasCpu throttleReading samples
      memory := .ofSamples "bytes" hasMemory (memoryReading names.memoryUsed) samples
      memoryFailures := .ofSamples "" hasMemory (memoryReading names.allocFailures) samples }

def quantities (s : Statistics) : List (String × Quantity) :=
  [("cpu", s.cpu), ("cpu_throttle", s.cpuThrottle), ("memory", s.memory),
    ("memory_failcnt", s.memoryFailures)]

def json (s : Statistics) (verbose : Bool) : Value := .object [
  ("num_samples_analyzed", .integer s.analyzed),
  ("statistics", .object (s.quantities.map fun (name, q) => (name, q.summary verbose))),
  ("skipped_samples", .object (s.quantities.map fun (name, q) => (name, .integer q.skipped)))]

end Statistics

end UsageReport
