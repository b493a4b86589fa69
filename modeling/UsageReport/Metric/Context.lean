import UsageReport.Capture.Basic
import UsageReport.Chart.Request
import UsageReport.Metric.Enumeration
import UsageReport.Metric.Names
import UsageReport.Time.Reader

/-! What the charts of a capture are made from: its readings, section by section, the settings of the
report, and the orders in which maps give their values. -/

namespace UsageReport.Metric

open UsageReport.Json (Object)
open UsageReport.Time (Instant)
open UsageReport.Table (TimeSeries Row)
open UsageReport.Chart (MarginPolicy)

/-- A run: a capture, the settings of its report and the orders of the maps. -/
structure Context where
  capture : Capture
  margin : MarginPolicy := {}
  /-- The number of tasks in the charts of tasks, zero for all. -/
  topN : Nat := 20
  [orders : Orders]

/-- Why a chart cannot be made. -/
inductive Fault where
  | table (fault : Table.Fault)
  | chart (fault : Chart.Fault)
  /-- A sample is asked for that a capture of `count` samples does not have. -/
  | noSample (index count : Nat)
deriving DecidableEq

def Fault.message : Fault → String
  | .table fault => fault.message
  | .chart fault => fault.message
  | .noSample index count =>
    "index out of bounds: the len is " ++ toString count ++ " but the index is " ++ toString index

namespace Context

def hostname (c : Context) : String := c.capture.header.hostname?.getD "unknown host"

def names (c : Context) : CounterNames := .ofVersion c.capture.header.cgroupVersion

end Context

/-- A section of a sample with readings, and the index and the instant of the sample. -/
structure Reading where
  index : Nat
  time : Instant
  fields : Object

/-- The reading of a section of the sample at an index, none where the sample has no timestamp or
no such section. -/
def reading? (name : String) (sample : Capture.Sample) (index : Nat) : Option Reading := do
  let utc ← sample.utc?
  let time ← (Instant.parse utc).toOption
  let fields ← sample.section? name
  return ⟨index, time, fields⟩

def readings (c : Capture) (name : String) : List Reading :=
  c.indexedSamples.filterMap fun (sample, index) => reading? name sample index

def sampleAt (c : Capture) (index : Nat) : Except Fault Capture.Sample :=
  match c.samples[index]? with
  | some sample => .ok sample
  | none => .error (.noSample index c.samples.length)

def tabulate (columns : List (String × String)) (rows : List Row) : Except Fault TimeSeries := do
  let empty ← (TimeSeries.create (Table.timestampName :: columns.map Prod.fst)
    (some ("" :: columns.map Prod.snd))).mapError .table
  (empty.extend rows).mapError .table

def granted (request : Chart.Request) : Except Fault Chart := request.build.mapError .chart

end UsageReport.Metric
