import UsageReport.Metric.Context

/-! Charts of what flows in and out of devices: traffic of network interfaces and reads and writes
of disks. Each device of the template has two columns, and what flows out is drawn below zero. -/

namespace UsageReport.Metric

open UsageReport.Capture (number? fieldOrZero)
open UsageReport.Json (Object)
open UsageReport.Table (Row)
open UsageReport.Chart (Source)

/-- One way to count the traffic of an interface. -/
structure Traffic where
  inKey : String
  outKey : String
  /-- The count that is one unit of the chart. -/
  scale : Number
  unit : String
  label : String

def Traffic.bytes : Traffic :=
  ⟨"ibytes", "obytes", 1000000, "MB/s", "Network Traffic (MB/s)"⟩

def Traffic.packets : Traffic := ⟨"ipackets", "opackets", 1, "PPS", "Network Traffic (PPS)"⟩

/-- What flows in and out of an interface. Both are zero where one of the counters is missing. -/
def Traffic.flow (t : Traffic) (interfaces : Object) (device : String) : List Number :=
  match (interfaces.lookup device).bind Json.Value.object? with
  | none => [0, 0]
  | some stats =>
    match number? stats t.inKey, number? stats t.outKey with
    | some received, some sent => [received / t.scale, -sent / t.scale]
    | _, _ => [0, 0]

def trafficChart (c : Context) (name : String) (source : Source) (origin : String)
    (devices : List String) (t : Traffic) : Except Fault Chart := do
  let rows := (readings c.capture name).map fun r =>
    Row.mk r.time (devices.flatMap (t.flow r.fields))
  let columns := devices.flatMap fun device => [device ++ "+in", device ++ "-out"]
  let table ← tabulate (columns.map (·, t.unit)) rows
  granted {
    title := t.label ++ " for " ++ c.hostname ++ " (from " ++ origin ++ ")"
    source
    data := .timeSeries table
    button := some t.label
    axes := [(t.unit, .auto)]
    margin := c.margin }

/-- The charts of traffic of a section's interfaces. -/
def network (c : Context) (name : String) (source : Source) (origin : String) :
    Except Fault (List Chart) := do
  let devices := c.capture.sectionKeys name
  if devices = [] then return []
  [Traffic.bytes, Traffic.packets].mapM (trafficChart c name source origin devices)

def systemNetworkSection : String := "network_interfaces"

def cgroupNetworkSection : String := "cgroup_network"

def systemNetwork (c : Context) : Except Fault (List Chart) :=
  network c systemNetworkSection .baremetal "baremetal stats"

def cgroupNetwork (c : Context) : Except Fault (List Chart) :=
  network c cgroupNetworkSection .cgroupAggregate "CGroup stats"

def disksSection : String := "disks"

def megabytes : String := "MB"

def megabytesOfKilo (x : Number) : Number := x / 1000

/-- What is read from and written to a disk. A missing counter is zero. -/
def diskFlow (disks : Object) (device : String) : List Number :=
  [megabytesOfKilo (fieldOrZero disks device "rkb"),
    megabytesOfKilo (-fieldOrZero disks device "wkb")]

def disks (c : Context) : Except Fault (List Chart) := do
  let devices := c.capture.sectionKeys disksSection
  if devices = [] then return []
  let rows := (readings c.capture disksSection).map fun r =>
    Row.mk r.time (devices.flatMap (diskFlow r.fields))
  let columns := devices.flatMap fun device => [device ++ " Read MB", device ++ " Write MB"]
  let table ← tabulate (columns.map (·, megabytes)) rows
  let chart ← granted {
    title := "Disk I/O (from baremetal stats)"
    source := .baremetal
    data := .timeSeries table
    button := some "Disk I/O"
    axes := [(megabytes, .auto)]
    margin := c.margin }
  return [chart]

end UsageReport.Metric
