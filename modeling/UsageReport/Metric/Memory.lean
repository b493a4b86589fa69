import UsageReport.Metric.Context

/-! Charts of used, cached and free memory, for the whole system and for the monitored cgroup. -/

namespace UsageReport.Metric

open UsageReport.Capture (number? lookupNumber?)
open UsageReport.Number (larger)
open UsageReport.Json (Object)
open UsageReport.Table (Row)

def systemMemorySection : String := "proc_meminfo"

def cgroupMemorySection : String := "cgroup_memory_stats"

def bytesUnit : String := "bytes"

def freeColumn : String := "Free"

def failuresColumn : String := "Alloc Failures"

def bytesOfKilo (x : Number) : Number := x * 1024

def totalMemory? (memory : Object) : Option Number := (number? memory "MemTotal").map bytesOfKilo

/-- The row of a reading, none where a counter is missing or the total is not the given one. -/
def systemMemoryRow? (total : Number) (r : Reading) : Option Row := do
  let now ← totalMemory? r.fields
  if now == total then
    let free := bytesOfKilo (← number? r.fields "MemFree")
    let cached := bytesOfKilo (← number? r.fields "Cached")
    return ⟨r.time, [total - free - cached, cached, free]⟩
  else none

/-- The chart of the system's memory, where the template has a total. -/
def systemMemory (c : Context) : Except Fault (List Chart) := do
  let some total := (c.capture.templateSection? systemMemorySection).bind totalMemory?
    | return []
  let rows := (readings c.capture systemMemorySection).filterMap (systemMemoryRow? total)
  let table ← tabulate (["Used", "Cached", freeColumn].map (·, bytesUnit)) rows
  let chart ← granted {
    title := "Memory usage of " ++ c.hostname ++ " (from baremetal stats)"
    source := .baremetal
    data := .timeSeries table
    button := some "Memory Usage"
    stacked := true
    axes := [(bytesUnit, .auto)]
    margin := c.margin }
  return [chart]

/-- The row of a reading, none where a counter is missing. A limit adds what is free and the count
of failed allocations. -/
def cgroupMemoryRow? (names : CounterNames) (limit : Option Number) (r : Reading) : Option Row := do
  let used ← lookupNumber? r.fields names.memoryUsed
  let cached ← lookupNumber? r.fields names.memoryCached
  let bounded := match limit with
    | none => []
    | some limit => [larger (limit - used - cached) 0,
        (lookupNumber? r.fields names.allocFailures).getD 0]
  return ⟨r.time, [used, cached] ++ bounded⟩

def cgroupMemory (c : Context) : Except Fault (List Chart) := do
  if ¬ c.capture.hasSection cgroupMemorySection then return []
  let limit := c.capture.header.memoryLimit?
  let bounded := limit.isSome
  let columns := [("Used", bytesUnit), ("Cached", bytesUnit)]
    ++ if bounded then [(freeColumn, bytesUnit), (failuresColumn, "")] else []
  let rows := (readings c.capture cgroupMemorySection).filterMap (cgroupMemoryRow? c.names limit)
  let table ← tabulate columns rows
  let chart ← granted {
    title := "Memory used by the CGroup (from CGroup stats)"
    source := .cgroupAggregate
    data := .timeSeries table
    button := some "Memory Usage"
    stacked := bounded
    axes := (bytesUnit, .auto) :: if bounded then [(failuresColumn, .withMargin)] else []
    secondary := if bounded then [failuresColumn] else []
    margin := c.margin }
  return [chart]

end UsageReport.Metric
