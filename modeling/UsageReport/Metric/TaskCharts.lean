import UsageReport.Metric.Memory
import UsageReport.Metric.Processor
import UsageReport.Metric.Task
import UsageReport.Table.Categorical

/-! Charts of the ranked tasks: one of their totals, and one each of their CPU time, memory and
input and output over time. -/

namespace UsageReport.Metric

open UsageReport.Capture (number? lookupNumber?)
open UsageReport.Json (Object)
open UsageReport.Number (larger)
open UsageReport.Table (Categorical Cell Row)

/-- The column with the CPU time that no task uses. -/
def idleColumn : String := "Idle"

/-- The chart of the totals of the ranked tasks. -/
def bubbleChart (c : Context) (r : Ranking) : Except Fault Chart := do
  let empty ← (Categorical.create ["Command", "CPU time", "I/O", "Task", "Memory"]).mapError .table
  let table ← (empty.extend (r.ranked.map fun task =>
    [.text task.command, .number task.cpuSeconds, .number task.ioBytes, .text task.displayName,
      .number task.rssBytes])).mapError .table
  granted {
    title := "CPU time, I/O and memory of the top tasks (from CGroup stats)"
    source := .cgroupPerTask
    data := .categorical table
    button := some "Top Tasks"
    axes := [("CPU time (secs)", .auto), ("I/O (bytes)", .auto)]
    margin := c.margin }

def usage (tasks : Object) : Keyed TaskId Number :=
  Keyed.latest ((Task.entries tasks).map fun (id, fields) =>
    (id, (number? fields "cpu_tot").getD 0))

/-- What a quota adds to a row: what all tasks leave of it, and the throttling of the sample. -/
def usageBounds (c : Context) (quota : Option Number) (reading : Reading) :
    Except Fault (List Number) :=
  match quota with
  | none => return []
  | some quota => do
    let sample ← sampleAt c.capture reading.index
    let used := (c.orders.usage reading.index).sum (usage reading.fields)
    return [larger (quota - used) 0,
      ((sample.section? accountingSection).map throttlingPercent).getD 0]

/-- The CPU time of the ranked tasks at one instant, and what a quota adds. -/
def usageRow (c : Context) (r : Ranking) (quota : Option Number) (reading : Reading) :
    Except Fault Row := do
  let used := usage reading.fields
  let bounds ← usageBounds c quota reading
  return ⟨reading.time, (r.ranked.map fun task => (used.lookup task.id).getD 0) ++ bounds⟩

def usageChart (c : Context) (r : Ranking) : Except Fault Chart := do
  let quota := c.capture.header.cpuQuotaPercent?
  let bounded := quota.isSome
  let columns := r.ranked.map Task.displayName
    ++ if bounded then [idleColumn, throttlingColumn] else []
  let rows ← (readings c.capture tasksSection).mapM (usageRow c r quota)
  let table ← tabulate (columns.map (·, percent)) rows
  granted {
    title := "CPU usage by task (from CGroup stats)"
    source := .cgroupPerTask
    data := .timeSeries table
    button := some "CPU by Task"
    stacked := true
    axes := (timeAxis, .auto) :: if bounded then [(throttlingAxis, .withMargin)] else []
    secondary := if bounded then [throttlingColumn] else []
    margin := c.margin }

/-- The memory of every process of a section. The tasks of a process share its memory, so that the
largest value of its tasks stands for all. -/
def processMemory (tasks : Object) : Keyed TaskId Number :=
  (Task.entries tasks).foldl (fun all (id, fields) =>
    all.update (Task.mainIdOf id fields) fun known => larger (known.getD 0) (Task.rss fields)) []

/-- The memory that counts against the limit, by the counters of the cgroup. -/
def charged? (names : CounterNames) (memory : Object) : Option Number := do
  let used ← lookupNumber? memory names.memoryUsed
  let cached ← lookupNumber? memory names.memoryCached
  return used + cached

/-- What a limit adds to a row: what is free, and the count of failed allocations. The processes
are summed where the cgroup has no counters. -/
def memoryBounds (c : Context) (limit : Option Number) (reading : Reading) :
    Except Fault (List Number) :=
  match limit with
  | none => return []
  | some limit => do
    let sample ← sampleAt c.capture reading.index
    let stats := sample.section? cgroupMemorySection
    let charged := (stats.bind (charged? c.names)).getD
      ((c.orders.memory reading.index).sum (processMemory reading.fields))
    return [larger (limit - charged) 0,
      (stats.bind (lookupNumber? · c.names.allocFailures)).getD 0]

/-- The memory of processes at one instant, and what a limit adds. -/
def memoryRow (c : Context) (mains : List TaskId) (limit : Option Number) (reading : Reading) :
    Except Fault Row := do
  let memory := processMemory reading.fields
  let bounds ← memoryBounds c limit reading
  return ⟨reading.time, (mains.map fun id => (memory.lookup id).getD 0) ++ bounds⟩

def memoryChart (c : Context) (r : Ranking) : Except Fault Chart := do
  let limit := c.capture.header.memoryLimit?
  let bounded := limit.isSome
  let columns := (r.mainIds.map fun id => (r.mainLabel id, bytesUnit))
    ++ if bounded then [(freeColumn, bytesUnit), (failuresColumn, "")] else []
  let rows ← (readings c.capture tasksSection).mapM (memoryRow c r.mainIds limit)
  let table ← tabulate columns rows
  granted {
    title := "Memory usage by process (from CGroup stats)"
    source := .cgroupPerTask
    data := .timeSeries table
    button := some "Memory by Task"
    stacked := true
    axes := (bytesUnit, .auto) :: if bounded then [(failuresColumn, .withMargin)] else []
    secondary := if bounded then [failuresColumn] else []
    margin := c.margin }

/-- The totals of a section's tasks replace the known ones. Also gives what each task added to its
last known total, nothing where it had none. -/
def advance (known : Keyed TaskId Number) (tasks : Object) :
    Keyed TaskId Number × Keyed TaskId Number :=
  (Task.entries tasks).foldl (fun (known, added) (id, fields) =>
    let total := Task.ioTotal fields
    (known.put id total, added.put id (((known.lookup id).map (total - ·)).getD 0))) (known, [])

/-- The input and output of the ranked tasks between the instants at which they were seen. -/
def flowRows (r : Ranking) : Keyed TaskId Number → List Reading → List Row
  | _, [] => []
  | known, reading :: rest =>
    let (known, added) := advance known reading.fields
    ⟨reading.time, r.ranked.map fun task => (added.lookup task.id).getD 0⟩
      :: flowRows r known rest

def flowChart (c : Context) (r : Ranking) : Except Fault Chart := do
  let rows := flowRows r [] (readings c.capture tasksSection)
  let table ← tabulate (r.ranked.map fun task => (task.displayName, bytesUnit)) rows
  granted {
    title := "I/O by task (from CGroup stats)"
    source := .cgroupPerTask
    data := .timeSeries table
    button := some "I/O by Task"
    stacked := true
    axes := [(bytesUnit, .auto)]
    margin := c.margin }

/-- The charts of the ranked tasks, none where no task was seen. -/
def topTasks (c : Context) : Except Fault (List Chart) := do
  let r := Ranking.ofCapture c.capture c.topN
  if r.ranked.isEmpty then return []
  return [← bubbleChart c r, ← usageChart c r, ← memoryChart c r, ← flowChart c r]

end UsageReport.Metric
