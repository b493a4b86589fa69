import Mathlib
import UsageReport.Metric.TaskCharts
import UsageReport.Proofs.Metric.Columns
import UsageReport.Proofs.Metric.Curve
import UsageReport.Proofs.Metric.Reading

/-! The charts of tasks as curves: one for each ranked task or process, and behind them what a limit
of the cgroup adds. A curve of a task depends on the task alone, and one of a limit on no task of the
ranking. -/

namespace UsageReport.Metric

open UsageReport.Capture (lookupNumber?)
open UsageReport.Chart (AxisMax Request)
open UsageReport.Number (larger)
open UsageReport.Table (Categorical Cell)
open UsageReport.Time (Instant)

/-! ### Names -/

def Labelled {μ : Type} (curves : List (Curve μ)) : Prop :=
  ∀ curve ∈ curves, ∃ command id, curve.name = Task.label command id

-- A command may be any text, so only the parenthesis behind the number keeps the label of a task
-- apart from the column that is looked up for the second axis.
theorem Labelled.name_ne {μ : Type} {curves : List (Curve μ)} (labelled : Labelled curves)
    {first last : Curve μ} (differ : first.name ≠ last.name)
    (other : last.name.toList.getLast? ≠ some ')') :
    ∀ curve ∈ curves ++ [first], curve.name ≠ last.name := by
  intro curve inside
  rcases List.mem_append.1 inside with task | limit
  · obtain ⟨command, id, named⟩ := labelled curve task
    rw [named]
    intro same
    exact other (same ▸ getLast?_label command id)
  · rw [List.mem_singleton.1 limit]
    exact differ

/-! ### The ranking -/

/-- All tasks that were seen, the one with the most CPU time first. -/
def rankedTasks (c : Capture) : List Task :=
  ((Keyed.latest (Ranking.sightings c)).map Prod.snd).mergeSort fun a b =>
    Number.totalLE b.cpuSeconds a.cpuSeconds

theorem ranked_ofCapture (c : Capture) (topN : Nat) :
    (Ranking.ofCapture c topN).ranked = Ranking.cut topN (rankedTasks c) := rfl

theorem ranked_all (c : Capture) : (Ranking.ofCapture c 0).ranked = rankedTasks c :=
  ranked_ofCapture c 0

theorem ranked_first (c : Capture) {n : Nat} (positive : 0 < n) :
    (Ranking.ofCapture c n).ranked = (rankedTasks c).take n := by
  rw [ranked_ofCapture, Ranking.cut, if_neg (by omega)]

/-! ### Curves -/

def usageCurve (task : Task) : Curve Reading :=
  ⟨task.displayName, percent, fun reading => ((usage reading.fields).lookup task.id).getD 0⟩

def memoryCurve (r : Ranking) (id : TaskId) : Curve Reading :=
  ⟨r.mainLabel id, bytesUnit, fun reading => ((processMemory reading.fields).lookup id).getD 0⟩

theorem labelled_usage (tasks : List Task) : Labelled (tasks.map usageCurve) := by
  intro curve inside
  obtain ⟨task, -, rfl⟩ := List.mem_map.1 inside
  exact ⟨task.command, task.id, rfl⟩

theorem labelled_memory (r : Ranking) (ids : List TaskId) :
    Labelled (ids.map (memoryCurve r)) := by
  intro curve inside
  obtain ⟨id, -, rfl⟩ := List.mem_map.1 inside
  exact ⟨(r.commands.lookup id).getD "", id, rfl⟩

/-- What a task reads and writes, from what all tasks added since they were last seen. -/
def flowCurve (task : Task) : Curve (Instant × Keyed TaskId Number) :=
  ⟨task.displayName, bytesUnit, fun (_, added) => (added.lookup task.id).getD 0⟩

def idleCurve (c : Context) (quota : Number) : Curve Reading :=
  ⟨idleColumn, percent, fun reading =>
    larger (quota - (c.orders.usage reading.index).sum (usage reading.fields)) 0⟩

def throttlingCurve (c : Capture) : Curve Reading :=
  ⟨throttlingColumn, percent, fun reading =>
    ((c.samples[reading.index]?.bind (·.section? accountingSection)).map throttlingPercent).getD 0⟩

def freeCurve (c : Context) (limit : Number) : Curve Reading :=
  ⟨freeColumn, bytesUnit, fun reading =>
    larger (limit - ((c.capture.samples[reading.index]?.bind (·.section? cgroupMemorySection)).bind
      (charged? c.names)).getD
        ((c.orders.memory reading.index).sum (processMemory reading.fields))) 0⟩

def failuresCurve (c : Context) : Curve Reading :=
  ⟨failuresColumn, "", fun reading =>
    ((c.capture.samples[reading.index]?.bind (·.section? cgroupMemorySection)).bind
      (lookupNumber? · c.names.allocFailures)).getD 0⟩

def usageLimits (c : Context) : List (Curve Reading) :=
  match c.capture.header.cpuQuotaPercent? with
  | none => []
  | some quota => [idleCurve c quota, throttlingCurve c.capture]

def memoryLimits (c : Context) : List (Curve Reading) :=
  match c.capture.header.memoryLimit? with
  | none => []
  | some limit => [freeCurve c limit, failuresCurve c]

theorem names_usageLimits (c : Context) : (usageLimits c).map Curve.name
    = if c.capture.header.cpuQuotaPercent?.isSome then [idleColumn, throttlingColumn] else [] := by
  cases bound : c.capture.header.cpuQuotaPercent? <;> simp only [usageLimits, bound] <;> rfl

theorem names_memoryLimits (c : Context) : (memoryLimits c).map Curve.name
    = if c.capture.header.memoryLimit?.isSome then [freeColumn, failuresColumn] else [] := by
  cases bound : c.capture.header.memoryLimit? <;> simp only [memoryLimits, bound] <;> rfl

/-- The cap of the secondary axis, which measures the last of the curves that a limit adds. -/
def limitCaps (c : Context) (limits : List (Curve Reading)) : List (Option Float) :=
  limits.getLast?.toList.map fun curve =>
    cap c.margin ((readings c.capture tasksSection).map curve.cell)

/-! ### Rows -/

theorem usageBounds_eq_ok (c : Context) {reading : Reading}
    (h : reading ∈ readings c.capture tasksSection) :
    usageBounds c c.capture.header.cpuQuotaPercent? reading
      = .ok ((usageLimits c).map (·.cell reading)) := by
  obtain ⟨sample, -, there, -⟩ := sample_of_mem_readings h
  cases bound : c.capture.header.cpuQuotaPercent? with
  | none => simp only [usageLimits, bound]; rfl
  | some quota =>
    simp only [usageBounds, sampleAt_eq_ok there, usageLimits, bound, throttlingCurve,
      List.map_cons, List.map_nil, there]
    rfl

theorem memoryBounds_eq_ok (c : Context) {reading : Reading}
    (h : reading ∈ readings c.capture tasksSection) :
    memoryBounds c c.capture.header.memoryLimit? reading
      = .ok ((memoryLimits c).map (·.cell reading)) := by
  obtain ⟨sample, -, there, -⟩ := sample_of_mem_readings h
  cases bound : c.capture.header.memoryLimit? with
  | none => simp only [memoryLimits, bound]; rfl
  | some limit =>
    simp only [memoryBounds, sampleAt_eq_ok there, memoryLimits, bound, freeCurve, failuresCurve,
      List.map_cons, List.map_nil, there]
    rfl

/-- The rows of CPU time are those of the tasks' curves and the limit's. -/
theorem usageRows_eq_ok (c : Context) (r : Ranking) :
    (readings c.capture tasksSection).mapM
        (usageRow c r c.capture.header.cpuQuotaPercent?)
      = .ok (rowsOf Reading.time (readings c.capture tasksSection)
        (r.ranked.map usageCurve ++ usageLimits c)) := by
  apply mapM_eq_ok
  intro reading inside
  simp only [usageRow, usageBounds_eq_ok c inside, bind, Except.bind, pure, Except.pure,
    List.map_append, List.map_map]
  rfl

/-- The rows of memory are those of the processes' curves and the limit's. -/
theorem memoryRows_eq_ok (c : Context) (r : Ranking) :
    (readings c.capture tasksSection).mapM
        (memoryRow c r.mainIds c.capture.header.memoryLimit?)
      = .ok (rowsOf Reading.time (readings c.capture tasksSection)
        (r.mainIds.map (memoryCurve r) ++ memoryLimits c)) := by
  apply mapM_eq_ok
  intro reading inside
  simp only [memoryRow, memoryBounds_eq_ok c inside, bind, Except.bind, pure, Except.pure,
    List.map_append, List.map_map]
  rfl

/-- What all tasks of each reading added since they were last seen. -/
def flows : Keyed TaskId Number → List Reading → List (Instant × Keyed TaskId Number)
  | _, [] => []
  | known, reading :: rest =>
    (reading.time, (advance known reading.fields).2)
      :: flows (advance known reading.fields).1 rest

theorem flowRows_eq (r : Ranking) (known : Keyed TaskId Number) (readings : List Reading) :
    flowRows r known readings
      = rowsOf Prod.fst (flows known readings) (r.ranked.map flowCurve) := by
  induction readings generalizing known with
  | nil => rfl
  | cons reading readings ih =>
    rw [flows, rowsOf, List.map_cons, List.map_map]
    exact congrArg (_ :: ·) (ih _)

/-! ### Charts -/

def totals (task : Task) : List Cell :=
  [.text task.command, .number task.cpuSeconds, .number task.ioBytes, .text task.displayName,
    .number task.rssBytes]

theorem bubbleChart_eq_ok (c : Context) (r : Ranking) :
    ∃ chart, bubbleChart c r = .ok chart ∧ chart.items = r.ranked.map totals
      ∧ chart.secondaryCaps = [none] := by
  have named : ["Command", "CPU time", "I/O", "Task", "Memory"] ≠ [] := by simp
  obtain ⟨empty, created, columns, none⟩ := Categorical.create_eq_ok named
  have fit : ∀ row ∈ r.ranked.map totals, row.length = empty.columns.length := by
    intro row inside
    obtain ⟨task, -, rfl⟩ := List.mem_map.1 inside
    rw [columns]
    rfl
  obtain ⟨t, extended, -, rows⟩ := Categorical.extend_eq_ok fit
  rw [none, List.nil_append] at rows
  unfold totals at extended
  unfold bubbleChart
  simp only [created, Except.mapError, ok_bind, extended]
  exact ⟨_, rfl, rows, rfl⟩

/-- A request with the curves of tasks, the two that a limit adds and a second axis for the last one
is granted. -/
theorem trace_limited (c : Context) {tasks : List (Curve Reading)} (labelled : Labelled tasks)
    {first last : Curve Reading} (differ : first.name ≠ last.name)
    (other : last.name.toList.getLast? ≠ some ')') {request : Table.TimeSeries → Request}
    {selector : Chart.Selector} {axis : String × AxisMax} {title : String}
    (shape : ∀ t, (request t).data = .timeSeries t ∧ (request t).selector = .ok selector
      ∧ (request t).axes = [axis, (title, .withMargin)] ∧ (request t).secondary = [last.name])
    (policy : ∀ t, (request t).margin = c.margin) :
    ∃ chart, (tabulate ((tasks ++ [first, last]).map Curve.column)
          (rowsOf Reading.time (readings c.capture tasksSection) (tasks ++ [first, last]))
        >>= fun t => granted (request t)) = .ok chart
      ∧ Traces chart Reading.time (readings c.capture tasksSection) (tasks ++ [first, last])
      ∧ chart.secondaryCaps = limitCaps c [first, last] := by
  have whole : tasks ++ [first, last] = (tasks ++ [first]) ++ [last] := by
    rw [List.append_assoc, List.singleton_append]
  rw [whole]
  exact trace_double (labelled.name_ne differ other) shape policy

theorem usageColumns (c : Context) (r : Ranking) :
    (r.ranked.map Task.displayName ++
        if c.capture.header.cpuQuotaPercent?.isSome then [idleColumn, throttlingColumn] else []).map
        (·, percent)
      = (r.ranked.map usageCurve ++ usageLimits c).map Curve.column := by
  rw [List.map_append, List.map_append, List.map_map, List.map_map]
  cases bound : c.capture.header.cpuQuotaPercent? <;> simp only [usageLimits, bound] <;> rfl

/-- The chart of CPU time shows the ranked tasks and, behind them, what the quota adds. -/
theorem usageChart_eq_ok (c : Context) {r : Ranking} (filled : r.ranked ≠ []) :
    ∃ chart, usageChart c r = .ok chart
      ∧ Traces chart Reading.time (readings c.capture tasksSection)
        (r.ranked.map usageCurve ++ usageLimits c)
      ∧ chart.secondaryCaps = limitCaps c (usageLimits c) := by
  unfold usageChart
  simp only [usageRows_eq_ok, usageColumns, ok_bind]
  cases bound : c.capture.header.cpuQuotaPercent? with
  | none =>
    have limits : usageLimits c = [] := by simp only [usageLimits, bound]
    have some : r.ranked.map usageCurve ++ usageLimits c ≠ [] := by simpa [limits] using filled
    rw [limits] at *
    exact trace_single some fun t => ⟨rfl, rfl, rfl, rfl⟩
  | some quota =>
    have limits : usageLimits c = [idleCurve c quota, throttlingCurve c.capture] := by
      simp only [usageLimits, bound]
    have differ : idleColumn ≠ throttlingColumn := by decide
    have other : throttlingColumn.toList.getLast? ≠ some ')' := by decide
    rw [limits]
    exact trace_limited c (labelled_usage r.ranked) differ other (fun t => ⟨rfl, rfl, rfl, rfl⟩)
      fun t => rfl

theorem memoryColumns (c : Context) (r : Ranking) :
    ((r.mainIds.map fun id => (r.mainLabel id, bytesUnit)) ++
        if c.capture.header.memoryLimit?.isSome
        then [(freeColumn, bytesUnit), (failuresColumn, "")] else [])
      = (r.mainIds.map (memoryCurve r) ++ memoryLimits c).map Curve.column := by
  rw [List.map_append, List.map_map]
  cases bound : c.capture.header.memoryLimit? <;> simp only [memoryLimits, bound] <;> rfl

theorem mainIds_ne_nil {r : Ranking} (filled : r.ranked ≠ []) : r.mainIds ≠ [] := by
  cases tasks : r.ranked with
  | nil => exact absurd tasks filled
  | cons task rest =>
    rw [Ranking.mainIds, tasks, List.map_cons, List.eraseDups_cons]
    exact List.cons_ne_nil _ _

/-- The chart of memory shows the processes of the ranked tasks and, behind them, what the limit
adds. -/
theorem memoryChart_eq_ok (c : Context) {r : Ranking} (filled : r.ranked ≠ []) :
    ∃ chart, memoryChart c r = .ok chart
      ∧ Traces chart Reading.time (readings c.capture tasksSection)
        (r.mainIds.map (memoryCurve r) ++ memoryLimits c)
      ∧ chart.secondaryCaps = limitCaps c (memoryLimits c) := by
  unfold memoryChart
  simp only [memoryRows_eq_ok, memoryColumns, ok_bind]
  cases bound : c.capture.header.memoryLimit? with
  | none =>
    have limits : memoryLimits c = [] := by simp only [memoryLimits, bound]
    have some : r.mainIds.map (memoryCurve r) ++ memoryLimits c ≠ [] := by
      simpa [limits] using mainIds_ne_nil filled
    rw [limits] at *
    exact trace_single some fun t => ⟨rfl, rfl, rfl, rfl⟩
  | some limit =>
    have limits : memoryLimits c = [freeCurve c limit, failuresCurve c] := by
      simp only [memoryLimits, bound]
    have differ : freeColumn ≠ failuresColumn := by decide
    have other : failuresColumn.toList.getLast? ≠ some ')' := by decide
    rw [limits]
    exact trace_limited c (labelled_memory r r.mainIds) differ other
      (fun t => ⟨rfl, rfl, rfl, rfl⟩) fun t => rfl

/-- The chart of input and output shows the ranked tasks. -/
theorem flowChart_eq_ok (c : Context) {r : Ranking} (filled : r.ranked ≠ []) :
    ∃ chart, flowChart c r = .ok chart
      ∧ Traces chart Prod.fst (flows [] (readings c.capture tasksSection)) (r.ranked.map flowCurve)
      ∧ chart.secondaryCaps = [] := by
  have some : r.ranked.map flowCurve ≠ [] := by simpa using filled
  have columns : (r.ranked.map fun task => (task.displayName, bytesUnit))
      = (r.ranked.map flowCurve).map Curve.column := by
    rw [List.map_map]
    rfl
  unfold flowChart
  simp only [flowRows_eq, columns]
  exact trace_single some fun t => ⟨rfl, rfl, rfl, rfl⟩

/-! ### The topic -/

/-- The four charts of tasks. -/
structure TaskCharts where
  bubble : Chart
  usage : Chart
  memory : Chart
  flow : Chart

def TaskCharts.list (charts : TaskCharts) : List Chart :=
  [charts.bubble, charts.usage, charts.memory, charts.flow]

/-- The charts show the tasks of a ranking. -/
structure TaskCharts.Show (charts : TaskCharts) (c : Context) (r : Ranking) : Prop where
  items : charts.bubble.items = r.ranked.map totals
  usage : Traces charts.usage Reading.time (readings c.capture tasksSection)
    (r.ranked.map usageCurve ++ usageLimits c)
  memory : Traces charts.memory Reading.time (readings c.capture tasksSection)
    (r.mainIds.map (memoryCurve r) ++ memoryLimits c)
  flow : Traces charts.flow Prod.fst (flows [] (readings c.capture tasksSection))
    (r.ranked.map flowCurve)
  caps : charts.list.map Chart.secondaryCaps
    = [[none], limitCaps c (usageLimits c), limitCaps c (memoryLimits c), []]

theorem TaskCharts.Show.usageCaps {charts : TaskCharts} {c : Context} {r : Ranking}
    (shows : charts.Show c r) : charts.usage.secondaryCaps = limitCaps c (usageLimits c) :=
  Option.some.inj (congrArg (·[1]?) shows.caps)

theorem TaskCharts.Show.memoryCaps {charts : TaskCharts} {c : Context} {r : Ranking}
    (shows : charts.Show c r) : charts.memory.secondaryCaps = limitCaps c (memoryLimits c) :=
  Option.some.inj (congrArg (·[2]?) shows.caps)

theorem topTasks_of_none {c : Context} (none : (Ranking.ofCapture c.capture c.topN).ranked = []) :
    topTasks c = .ok [] := by
  unfold topTasks
  simp only [none]
  rfl

/-- The charts are those that are drawn for a ranking. -/
structure TaskCharts.Drawn (charts : TaskCharts) (c : Context) (r : Ranking) : Prop where
  bubble : bubbleChart c r = .ok charts.bubble
  usage : usageChart c r = .ok charts.usage
  memory : memoryChart c r = .ok charts.memory
  flow : flowChart c r = .ok charts.flow

theorem exists_drawn (c : Context) {r : Ranking} (filled : r.ranked ≠ []) :
    ∃ charts : TaskCharts, charts.Drawn c r ∧ charts.Show c r := by
  obtain ⟨bubble, bubbleMade, items, bubbleCaps⟩ := bubbleChart_eq_ok c r
  obtain ⟨usage, usageMade, usageShown, usageCaps⟩ := usageChart_eq_ok c filled
  obtain ⟨memory, memoryMade, memoryShown, memoryCaps⟩ := memoryChart_eq_ok c filled
  obtain ⟨flow, flowMade, flowShown, flowCaps⟩ := flowChart_eq_ok c filled
  refine ⟨⟨bubble, usage, memory, flow⟩, ⟨bubbleMade, usageMade, memoryMade, flowMade⟩, items,
    usageShown, memoryShown, flowShown, ?_⟩
  simp only [TaskCharts.list, List.map_cons, List.map_nil, bubbleCaps, usageCaps, memoryCaps,
    flowCaps]

theorem TaskCharts.Drawn.topTasks {c : Context} {charts : TaskCharts}
    (some : (Ranking.ofCapture c.capture c.topN).ranked ≠ [])
    (drawn : charts.Drawn c (Ranking.ofCapture c.capture c.topN)) :
    topTasks c = .ok charts.list := by
  have filled : (Ranking.ofCapture c.capture c.topN).ranked.isEmpty = false := by simpa using some
  unfold Metric.topTasks
  simp only [filled, drawn.bubble, drawn.usage, drawn.memory, drawn.flow]
  rfl

/-- Where a task is ranked there are four charts, which show the ranking. -/
theorem topTasks_of_some {c : Context} (some : (Ranking.ofCapture c.capture c.topN).ranked ≠ []) :
    ∃ charts : TaskCharts, topTasks c = .ok charts.list
      ∧ charts.Show c (Ranking.ofCapture c.capture c.topN) := by
  obtain ⟨charts, drawn, shows⟩ := exists_drawn c some
  exact ⟨charts, drawn.topTasks some, shows⟩

end UsageReport.Metric
