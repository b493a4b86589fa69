import Mathlib
import UsageReport.Proofs.Metric.Ranking
import UsageReport.Proofs.Metric.TaskCharts
import UsageReport.Proofs.Number.Exact

/-! The two charts of free memory, that of the cgroup and that of its processes. Both show the same
failures, and both show the limit less the used and the cached memory. The one subtracts these after
each other and the other one their sum, so that their cells are equal where nothing is rounded. -/

namespace UsageReport.Metric

open UsageReport.Capture (lookupNumber?)
open UsageReport.Number (Unrounded eq_of_bits larger plain_mul plain_of_pos sub_sub_of_unrounded)

/-! ### Limits -/

theorem plain_limit {header : Capture.Header} {limit : Number}
    (bound : header.memoryLimit? = some limit) : limit.form ≠ .zero .negative := by
  have positive : 0 < limit := of_decide_eq_true (Option.mem_filter_iff.1 bound).2
  exact (plain_of_pos positive).ne

theorem plain_quota {header : Capture.Header} {quota : Number}
    (bound : header.cpuQuotaPercent? = some quota) : quota.form ≠ .zero .negative := by
  obtain ⟨cpus, kept, rfl⟩ := Option.map_eq_some_iff.1 bound
  have positive : 0 < cpus := of_decide_eq_true (Option.mem_filter_iff.1 kept).2
  have hundred : (0 : Number) < 100 := by decide +kernel
  exact (plain_mul positive hundred).ne

/-! ### The chart of the cgroup -/

/-- A reading of the cgroup's memory with both counters. -/
structure Charge where
  reading : Reading
  used : Number
  cached : Number

def charge? (names : CounterNames) (reading : Reading) : Option Charge := do
  let used ← lookupNumber? reading.fields names.memoryUsed
  let cached ← lookupNumber? reading.fields names.memoryCached
  return ⟨reading, used, cached⟩

def charges (c : Context) : List Charge :=
  (readings c.capture cgroupMemorySection).filterMap (charge? c.names)

/-- What is free, the counters subtracted one by one. -/
def Charge.free (limit : Number) (charge : Charge) : Number :=
  larger (limit - charge.used - charge.cached) 0

def Charge.failures (names : CounterNames) (charge : Charge) : Number :=
  (lookupNumber? charge.reading.fields names.allocFailures).getD 0

def Charge.time (charge : Charge) : Time.Instant := charge.reading.time

def amountCurves (limit : Number) : List (Curve Charge) :=
  [⟨"Used", bytesUnit, Charge.used⟩, ⟨"Cached", bytesUnit, Charge.cached⟩,
    ⟨freeColumn, bytesUnit, Charge.free limit⟩]

def chargeFailures (c : Context) : Curve Charge := ⟨failuresColumn, "", Charge.failures c.names⟩

def chargeCurves (c : Context) (limit : Number) : List (Curve Charge) :=
  amountCurves limit ++ [chargeFailures c]

theorem cgroupMemoryRow?_eq (c : Context) (limit : Number) (reading : Reading) :
    cgroupMemoryRow? c.names (some limit) reading
      = (charge? c.names reading).map fun charge =>
        ⟨charge.time, (chargeCurves c limit).map (·.cell charge)⟩ := by
  unfold cgroupMemoryRow? charge?
  cases lookupNumber? reading.fields c.names.memoryUsed with
  | none => rfl
  | some used =>
    cases lookupNumber? reading.fields c.names.memoryCached with
    | none => rfl
    | some cached => rfl

theorem cgroupMemoryRows_eq (c : Context) (limit : Number) :
    (readings c.capture cgroupMemorySection).filterMap (cgroupMemoryRow? c.names (some limit))
      = rowsOf Charge.time (charges c) (chargeCurves c limit) := by
  rw [rowsOf, charges, List.map_filterMap]
  exact List.filterMap_congr fun reading _ => cgroupMemoryRow?_eq c limit reading

/-- The chart of a cgroup with a limit shows the curves of its counters. -/
theorem cgroupMemory_of_limit {c : Context} {limit : Number}
    (bound : c.capture.header.memoryLimit? = some limit)
    (collected : c.capture.hasSection cgroupMemorySection = true) :
    ∃ chart, cgroupMemory c = .ok [chart]
      ∧ Traces chart Charge.time (charges c) (chargeCurves c limit) := by
  have differ : freeColumn ≠ failuresColumn := by decide
  have fresh : ∀ curve ∈ amountCurves limit, curve.name ≠ (chargeFailures c).name := by
    show ∀ curve ∈ amountCurves limit, curve.name ≠ failuresColumn
    rw [amountCurves, List.forall_mem_cons, List.forall_mem_cons, List.forall_mem_singleton]
    exact ⟨by decide, by decide, differ⟩
  obtain ⟨chart, made, traces, -⟩ : ∃ chart, cgroupMemory c = .ok [chart]
      ∧ Traces chart Charge.time (charges c) (chargeCurves c limit)
      ∧ chart.secondaryCaps
        = [cap c.margin ((charges c).map (Charge.failures c.names))] := by
    unfold cgroupMemory
    simp only [bound, cgroupMemoryRows_eq, collected]
    exact plot_alone (trace_double fresh (fun t => ⟨rfl, rfl, rfl, rfl⟩) fun t => rfl)
  exact ⟨chart, made, traces⟩

/-! ### One sample -/

/-- What the two charts show of one sample. -/
structure Agrees (c : Context) (limit : Number) (charge : Charge) (tasks : Reading) : Prop where
  time : charge.time = tasks.time
  failures : charge.failures c.names = (failuresCurve c).cell tasks
  free : (freeCurve c limit).cell tasks = larger (limit - (charge.used + charge.cached)) 0
  exact : Unrounded limit charge.used charge.cached →
    charge.free limit = (freeCurve c limit).cell tasks

theorem agrees_of_sample {c : Context} {limit : Number}
    (bound : c.capture.header.memoryLimit? = some limit) {charge : Charge}
    (charged : charge ∈ charges c) {tasks : Reading}
    (seen : tasks ∈ readings c.capture tasksSection) (same : charge.reading.index = tasks.index) :
    Agrees c limit charge tasks := by
  obtain ⟨reading, inside, counted⟩ := List.mem_filterMap.1 charged
  simp only [charge?, Option.bind_eq_bind, Option.bind_eq_some_iff, Option.pure_def,
    Option.some.injEq] at counted
  obtain ⟨used, foundUsed, cached, foundCached, rfl⟩ := counted
  obtain ⟨sample, -, there, read⟩ := reading?_of_mem_readings inside
  obtain ⟨sample', -, there', read'⟩ := reading?_of_mem_readings seen
  obtain rfl : sample = sample' := by
    rw [same, there'] at there
    exact (Option.some.inj there).symm
  obtain ⟨-, stamp, section_⟩ := reading?_eq_some_iff.1 read
  obtain ⟨-, stamp', -⟩ := reading?_eq_some_iff.1 read'
  have memory : (c.capture.samples[tasks.index]?).bind (·.section? cgroupMemorySection)
      = some reading.fields := by
    rw [there', Option.bind_some, section_]
  have free : (freeCurve c limit).cell tasks = larger (limit - (used + cached)) 0 := by
    simp only [freeCurve, memory, Option.bind_some, charged?, foundUsed, foundCached]
    rfl
  constructor
  case time => exact Option.some.inj (stamp.symm.trans stamp')
  case failures => simp only [failuresCurve, memory, Option.bind_some, Charge.failures]
  case free => exact free
  case exact =>
    intro unrounded
    rw [free, Charge.free, sub_sub_of_unrounded unrounded (plain_limit bound)]

/-! ### The charts -/

/-- The charts of memory of a cgroup with a limit show what is free and the failures of the same
samples. -/
theorem free_of_counters {c : Context} {limit : Number}
    (bound : c.capture.header.memoryLimit? = some limit)
    (collected : c.capture.hasSection cgroupMemorySection = true)
    (some : (Ranking.ofCapture c.capture c.topN).ranked ≠ []) :
    ∃ (chart : Chart) (charts : TaskCharts),
      cgroupMemory c = .ok [chart] ∧ topTasks c = .ok charts.list
      ∧ chart.times = (charges c).map Charge.time
      ∧ chart.columns = (chargeCurves c limit).map (Curve.shown (charges c))
      ∧ charts.memory.times = (readings c.capture tasksSection).map Reading.time
      ∧ charts.memory.columns = ((Ranking.ofCapture c.capture c.topN).mainIds.map
          (memoryCurve (Ranking.ofCapture c.capture c.topN))
            ++ [freeCurve c limit, failuresCurve c]).map
        (Curve.shown (readings c.capture tasksSection))
      ∧ ∀ charge ∈ charges c, ∀ tasks ∈ readings c.capture tasksSection,
        charge.reading.index = tasks.index → Agrees c limit charge tasks := by
  obtain ⟨chart, made, traces⟩ := cgroupMemory_of_limit bound collected
  obtain ⟨charts, made', shows⟩ := topTasks_of_some some
  have limits : memoryLimits c = [freeCurve c limit, failuresCurve c] := by
    simp only [memoryLimits, bound]
  refine ⟨chart, charts, made, made', traces.times, traces.columns, shows.memory.times, ?_, ?_⟩
  · rw [shows.memory.columns, limits]
  · exact fun charge charged tasks seen same => agrees_of_sample bound charged seen same

/-- A cgroup with one task, its limit and its counters in bytes. -/
def oneTask (limit : Float) (used cached : Json.Value) : Context where
  topN := 0
  capture := {
    header := { cgroup := some { memoryLimit := limit } }
    samples := [⟨[]⟩,
      ⟨[("timestamp", .object [("UTC", .string "2022-01-18T00:02:48")]),
        ("cgroup_tasks", .object [("pid_1", .object [])]),
        ("cgroup_memory_stats", .object [("stat.rss", used), ("stat.cache", cached)])]⟩] }

theorem ranked_oneTask (limit : Float) (used cached : Json.Value) :
    (Ranking.ofCapture (oneTask limit used cached).capture 0).ranked ≠ [] := by
  rw [ranked_all, ← List.length_pos_iff, (rankedTasks_perm _).length_eq]
  exact Nat.one_pos

theorem unrounded_whole : Unrounded 2000 1000 500 :=
  ⟨0, 2000, 1000, 500, by decide, by decide, by decide +kernel, by decide +kernel,
    by decide +kernel, by decide, by decide⟩

/-- Of 2000 bytes, 1000 are used and 500 cached. -/
theorem free_of_counters_whole : ∃ (chart : Chart) (charts : TaskCharts),
    cgroupMemory (oneTask 2000 (.integer 1000) (.integer 500)) = .ok [chart]
    ∧ topTasks (oneTask 2000 (.integer 1000) (.integer 500)) = .ok charts.list
    ∧ (⟨freeColumn, bytesUnit⟩, [500]) ∈ chart.columns
    ∧ ∀ charge ∈ charges (oneTask 2000 (.integer 1000) (.integer 500)),
      ∀ tasks ∈ readings (oneTask 2000 (.integer 1000) (.integer 500)).capture tasksSection,
      charge.reading.index = tasks.index → charge.free 2000
        = (freeCurve (oneTask 2000 (.integer 1000) (.integer 500)) 2000).cell tasks := by
  let c := oneTask 2000 (.integer 1000) (.integer 500)
  have bound : c.capture.header.memoryLimit? = some 2000 := rfl
  obtain ⟨chart, charts, made, made', -, columns, -, -, agrees⟩ :=
    free_of_counters bound rfl (ranked_oneTask _ _ _)
  have used : (charges c).map Charge.used = [1000] := eq_of_bits (by decide +kernel)
  have cached : (charges c).map Charge.cached = [500] := eq_of_bits (by decide +kernel)
  have free : (charges c).map (Charge.free 2000) = [500] := eq_of_bits (by decide +kernel)
  refine ⟨chart, charts, made, made', ?_, ?_⟩
  · rw [columns, ← free]
    exact .tail _ (.tail _ (.head _))
  · intro charge charged tasks seen same
    have usedOne := List.mem_singleton.1 (used ▸ List.mem_map_of_mem charged)
    have cachedOne := List.mem_singleton.1 (cached ▸ List.mem_map_of_mem charged)
    apply (agrees charge charged tasks seen same).exact
    rw [usedOne, cachedOne]
    exact unrounded_whole

/-- One byte less `0.2` and `0.1`, subtracted one by one and together. -/
theorem free_columns_differ : ∃ (c : Context) (limit : Number) (chart : Chart) (charts : TaskCharts)
    (free free' : Number), c.capture.header.memoryLimit? = some limit
    ∧ cgroupMemory c = .ok [chart] ∧ topTasks c = .ok charts.list
    ∧ chart.times = charts.memory.times ∧ chart.times.length = 1
    ∧ (⟨freeColumn, bytesUnit⟩, [free]) ∈ chart.columns
    ∧ (⟨freeColumn, bytesUnit⟩, [free']) ∈ charts.memory.columns
    ∧ free ≠ free' := by
  let c := oneTask 1 (.real (.ofBits 0x3FC999999999999A)) (.real (.ofBits 0x3FB999999999999A))
  have bound : c.capture.header.memoryLimit? = some 1 := rfl
  obtain ⟨chart, made, traces⟩ := cgroupMemory_of_limit bound rfl
  obtain ⟨charts, made', shows⟩ := topTasks_of_some (c := c) (ranked_oneTask _ _ _)
  have free : (charges c).map (Charge.free 1) = [⟨0x3FE6666666666667⟩] :=
    eq_of_bits (by decide +kernel)
  have free' : (readings c.capture tasksSection).map (freeCurve c 1).cell
      = [⟨0x3FE6666666666666⟩] := eq_of_bits (by decide +kernel)
  refine ⟨c, 1, chart, charts, ⟨0x3FE6666666666667⟩, ⟨0x3FE6666666666666⟩, bound, made, made', ?_,
    ?_, ?_, ?_, ?_⟩
  · rw [traces.times, shows.memory.times]
    decide +kernel
  · rw [traces.times]
    decide +kernel
  · rw [traces.columns, ← free]
    exact .tail _ (.tail _ (.head _))
  · rw [shows.memory.columns, ← free', List.map_append]
    exact List.mem_append_right _ (.head _)
  · intro same
    exact absurd (congrArg Number.bits same) (by decide)

end UsageReport.Metric
