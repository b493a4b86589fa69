import Mathlib
import UsageReport.Proofs.Metric.Enumeration

/-! A limit on the number of tasks only leaves tasks out. The charts of the first tasks show them as
the charts of all tasks do, and beside them the same limits with the same caps, save that what is
left of a limit may be rounded in another way. -/

namespace UsageReport.Metric

/-- The charts `cut` show the first `n` tasks of `all`, or their processes, at the same instants,
and behind them the same limits. Only what is left of these may differ, in samples whose sums are not
the same with the given orders. -/
structure FirstTasks (c : Context) (orders : Orders) (n : Nat) (all cut : TaskCharts) : Prop where
  items : cut.bubble.items = all.bubble.items.take n
  usage : ∃ tasks limits limits', tasks.length = all.bubble.items.length
    ∧ limits.map (·.1.name)
      = (if c.capture.header.cpuQuotaPercent?.isSome then [idleColumn, throttlingColumn] else [])
    ∧ all.usage.columns = tasks ++ limits ∧ cut.usage.columns = tasks.take n ++ limits'
    ∧ List.Forall₂ (SameCells idleColumn (readings c.capture tasksSection) (SameUsage c orders))
      limits limits'
  usageTimes : cut.usage.times = all.usage.times
  memory : ∃ processes first limits limits', first <+: processes
    ∧ limits.map (·.1.name)
      = (if c.capture.header.memoryLimit?.isSome then [freeColumn, failuresColumn] else [])
    ∧ all.memory.columns = processes ++ limits ∧ cut.memory.columns = first ++ limits'
    ∧ List.Forall₂ (SameCells freeColumn (readings c.capture tasksSection) (SameCharge c orders))
      limits limits'
  memoryTimes : cut.memory.times = all.memory.times
  flow : all.flow.columns.length = all.bubble.items.length
    ∧ cut.flow.columns = all.flow.columns.take n
  flowTimes : cut.flow.times = all.flow.times
  caps : cut.list.map Chart.secondaryCaps = all.list.map Chart.secondaryCaps

/-- The processes of the first tasks are the first processes. -/
theorem mainIds_prefix (tasks : List Task) (n : Nat) :
    ((tasks.take n).map Task.mainId).eraseDups <+: (tasks.map Task.mainId).eraseDups := by
  have whole : tasks.map Task.mainId
      = (tasks.take n).map Task.mainId ++ (tasks.drop n).map Task.mainId := by
    rw [← List.map_append, List.take_append_drop]
  rw [whole, List.eraseDups_append]
  exact List.prefix_append _ _

theorem mainIds_ofCapture (c : Capture) {n : Nat} (positive : 0 < n) :
    (Ranking.ofCapture c n).mainIds <+: (Ranking.ofCapture c 0).mainIds := by
  rw [Ranking.mainIds, Ranking.mainIds, ranked_first c positive, ranked_all]
  exact mainIds_prefix (rankedTasks c) n

/-- Charts of the whole ranking and of the first `n` tasks differ in the other tasks only. -/
theorem TaskCharts.Show.firstTasks {c : Context} {orders : Orders} {n : Nat} (positive : 0 < n)
    {all cut : TaskCharts} (whole : all.Show { c with topN := 0 } (Ranking.ofCapture c.capture 0))
    (short : cut.Show { c with topN := n, orders } (Ranking.ofCapture c.capture n)) :
    FirstTasks c orders n all cut := by
  have tasks := ranked_all c.capture
  have first := ranked_first c.capture positive
  have count : all.bubble.items.length = (rankedTasks c.capture).length := by
    rw [whole.items, tasks, List.length_map]
  constructor
  case items => rw [short.items, whole.items, first, tasks, List.map_take]
  case usage =>
    refine ⟨((rankedTasks c.capture).map usageCurve).map
        (Curve.shown (readings c.capture tasksSection)), _, _, ?_, ?_, ?_, ?_,
      sameCells_usageLimits { c with topN := 0 } { c with topN := n, orders } rfl⟩
    · rw [List.length_map, List.length_map, count]
    · rw [List.map_map]
      exact names_usageLimits { c with topN := 0 }
    · rw [whole.usage.columns, tasks, List.map_append]
    · rw [short.usage.columns, first, List.map_append, List.map_take, List.map_take]
  case usageTimes => rw [short.usage.times, whole.usage.times]
  case memory =>
    have alike : memoryCurve (Ranking.ofCapture c.capture n)
        = memoryCurve (Ranking.ofCapture c.capture 0) := rfl
    refine ⟨_, _, _, _, ((mainIds_ofCapture c.capture positive).map
        (memoryCurve (Ranking.ofCapture c.capture 0))).map
        (Curve.shown (readings c.capture tasksSection)), ?_, ?_, ?_,
      sameCells_memoryLimits { c with topN := 0 } { c with topN := n, orders } rfl⟩
    · rw [List.map_map]
      exact names_memoryLimits { c with topN := 0 }
    · rw [whole.memory.columns, List.map_append]
    · rw [short.memory.columns, List.map_append, alike]
  case memoryTimes => rw [short.memory.times, whole.memory.times]
  case flow =>
    rw [whole.flow.columns, short.flow.columns, tasks, first]
    refine ⟨?_, ?_⟩
    · rw [List.length_map, List.length_map, count]
    · rw [List.map_take, List.map_take]
  case flowTimes => rw [short.flow.times, whole.flow.times]
  case caps =>
    rw [short.caps, whole.caps,
      limitCaps_usageLimits { c with topN := 0 } { c with topN := n, orders } rfl rfl,
      limitCaps_memoryLimits { c with topN := 0 } { c with topN := n, orders } rfl rfl]

/-- With a limit `n` on the number of tasks there are the same charts as without, of the first `n`
tasks. Each run has its own orders. -/
theorem topTasks_first (c : Context) (orders : Orders) {n : Nat} (positive : 0 < n) :
    (topTasks { c with topN := 0 } = .ok [] ∧ topTasks { c with topN := n, orders } = .ok [])
    ∨ ∃ all cut : TaskCharts, topTasks { c with topN := 0 } = .ok all.list
      ∧ topTasks { c with topN := n, orders } = .ok cut.list ∧ FirstTasks c orders n all cut := by
  have whole := ranked_all c.capture
  have short := ranked_first c.capture positive
  by_cases none : rankedTasks c.capture = []
  · left
    refine ⟨topTasks_of_none (whole.trans none), topTasks_of_none ?_⟩
    show (Ranking.ofCapture c.capture n).ranked = []
    rw [short, none, List.take_nil]
  · right
    have some : (Ranking.ofCapture c.capture 0).ranked ≠ [] := whole ▸ none
    have some' : (Ranking.ofCapture c.capture n).ranked ≠ [] := by
      rw [short, ne_eq, List.take_eq_nil_iff, not_or]
      exact ⟨by omega, none⟩
    obtain ⟨all, allMade, allShown⟩ :
        ∃ all : TaskCharts, topTasks { c with topN := 0 } = .ok all.list
          ∧ all.Show { c with topN := 0 } (Ranking.ofCapture c.capture 0) := topTasks_of_some some
    obtain ⟨cut, cutMade, cutShown⟩ :
        ∃ cut : TaskCharts, topTasks { c with topN := n, orders } = .ok cut.list
          ∧ cut.Show { c with topN := n, orders } (Ranking.ofCapture c.capture n) :=
      topTasks_of_some some'
    exact ⟨all, cut, allMade, cutMade, allShown.firstTasks positive cutShown⟩

/-- The values under the latest key first. -/
def Enumeration.reverse : Enumeration := ⟨List.reverse, List.reverse_perm⟩

abbrev Orders.reverse : Orders := ⟨fun _ => .reverse, fun _ => .reverse⟩

/-- A capture of a process and a thread of it, with limits of CPU time and memory. -/
def processAndThread : Capture where
  header := { cgroup := some { memoryLimit := 1000, cpuQuota := 2 } }
  samples := [⟨[]⟩,
    ⟨[("timestamp", .object [("UTC", .string "2022-01-18T00:02:48")]),
      ("cgroup_tasks", .object [
        ("pid_7", .object [("cmd", .string "Throttling"), ("cpu_tot", .integer 30)]),
        ("pid_8", .object [("tgid", .integer 7), ("cpu_usr_total_secs", .integer 5)])])]⟩]

theorem topTasks_first_thread : 0 < 1 ∧ ∃ all cut : TaskCharts,
    topTasks ⟨processAndThread, {}, 0⟩ = .ok all.list
    ∧ topTasks { capture := processAndThread, topN := 1, orders := .reverse } = .ok cut.list
    ∧ FirstTasks ⟨processAndThread, {}, 0⟩ .reverse 1 all cut := by
  refine ⟨by decide, (topTasks_first ⟨processAndThread, {}, 0⟩ .reverse
    (by decide)).resolve_left fun none => ?_⟩
  have seen : (Ranking.ofCapture processAndThread 0).ranked ≠ [] := by
    rw [ranked_all, rankedTasks, ← List.length_pos_iff, List.length_mergeSort]
    decide +kernel
  obtain ⟨charts, made, -⟩ : ∃ charts : TaskCharts, topTasks ⟨processAndThread, {}, 0⟩
      = .ok charts.list ∧ _ := topTasks_of_some seen
  rw [none.1] at made
  cases made

/-- What is left of a quota may not be the same with fewer tasks, as each run adds up the CPU times
in its own order. -/
theorem idle_of_first_task : ∃ (c : Context) (orders : Orders) (all cut : TaskCharts)
    (idle idle' : Number),
    topTasks { c with topN := 0 } = .ok all.list
    ∧ topTasks { c with topN := 1, orders } = .ok cut.list
    ∧ (⟨idleColumn, percent⟩, [idle]) ∈ all.usage.columns
    ∧ (⟨idleColumn, percent⟩, [idle']) ∈ cut.usage.columns
    ∧ idle ≠ idle' := by
  let c := limited 200000000000000 1 heavy
  let quota : Number := .ofFloat 200000000000000 * 100
  have seen : seesTask c.capture = true := by decide +kernel
  have bound : c.capture.header.cpuQuotaPercent? = some quota := rfl
  obtain ⟨all, allMade, allShown⟩ : ∃ all : TaskCharts, topTasks { c with topN := 0 } = .ok all.list
      ∧ all.Show { c with topN := 0 } (Ranking.ofCapture c.capture 0) :=
    topTasks_of_some (ranked_ne_nil seen 0)
  obtain ⟨cut, cutMade, cutShown⟩ : ∃ cut : TaskCharts,
      topTasks { c with topN := 1, orders := .reverse } = .ok cut.list
      ∧ cut.Show { c with topN := 1, orders := .reverse } (Ranking.ofCapture c.capture 1) :=
    topTasks_of_some (ranked_ne_nil seen 1)
  have idle : (readings c.capture tasksSection).map (idleCurve { c with topN := 0 } quota).cell
      = [10000000000000000] := Number.eq_of_bits (by decide +kernel)
  have idle' : (readings c.capture tasksSection).map
      (idleCurve { c with topN := 1, orders := .reverse } quota).cell
      = [9999999999999998] := Number.eq_of_bits (by decide +kernel)
  refine ⟨c, .reverse, all, cut, 10000000000000000, 9999999999999998, allMade, cutMade, ?_, ?_, ?_⟩
  · rw [← idle]
    exact allShown.idle_mem bound
  · rw [← idle']
    exact cutShown.idle_mem bound
  · intro equal
    exact absurd (congrArg Number.bits equal) (by decide +kernel)

end UsageReport.Metric
