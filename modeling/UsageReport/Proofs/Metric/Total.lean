import Mathlib
import UsageReport.Metric.Topic
import UsageReport.Proofs.Metric.TaskCharts
import UsageReport.Report.Basic

/-! No capture keeps a report from being made: every topic has its charts, whatever the samples hold,
and how many there are follows from the template alone, or from the tasks that were seen. -/

namespace UsageReport.Metric

open UsageReport.Capture (number?)
open UsageReport.Json (Object)
open UsageReport.Table (Row)

/-! ### Rows -/

theorem rowsFit_map {columns : List (String × String)} {readings : List Reading}
    {values : Reading → List Number} (wide : ∀ r, (values r).length = columns.length) :
    RowsFit columns (readings.map fun r => ⟨r.time, values r⟩) := by
  intro row inside
  obtain ⟨r, -, rfl⟩ := List.mem_map.1 inside
  exact wide r

theorem rowsFit_filterMap {columns : List (String × String)} {readings : List Reading}
    {row? : Reading → Option Row}
    (wide : ∀ r row, row? r = some row → row.values.length = columns.length) :
    RowsFit columns (readings.filterMap row?) := by
  intro row inside
  obtain ⟨r, -, found⟩ := List.mem_filterMap.1 inside
  exact wide r row found

theorem length_flatMap_two {α β : Type} {f : α → List β} (two : ∀ a, (f a).length = 2)
    (items : List α) : (items.flatMap f).length = 2 * items.length := by
  induction items with
  | nil => rfl
  | cons a items ih =>
    rw [List.flatMap_cons, List.length_append, two, ih, List.length_cons]
    omega

/-- A chart that is made is the only one of its topic. -/
theorem alone {α : Type} {table : Except Fault α} {plot : α → Except Fault Chart}
    (drawn : ∃ chart, (table >>= plot) = .ok chart) :
    ∃ charts, (table >>= fun t => plot t >>= fun chart => pure [chart]) = .ok charts
      ∧ charts.length = 1 := by
  have shown : ∃ chart, (table >>= plot) = .ok chart ∧ True :=
    drawn.imp fun _ made => ⟨made, trivial⟩
  obtain ⟨chart, alone, -⟩ := plot_alone shown
  exact ⟨[chart], alone, rfl⟩

/-! ### Processors -/

/-- The chart of a CPU is made for every CPU, whether or not the samples know it. -/
theorem Account.cpuChart_total {a : Account} (filled : a.counters ≠ []) (c : Context)
    (cpu : Capture.CpuIndex) : ∃ chart, a.cpuChart c cpu = .ok chart := by
  have columns : a.counters.map (fun counter => (counter.column, percent)) ≠ [] := by
    simpa using filled
  have fit : RowsFit (a.counters.map fun counter => (counter.column, percent))
      ((readings c.capture a.sectionName).map fun r =>
        Row.mk r.time (a.counters.map (value r.fields cpu))) :=
    rowsFit_map fun r => by simp
  exact plot_single_total columns fit fun t => ⟨rfl, rfl, rfl, rfl⟩

theorem systemBusyChart_total (c : Context) {cpus : List Capture.CpuIndex} (filled : cpus ≠ []) :
    ∃ chart, systemBusyChart c cpus = .ok chart := by
  have columns : cpus.map (fun cpu => (Account.cpuLabel cpu, percent)) ≠ [] := by
    simpa using filled
  have fit : RowsFit (cpus.map fun cpu => (Account.cpuLabel cpu, percent))
      ((readings c.capture statSection).map fun r =>
        Row.mk r.time (cpus.map (systemAccount.busyTime r.fields))) :=
    rowsFit_map fun r => by simp
  exact plot_single_total columns fit fun t => ⟨rfl, rfl, rfl, rfl⟩

theorem cgroupBusyChart_total (c : Context) (cpus : List Capture.CpuIndex) :
    ∃ chart, cgroupBusyChart c cpus = .ok chart := by
  have fit : RowsFit ((cpus.map Account.cpuLabel ++ [quotaColumn, throttlingColumn]).map
        (·, percent))
      ((readings c.capture accountingSection).map fun r =>
        Row.mk r.time (cpus.map (cgroupAccount.busyTime r.fields)
          ++ [c.capture.header.cpuQuotaPercent?.getD unlimitedQuota,
            throttlingPercent r.fields])) :=
    rowsFit_map fun r => by simp
  exact plot_double_total fit (fun t => ⟨rfl, rfl, rfl, rfl⟩) (by simp)

/-- An account has one chart for each CPU of the template and one for all, or none. -/
theorem Account.charts_total {a : Account} (filled : a.counters ≠ []) (c : Context)
    {all : List Capture.CpuIndex → Except Fault Chart}
    (busy : ∀ cpus ≠ [], ∃ chart, all cpus = .ok chart) :
    ∃ charts, a.charts c all = .ok charts ∧ charts.length =
      if c.capture.logicalCpus a.sectionName = [] then 0
      else (c.capture.logicalCpus a.sectionName).length + 1 := by
  unfold Account.charts
  by_cases none : c.capture.logicalCpus a.sectionName = []
  · exact ⟨[], by simp only [none, if_true]; rfl, by simp [none]⟩
  · have each : ∀ cpu ∈ c.capture.logicalCpus a.sectionName, ∃ chart, a.cpuChart c cpu = .ok chart :=
      fun cpu _ => a.cpuChart_total filled c cpu
    obtain ⟨charts, made, count⟩ := length_mapM each
    obtain ⟨chart, drawn⟩ := busy _ none
    refine ⟨charts ++ [chart], ?_, ?_⟩
    · simp only [if_neg none, made, drawn, bind, Except.bind, pure, Except.pure]
    · rw [if_neg none, List.length_append, count, List.length_singleton]

/-! ### Memory, devices and load -/

theorem shape_of_systemMemoryRow? {total : Number} {r : Reading} {row : Row}
    (made : systemMemoryRow? total r = some row) :
    row.time = r.time ∧ row.values.length = 3 := by
  simp only [systemMemoryRow?, Option.bind_eq_bind, Option.bind_eq_some_iff] at made
  obtain ⟨now, -, made⟩ := made
  split at made
  · simp only [Option.bind_eq_some_iff, Option.pure_def, Option.some.injEq] at made
    obtain ⟨free, -, cached, -, rfl⟩ := made
    exact ⟨rfl, rfl⟩
  · cases made

theorem shape_of_cgroupMemoryRow? {names : CounterNames} {limit : Option Number} {r : Reading}
    {row : Row} (made : cgroupMemoryRow? names limit r = some row) :
    row.time = r.time ∧ row.values.length = if limit.isSome then 4 else 2 := by
  simp only [cgroupMemoryRow?, Option.bind_eq_bind, Option.bind_eq_some_iff, Option.pure_def,
    Option.some.injEq] at made
  obtain ⟨used, -, cached, -, rfl⟩ := made
  cases limit <;> exact ⟨rfl, rfl⟩

theorem shape_of_loadRow? {cpus : Nat} {r : Reading} {row : Row}
    (made : loadRow? cpus r = some row) : row.time = r.time ∧ row.values.length = 3 := by
  simp only [loadRow?, loadFields, List.mapM_cons, List.mapM_nil, Option.bind_eq_bind,
    Option.bind_eq_some_iff, Option.pure_def, Option.some.injEq] at made
  obtain ⟨values, ⟨one, -, more, ⟨five, -, rest, ⟨fifteen, -, none, rfl, rfl⟩, rfl⟩, rfl⟩, rfl⟩ :=
    made
  exact ⟨rfl, rfl⟩

theorem systemMemory_total (c : Context) :
    ∃ charts, systemMemory c = .ok charts ∧ charts.length =
      if ((c.capture.templateSection? systemMemorySection).bind (number? · "MemTotal")).isSome then 1
      else 0 := by
  have same : ((c.capture.templateSection? systemMemorySection).bind totalMemory?).isSome
      = ((c.capture.templateSection? systemMemorySection).bind (number? · "MemTotal")).isSome := by
    cases c.capture.templateSection? systemMemorySection with
    | none => rfl
    | some memory => exact Option.isSome_map
  rw [← same]
  unfold systemMemory
  cases found : (c.capture.templateSection? systemMemorySection).bind totalMemory? with
  | none => exact ⟨[], rfl, rfl⟩
  | some total =>
    have fit : RowsFit (["Used", "Cached", freeColumn].map (·, bytesUnit))
        ((readings c.capture systemMemorySection).filterMap (systemMemoryRow? total)) :=
      rowsFit_filterMap fun _ _ made => (shape_of_systemMemoryRow? made).2
    exact alone (plot_single_total (by simp) fit fun t => ⟨rfl, rfl, rfl, rfl⟩)

theorem cgroupMemory_total (c : Context) :
    ∃ charts, cgroupMemory c = .ok charts ∧ charts.length =
      if c.capture.hasSection cgroupMemorySection then 1 else 0 := by
  unfold cgroupMemory
  by_cases there : c.capture.hasSection cgroupMemorySection
  · rw [if_pos there, if_neg (not_not_intro there)]
    cases bound : c.capture.header.memoryLimit? with
    | none =>
      have fit : RowsFit [("Used", bytesUnit), ("Cached", bytesUnit)]
          ((readings c.capture cgroupMemorySection).filterMap (cgroupMemoryRow? c.names none)) :=
        rowsFit_filterMap fun _ _ made => (shape_of_cgroupMemoryRow? made).2
      exact alone (plot_single_total (by simp) fit fun t => ⟨rfl, rfl, rfl, rfl⟩)
    | some limit =>
      have fit : RowsFit [("Used", bytesUnit), ("Cached", bytesUnit), (freeColumn, bytesUnit),
          (failuresColumn, "")]
          ((readings c.capture cgroupMemorySection).filterMap
            (cgroupMemoryRow? c.names (some limit))) :=
        rowsFit_filterMap fun _ _ made => (shape_of_cgroupMemoryRow? made).2
      exact alone (plot_double_total fit (fun t => ⟨rfl, rfl, rfl, rfl⟩) (by simp))
  · rw [if_neg there, if_pos there]
    exact ⟨[], rfl, rfl⟩

theorem Traffic.length_flow (t : Traffic) (interfaces : Object) (device : String) :
    (t.flow interfaces device).length = 2 := by
  unfold Traffic.flow
  split
  · rfl
  · split <;> rfl

theorem trafficChart_total (c : Context) (name : String) (source : Chart.Source) (origin : String)
    {devices : List String} (filled : devices ≠ []) (t : Traffic) :
    ∃ chart, trafficChart c name source origin devices t = .ok chart := by
  have columns : (devices.flatMap fun device => [device ++ "+in", device ++ "-out"]).map
      (·, t.unit) ≠ [] := by
    cases devices with
    | nil => exact absurd rfl filled
    | cons device devices => simp
  have fit : RowsFit ((devices.flatMap fun device => [device ++ "+in", device ++ "-out"]).map
        (·, t.unit))
      ((readings c.capture name).map fun r =>
        Row.mk r.time (devices.flatMap (t.flow r.fields))) := by
    refine rowsFit_map fun r => ?_
    rw [List.length_map, length_flatMap_two (t.length_flow r.fields),
      length_flatMap_two fun device => rfl]
  exact plot_single_total columns fit fun t => ⟨rfl, rfl, rfl, rfl⟩

theorem network_total (c : Context) (name : String) (source : Chart.Source) (origin : String) :
    ∃ charts, network c name source origin = .ok charts ∧ charts.length =
      if c.capture.sectionKeys name = [] then 0 else 2 := by
  unfold network
  by_cases none : c.capture.sectionKeys name = []
  · exact ⟨[], by simp only [none, if_true]; rfl, by simp [none]⟩
  · have each : ∀ t ∈ [Traffic.bytes, Traffic.packets], ∃ chart,
        trafficChart c name source origin (c.capture.sectionKeys name) t = .ok chart :=
      fun t _ => trafficChart_total c name source origin none t
    simp only [if_neg none]
    exact length_mapM each

theorem disks_total (c : Context) :
    ∃ charts, disks c = .ok charts ∧ charts.length =
      if c.capture.sectionKeys disksSection = [] then 0 else 1 := by
  unfold disks
  by_cases none : c.capture.sectionKeys disksSection = []
  · exact ⟨[], by simp only [none, if_true]; rfl, by simp [none]⟩
  · have columns : ((c.capture.sectionKeys disksSection).flatMap fun device =>
        [device ++ " Read MB", device ++ " Write MB"]).map (·, megabytes) ≠ [] := by
      cases devices : c.capture.sectionKeys disksSection with
      | nil => exact absurd devices none
      | cons device devices => simp
    have fit : RowsFit (((c.capture.sectionKeys disksSection).flatMap fun device =>
          [device ++ " Read MB", device ++ " Write MB"]).map (·, megabytes))
        ((readings c.capture disksSection).map fun r =>
          Row.mk r.time ((c.capture.sectionKeys disksSection).flatMap (diskFlow r.fields))) := by
      refine rowsFit_map fun r => ?_
      rw [List.length_map, length_flatMap_two fun device => rfl,
        length_flatMap_two fun device => rfl]
    simp only [if_neg none]
    exact alone (plot_single_total columns fit fun t => ⟨rfl, rfl, rfl, rfl⟩)

theorem load_total (c : Context) :
    ∃ charts, load c = .ok charts ∧ charts.length =
      if c.capture.hasSection loadSection then 1 else 0 := by
  unfold load
  by_cases there : c.capture.hasSection loadSection
  · have fit : RowsFit (loadFields.map fun field => (field.2, percent))
        ((readings c.capture loadSection).filterMap (loadRow? (systemCpuCount c))) :=
      rowsFit_filterMap fun _ _ made => (shape_of_loadRow? made).2
    rw [if_pos there, if_neg (not_not_intro there)]
    exact alone (plot_single_total (by simp [loadFields]) fit fun t => ⟨rfl, rfl, rfl, rfl⟩)
  · rw [if_neg there, if_pos there]
    exact ⟨[], rfl, rfl⟩

/-! ### Tasks -/

theorem Keyed.put_ne_nil {κ α : Type} [DecidableEq κ] (entries : Keyed κ α) (key : κ) (a : α) :
    entries.put key a ≠ [] := by
  cases entries with
  | nil => exact List.cons_ne_nil _ _
  | cons entry rest =>
    rw [Keyed.put, Keyed.update]
    split <;> exact List.cons_ne_nil _ _

theorem Keyed.latest_eq_nil_iff {κ α : Type} [DecidableEq κ] {pairs : List (κ × α)} :
    Keyed.latest pairs = [] ↔ pairs = [] := by
  constructor
  · intro none
    rcases List.eq_nil_or_concat pairs with rfl | ⟨before, last, rfl⟩
    · rfl
    · rw [latest, List.concat_eq_append, List.foldl_append] at none
      exact absurd none (put_ne_nil _ _ _)
  · rintro rfl
    rfl

/-- The ranking is empty only where no task was seen. -/
theorem ranked_eq_nil_iff (c : Capture) (topN : Nat) :
    (Ranking.ofCapture c topN).ranked = [] ↔ Ranking.sightings c = [] := by
  have sorted : rankedTasks c = [] ↔ Ranking.sightings c = [] := by
    rw [rankedTasks, ← List.length_eq_zero_iff, List.length_mergeSort, List.length_eq_zero_iff,
      List.map_eq_nil_iff, Keyed.latest_eq_nil_iff]
  rw [ranked_ofCapture, Ranking.cut]
  by_cases all : topN = 0
  · rw [if_pos all, sorted]
  · rw [if_neg all, List.take_eq_nil_iff, sorted]
    exact or_iff_right all

/-- An entry of a section of tasks is an object and tells the number of its task. -/
def isTask (entry : String × Json.Value) : Bool := (entry.2.object?.bind (Task.id? entry.1)).isSome

/-- A sample with readings tells about a task. -/
def seesTask (c : Capture) : Bool :=
  c.dataSamples.any fun s => ((s.section? tasksSection).getD []).any isTask

theorem sightings_eq_nil_iff (c : Capture) : Ranking.sightings c = [] ↔ seesTask c = false := by
  have entries (tasks : Object) : Task.entries tasks = [] ↔ tasks.any isTask = false := by
    rw [Task.entries, List.filterMap_eq_nil_iff, List.any_eq_false]
    refine forall₂_congr fun entry _ => ?_
    obtain ⟨key, v⟩ := entry
    simp only [isTask]
    cases v.object? with
    | none => simp
    | some fields => cases id : Task.id? key fields <;> simp [id]
  rw [Ranking.sightings, seesTask, List.flatMap_eq_nil_iff, List.any_eq_false]
  refine forall₂_congr fun s _ => ?_
  rw [List.map_eq_nil_iff, Bool.not_eq_true, ← entries]
  cases s.section? tasksSection <;> rfl

theorem topTasks_total (c : Context) :
    ∃ charts, topTasks c = .ok charts ∧ charts.length = if seesTask c.capture then 4 else 0 := by
  by_cases none : (Ranking.ofCapture c.capture c.topN).ranked = []
  · have unseen := (sightings_eq_nil_iff _).1 ((ranked_eq_nil_iff _ _).1 none)
    exact ⟨[], topTasks_of_none none, by rw [unseen]; rfl⟩
  · obtain ⟨charts, made, -⟩ := topTasks_of_some none
    have seen : seesTask c.capture = true := by
      rw [← Bool.not_eq_false, ← sightings_eq_nil_iff, ← ranked_eq_nil_iff _ c.topN]
      exact none
    exact ⟨charts.list, made, by rw [seen]; rfl⟩

/-! ### All topics -/

/-- The number of charts of a topic. -/
def Topic.chartCount (c : Context) : Topic → Nat
  | cgroupProcessor =>
    if c.capture.logicalCpus accountingSection = [] then 0
    else (c.capture.logicalCpus accountingSection).length + 1
  | cgroupMemory => if c.capture.hasSection cgroupMemorySection then 1 else 0
  | cgroupNetwork => if c.capture.sectionKeys cgroupNetworkSection = [] then 0 else 2
  | topTasks => if seesTask c.capture then 4 else 0
  | systemProcessor =>
    if c.capture.logicalCpus statSection = [] then 0
    else (c.capture.logicalCpus statSection).length + 1
  | systemMemory =>
    if ((c.capture.templateSection? systemMemorySection).bind (number? · "MemTotal")).isSome
    then 1 else 0
  | systemNetwork => if c.capture.sectionKeys systemNetworkSection = [] then 0 else 2
  | disks => if c.capture.sectionKeys disksSection = [] then 0 else 1
  | load => if c.capture.hasSection loadSection then 1 else 0

theorem Topic.charts_counted (c : Context) (topic : Topic) :
    ∃ charts, topic.charts c = .ok charts ∧ charts.length = topic.chartCount c := by
  cases topic with
  | cgroupProcessor =>
    exact cgroupAccount.charts_total (by decide) c fun cpus _ => cgroupBusyChart_total c cpus
  | cgroupMemory => exact cgroupMemory_total c
  | cgroupNetwork => exact network_total c cgroupNetworkSection _ _
  | topTasks => exact topTasks_total c
  | systemProcessor =>
    exact systemAccount.charts_total (by decide) c fun cpus => systemBusyChart_total c
  | systemMemory => exact systemMemory_total c
  | systemNetwork => exact network_total c systemNetworkSection _ _
  | disks => exact disks_total c
  | load => exact load_total c

/-- The charts of a report are those of its topics. -/
theorem exists_charts (c : Context) : ∃ charts : Topic → List Chart,
    (∀ topic : Topic, topic.charts c = .ok (charts topic))
    ∧ Metric.charts c = .ok (Topic.all.flatMap charts) := by
  choose charts made count using Topic.charts_counted c
  refine ⟨charts, made, ?_⟩
  rw [Metric.charts, mapM_eq_ok fun topic _ => made topic]
  rfl

/-! ### Reports -/

/-- Every chart of a list is added to a report where its table, if it has one over time, can be
spelled. -/
theorem pushAll_eq_ok {spell : Report.Spelling} {charts : List Chart}
    (spelled : ∀ chart ∈ charts, ∀ t, chart.timeSeries? = some t → ∃ text, spell t = .ok text)
    (b : Report.Builder) :
    ∃ b', b.pushAll spell charts = .ok b'
      ∧ b'.charts.map Report.Entered.chart = b.charts.map Report.Entered.chart ++ charts := by
  induction charts generalizing b with
  | nil => exact ⟨b, rfl, (List.append_nil _).symm⟩
  | cons chart charts ih =>
    obtain ⟨first, rest⟩ := List.forall_mem_cons.1 spelled
    obtain ⟨b₁, pushed, entered⟩ : ∃ b₁, (Prod.snd <$> b.push spell chart) = .ok b₁
        ∧ b₁.charts.map Report.Entered.chart = b.charts.map Report.Entered.chart ++ [chart] := by
      unfold Report.Builder.push
      cases data : chart.data with
      | timeSeries t =>
        have table : chart.timeSeries? = some t := by rw [Chart.timeSeries?, data]
        obtain ⟨text, written⟩ := first t table
        simp only [written]
        exact ⟨_, rfl, List.map_append⟩
      | categorical t => exact ⟨_, rfl, List.map_append⟩
    obtain ⟨b₂, others, all⟩ := ih rest b₁
    refine ⟨b₂, ?_, ?_⟩
    · rw [Report.Builder.pushAll, List.foldlM_cons, pushed]
      exact others
    · rw [all, entered, List.append_assoc, List.singleton_append]

/-- Every topic has its charts and a report has them all, whatever the capture holds and however
many tasks are asked for. The report itself is made wherever the tables can be spelled. -/
theorem generate_total (c : Context) :
    (∀ topic : Topic, ∃ charts, topic.charts c = .ok charts
      ∧ charts.length = topic.chartCount c)
    ∧ ∃ all, Metric.charts c = .ok all
      ∧ all.length = (Topic.all.map (Topic.chartCount c)).sum
      ∧ ∀ spell : Report.Spelling,
        (∀ chart ∈ all, ∀ t, chart.timeSeries? = some t → ∃ text, spell t = .ok text) →
          ∃ report, Report.generate spell c = .ok report
            ∧ report.charts.map Report.Entered.chart = all := by
  obtain ⟨charts, counted⟩ : ∃ charts : Topic → List Chart, ∀ topic,
      topic.charts c = .ok (charts topic) ∧ (charts topic).length = topic.chartCount c := by
    refine ⟨fun topic => (topic.charts c).toOption.getD [], fun topic => ?_⟩
    obtain ⟨charts, made, count⟩ := topic.charts_counted c
    simp only [made]
    exact ⟨rfl, count⟩
  have all : Metric.charts c = .ok (Topic.all.map charts).flatten := by
    rw [Metric.charts, mapM_eq_ok fun topic _ => (counted topic).1]
    rfl
  refine ⟨Topic.charts_counted c, _, all, ?_, ?_⟩
  · rw [List.length_flatten, List.map_map]
    exact congrArg List.sum (List.map_congr_left fun topic _ => (counted topic).2)
  · intro spell spelled
    obtain ⟨b, pushed, entered⟩ := pushAll_eq_ok spelled {}
    refine ⟨b.finish c.capture, ?_, entered⟩
    rw [Report.generate, all]
    simp only [Except.mapError, ok_bind, pushed]
    rfl

end UsageReport.Metric
