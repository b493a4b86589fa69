import Mathlib
import UsageReport.Proofs.Capture.Window
import UsageReport.Proofs.Metric.Flow
import UsageReport.Proofs.Metric.Total

/-! When charts over time have a row. A sample has one row in every chart over time of a topic if it
has a timestamp, the section of the topic and the counters that the topic cannot do without, and no
row otherwise. The charts of a topic thus share their instants. -/

namespace UsageReport

open UsageReport.Capture (Sample lookupNumber? number?)
open UsageReport.Json (Object)
open UsageReport.Table (Row TimeSeries)
open UsageReport.Time (Instant)

/-- The chart has one row at each of the instants. -/
def Chart.TimedAt (moments : List Instant) (chart : Chart) : Prop :=
  ∃ t, chart.timeSeries? = some t ∧ t.rows.map Row.time = moments

theorem Chart.TimedAt.times {moments : List Instant} {chart : Chart} (timed : chart.TimedAt moments)
    {t : TimeSeries} (data : chart.timeSeries? = some t) : t.rows.map Row.time = moments := by
  obtain ⟨u, data', times⟩ := timed
  rw [data'] at data
  obtain rfl := Option.some.inj data
  exact times

theorem Chart.untimed_of_all {moments : List Instant} {charts : List Chart}
    (timed : ∀ chart ∈ charts, chart.TimedAt moments) :
    charts.filter (·.timeSeries?.isNone) = [] := by
  rw [List.filter_eq_nil_iff]
  intro chart inside
  obtain ⟨t, data, -⟩ := timed chart inside
  simp [data]

namespace Metric

/-! ### Samples with a row -/

namespace Topic

def sectionName : Topic → String
  | cgroupProcessor => accountingSection
  | cgroupMemory => cgroupMemorySection
  | cgroupNetwork => cgroupNetworkSection
  | topTasks => tasksSection
  | systemProcessor => statSection
  | systemMemory => systemMemorySection
  | systemNetwork => systemNetworkSection
  | disks => disksSection
  | load => loadSection

end Topic

/-- The section has the counters of used and cached memory. -/
def hasAmounts (names : CounterNames) (counters : Object) : Bool :=
  (lookupNumber? counters names.memoryUsed).isSome
    && (lookupNumber? counters names.memoryCached).isSome

/-- The total of the system's memory is that of the template, both in bytes. -/
def sameTotal (c : Capture) (memory : Object) : Bool :=
  match number? memory "MemTotal",
      (c.templateSection? systemMemorySection).bind (number? · "MemTotal") with
  | some now, some first => now * 1024 == first * 1024
  | _, _ => false

def hasAverages (averages : Object) : Bool :=
  loadFields.all fun field => (number? averages field.1).isSome

/-- The section has what the topic cannot do without. -/
def Topic.complete (c : Context) : Topic → Object → Bool
  | cgroupMemory => hasAmounts c.names
  | systemMemory => fun memory => sameTotal c.capture memory
      && (number? memory "MemFree").isSome && (number? memory "Cached").isSome
  | load => hasAverages
  | cgroupProcessor | cgroupNetwork | topTasks | systemProcessor | systemNetwork | disks =>
    fun _ => true

/-- The instants of the samples that have the section with what is needed of it. -/
def momentsOf (c : Capture) (name : String) (whole : Object → Bool) : List Instant :=
  (c.dataSamples.filter fun s => (s.section? name).any whole).filterMap Sample.instant?

/-- The instants of the samples that have a row in the charts of a topic. -/
def Topic.moments (c : Context) (topic : Topic) : List Instant :=
  momentsOf c.capture topic.sectionName (topic.complete c)

variable {name : String}

theorem times_of_rows (c : Capture) {row? : Reading → Option Row} {whole : Object → Bool}
    (timed : ∀ r row, row? r = some row → row.time = r.time)
    (kept : ∀ r, (row? r).isSome = whole r.fields) :
    ((readings c name).filterMap row?).map Row.time = momentsOf c name whole := by
  have each (r : Reading) :
      (row? r).map Row.time = if whole r.fields then some r.time else none := by
    rw [← kept]
    cases made : row? r with
    | none => rfl
    | some row => exact congrArg some (timed r row made)
  have rows : ((readings c name).filterMap row?).map Row.time
      = (c.seen name).filterMap fun (time, fields) => if whole fields then some time else none := by
    rw [List.map_filterMap, ← Capture.map_readings, List.filterMap_map]
    exact List.filterMap_congr fun r _ => each r
  rw [rows, Capture.seen, momentsOf, List.filterMap_filterMap, List.filterMap_filter]
  refine List.filterMap_congr fun s _ => ?_
  cases s.instant? with
  | none => simp
  | some time =>
    cases s.section? name with
    | none => simp
    | some fields => simp

theorem times_of_readings (c : Capture) :
    (readings c name).map Reading.time = momentsOf c name fun _ => true := by
  have timed (r : Reading) (row : Row) (made : some (Row.mk r.time []) = some row) :
      row.time = r.time := by
    obtain rfl := Option.some.inj made
    rfl
  rw [← times_of_rows c timed fun _ => rfl, List.filterMap_eq_map', List.map_map]
  rfl

theorem times_of_map (c : Capture) (values : Reading → List Number) :
    ((readings c name).map fun r => Row.mk r.time (values r)).map Row.time
      = momentsOf c name fun _ => true := by
  rw [List.map_map, ← times_of_readings]
  rfl

/-! ### The charts of a topic

What holds of every chart that one of its functions makes holds of all charts of a topic. -/

section
variable {c : Context} {charts : List Chart} {P : Chart → Prop}

theorem forall_alone {α : Type} {table : Except Fault α} {plot : α → Except Fault Chart}
    (made : (table >>= fun t => plot t >>= fun chart => pure [chart]) = .ok charts)
    (only : ∀ chart, (table >>= plot) = .ok chart → P chart) : ∀ chart ∈ charts, P chart := by
  obtain ⟨chart, drawn, rfl⟩ := alone_of_ok made
  exact List.forall_mem_singleton.2 (only chart drawn)

theorem Account.forall_charts {a : Account} {all : List Capture.CpuIndex → Except Fault Chart}
    (made : a.charts c all = .ok charts)
    (each : ∀ cpu chart, a.cpuChart c cpu = .ok chart → P chart)
    (busy : ∀ cpus chart, all cpus = .ok chart → P chart) : ∀ chart ∈ charts, P chart := by
  unfold Account.charts at made
  by_cases none : c.capture.logicalCpus a.sectionName = []
  · simp only [none, if_true] at made
    cases made
    exact List.forall_mem_nil _
  · simp only [if_neg none] at made
    obtain ⟨cpus, drawn, made⟩ := bind_eq_ok_iff.1 made
    obtain ⟨last, drawnLast, made⟩ := bind_eq_ok_iff.1 made
    cases made
    intro chart inside
    rcases List.mem_append.1 inside with inside | inside
    · obtain ⟨cpu, -, made⟩ := exists_of_mem_mapM drawn inside
      exact each cpu chart made
    · rw [List.mem_singleton.1 inside]
      exact busy _ last drawnLast

theorem forall_network {name origin : String} {source : Chart.Source}
    (made : network c name source origin = .ok charts)
    (each : ∀ devices t chart, trafficChart c name source origin devices t = .ok chart → P chart) :
    ∀ chart ∈ charts, P chart := by
  unfold network at made
  by_cases none : c.capture.sectionKeys name = []
  · simp only [none, if_true] at made
    cases made
    exact List.forall_mem_nil _
  · simp only [if_neg none] at made
    intro chart inside
    obtain ⟨t, -, drawn⟩ := exists_of_mem_mapM made inside
    exact each _ t chart drawn

/-- Where a task is ranked the charts are those of totals, CPU time, memory, and input and
output. -/
theorem parts_of_topTasks (made : topTasks c = .ok charts) : charts = [] ∨
    ∃ r bubble usage memory flow, charts = [bubble, usage, memory, flow]
      ∧ bubbleChart c r = .ok bubble ∧ usageChart c r = .ok usage ∧ memoryChart c r = .ok memory
      ∧ flowChart c r = .ok flow := by
  unfold topTasks at made
  by_cases none : (Ranking.ofCapture c.capture c.topN).ranked.isEmpty = true
  · simp only [if_pos none] at made
    cases made
    exact .inl rfl
  · simp only [if_neg none] at made
    obtain ⟨bubble, first, made⟩ := bind_eq_ok_iff.1 made
    obtain ⟨usage, second, made⟩ := bind_eq_ok_iff.1 made
    obtain ⟨memory, third, made⟩ := bind_eq_ok_iff.1 made
    obtain ⟨flow, fourth, made⟩ := bind_eq_ok_iff.1 made
    cases made
    exact .inr ⟨_, bubble, usage, memory, flow, rfl, first, second, third, fourth⟩

end

/-! ### Charts -/

section
variable {columns : List (String × String)} {rows : List Row} {request : TimeSeries → Chart.Request}
  {charts : List Chart} {chart : Chart} {moments : List Instant}

theorem Shows.timed (shows : Shows chart columns rows) (times : rows.map Row.time = moments) :
    chart.TimedAt moments := by
  obtain ⟨t, data, -, -, same⟩ := shows
  exact ⟨t, by rw [Chart.timeSeries?, data], by rw [same, times]⟩

theorem timed_of_plot (data : ∀ t, (request t).data = .timeSeries t)
    (times : rows.map Row.time = moments)
    (made : (tabulate columns rows >>= fun t => granted (request t)) = .ok chart) :
    chart.TimedAt moments :=
  (shows_of_plot data made).timed times

theorem Traces.timed {μ : Type} {time : μ → Instant} {items : List μ} {curves : List (Curve μ)}
    (traces : Traces chart time items curves) (times : items.map time = moments) :
    chart.TimedAt moments := by
  refine Shows.timed traces ?_
  rw [rowsOf, List.map_map, ← times]
  rfl

end

section
variable {c : Context} {charts : List Chart}

theorem Account.charts_timed {a : Account} {all : List Capture.CpuIndex → Except Fault Chart}
    (busy : ∀ cpus chart, all cpus = .ok chart →
      chart.TimedAt (momentsOf c.capture a.sectionName fun _ => true))
    (made : a.charts c all = .ok charts) :
    ∀ chart ∈ charts, chart.TimedAt (momentsOf c.capture a.sectionName fun _ => true) :=
  Account.forall_charts made
    (fun _ _ made => timed_of_plot (fun _ => rfl) (times_of_map _ _) made) busy

theorem systemProcessor_timed (made : systemProcessor c = .ok charts) :
    ∀ chart ∈ charts, chart.TimedAt (Topic.systemProcessor.moments c) :=
  systemAccount.charts_timed
    (fun _ _ made => timed_of_plot (fun _ => rfl) (times_of_map _ _) made) made

theorem cgroupProcessor_timed (made : cgroupProcessor c = .ok charts) :
    ∀ chart ∈ charts, chart.TimedAt (Topic.cgroupProcessor.moments c) :=
  cgroupAccount.charts_timed
    (fun _ _ made => timed_of_plot (fun _ => rfl) (times_of_map _ _) made) made

theorem systemMemoryRow?_isSome {total : Number} (c : Context)
    (found : (c.capture.templateSection? systemMemorySection).bind totalMemory? = some total)
    (r : Reading) :
    (systemMemoryRow? total r).isSome = Topic.systemMemory.complete c r.fields := by
  obtain ⟨memory, there, counted⟩ := Option.bind_eq_some_iff.1 found
  obtain ⟨first, named, rfl⟩ := Option.map_eq_some_iff.1 counted
  simp only [Topic.complete, sameTotal, there, Option.bind_some, named, systemMemoryRow?,
    totalMemory?]
  cases number? r.fields "MemTotal" with
  | none => rfl
  | some now =>
    have scaled : (bytesOfKilo now == bytesOfKilo first) = (now * 1024 == first * 1024) := rfl
    simp only [Option.map_some, Option.bind_eq_bind, Option.bind_some, scaled]
    by_cases same : (now * 1024 == first * 1024) = true
    · rw [if_pos same, same]
      cases number? r.fields "MemFree" <;> cases number? r.fields "Cached" <;> rfl
    · rw [if_neg same, Bool.eq_false_of_not_eq_true same]
      rfl

theorem systemMemory_timed (made : systemMemory c = .ok charts) :
    ∀ chart ∈ charts, chart.TimedAt (Topic.systemMemory.moments c) := by
  unfold systemMemory at made
  cases found : (c.capture.templateSection? systemMemorySection).bind totalMemory? with
  | none =>
    simp only [found] at made
    cases made
    exact List.forall_mem_nil _
  | some total =>
    simp only [found] at made
    refine forall_alone made fun _ => timed_of_plot (fun _ => rfl) ?_
    exact times_of_rows _ (fun _ _ made => (shape_of_systemMemoryRow? made).1)
      (systemMemoryRow?_isSome c found)

theorem cgroupMemoryRow?_isSome (names : CounterNames) (limit : Option Number) (r : Reading) :
    (cgroupMemoryRow? names limit r).isSome = hasAmounts names r.fields := by
  unfold cgroupMemoryRow? hasAmounts
  cases lookupNumber? r.fields names.memoryUsed <;>
    cases lookupNumber? r.fields names.memoryCached <;> rfl

theorem cgroupMemory_timed (made : cgroupMemory c = .ok charts) :
    ∀ chart ∈ charts, chart.TimedAt (Topic.cgroupMemory.moments c) := by
  unfold cgroupMemory at made
  by_cases there : c.capture.hasSection cgroupMemorySection
  · rw [if_neg (not_not_intro there)] at made
    refine forall_alone made fun _ => timed_of_plot (fun _ => rfl) ?_
    exact times_of_rows _ (fun _ _ made => (shape_of_cgroupMemoryRow? made).1)
      (cgroupMemoryRow?_isSome _ _)
  · rw [if_pos there] at made
    cases made
    exact List.forall_mem_nil _

theorem network_timed {name origin : String} {source : Chart.Source}
    (made : network c name source origin = .ok charts) :
    ∀ chart ∈ charts, chart.TimedAt (momentsOf c.capture name fun _ => true) :=
  forall_network made fun _ _ _ => timed_of_plot (fun _ => rfl) (times_of_map _ _)

theorem disks_timed (made : disks c = .ok charts) :
    ∀ chart ∈ charts, chart.TimedAt (Topic.disks.moments c) := by
  unfold disks at made
  by_cases none : c.capture.sectionKeys disksSection = []
  · simp only [none, if_true] at made
    cases made
    exact List.forall_mem_nil _
  · simp only [if_neg none] at made
    exact forall_alone made fun _ => timed_of_plot (fun _ => rfl) (times_of_map _ _)

theorem loadRow?_isSome (cpus : Nat) (r : Reading) :
    (loadRow? cpus r).isSome = hasAverages r.fields := by
  simp only [loadRow?, hasAverages, loadFields, List.mapM_cons, List.mapM_nil, List.all_cons,
    List.all_nil]
  cases number? r.fields "load_avg_1min" <;> cases number? r.fields "load_avg_5min" <;>
    cases number? r.fields "load_avg_15min" <;> rfl

theorem load_timed (made : load c = .ok charts) :
    ∀ chart ∈ charts, chart.TimedAt (Topic.load.moments c) := by
  unfold load at made
  by_cases there : c.capture.hasSection loadSection
  · rw [if_neg (not_not_intro there)] at made
    refine forall_alone made fun _ => timed_of_plot (fun _ => rfl) ?_
    exact times_of_rows _ (fun _ _ made => (shape_of_loadRow? made).1) (loadRow?_isSome _)
  · rw [if_pos there] at made
    cases made
    exact List.forall_mem_nil _

theorem bubbleChart_untimed {r : Ranking} {chart : Chart} (made : bubbleChart c r = .ok chart) :
    chart.timeSeries? = none := by
  obtain ⟨empty, -, made⟩ := bind_eq_ok_iff.1 made
  obtain ⟨t, -, made⟩ := bind_eq_ok_iff.1 made
  rw [Chart.timeSeries?, Chart.Request.data_of_build (mapError_eq_ok_iff.1 made)]

/-- The first chart of tasks is one of items. -/
theorem topTasks_timed (made : topTasks c = .ok charts) : charts = [] ∨ ∃ bubble rest,
    charts = bubble :: rest ∧ bubble.timeSeries? = none
      ∧ ∀ chart ∈ rest, chart.TimedAt (Topic.topTasks.moments c) := by
  by_cases none : (Ranking.ofCapture c.capture c.topN).ranked = []
  · left
    exact Except.ok.inj (made.symm.trans (topTasks_of_none none))
  · right
    obtain ⟨shown, made', shows⟩ := topTasks_of_some none
    obtain rfl : charts = shown.list := Except.ok.inj (made.symm.trans made')
    have times : (readings c.capture tasksSection).map Reading.time = Topic.topTasks.moments c :=
      times_of_readings _
    refine ⟨shown.bubble, _, rfl, ?_, ?_⟩
    · obtain empty | ⟨r, bubble, usage, memory, flow, same, first, -⟩ := parts_of_topTasks made
      · cases empty
      · obtain rfl : shown.bubble = bubble := (List.cons.inj same).1
        exact bubbleChart_untimed first
    · refine List.forall_mem_cons.2 ⟨shows.usage.timed times,
        List.forall_mem_cons.2 ⟨shows.memory.timed times, List.forall_mem_singleton.2 ?_⟩⟩
      exact shows.flow.timed ((times_flows _ _).trans times)

theorem Topic.charts_timed {topic : Topic} (other : topic ≠ .topTasks)
    (made : topic.charts c = .ok charts) : ∀ chart ∈ charts, chart.TimedAt (topic.moments c) := by
  cases topic with
  | cgroupProcessor => exact cgroupProcessor_timed made
  | cgroupMemory => exact cgroupMemory_timed made
  | cgroupNetwork => exact network_timed made
  | topTasks => exact absurd rfl other
  | systemProcessor => exact systemProcessor_timed made
  | systemMemory => exact systemMemory_timed made
  | systemNetwork => exact network_timed made
  | disks => exact disks_timed made
  | load => exact load_timed made

theorem Topic.rows_of_made {topic : Topic} (made : topic.charts c = .ok charts) :
    charts.filter (·.timeSeries?.isNone) = (if topic = .topTasks then charts.take 1 else [])
    ∧ ∀ chart ∈ charts, ∀ t, chart.timeSeries? = some t →
      t.rows.map Row.time = topic.moments c := by
  by_cases tasks : topic = .topTasks
  · subst tasks
    rcases topTasks_timed made with rfl | ⟨bubble, rest, rfl, untimed, timed⟩
    · exact ⟨rfl, fun _ inside => absurd inside List.not_mem_nil⟩
    · rw [if_pos rfl, List.filter_cons, if_pos (by simp [untimed]), Chart.untimed_of_all timed]
      refine ⟨rfl, fun chart inside t data => ?_⟩
      rcases List.mem_cons.1 inside with rfl | inside
      · rw [untimed] at data
        cases data
      · exact (timed chart inside).times data
  · have timed := Topic.charts_timed tasks made
    rw [if_neg tasks, Chart.untimed_of_all timed]
    exact ⟨rfl, fun chart inside t data => (timed chart inside).times data⟩

/-- Every chart over time has one row for each sample that has what its topic needs, at the instant
of the sample and in the order of the samples, and no other rows. All charts are over time but the
first one of the tasks. -/
theorem rows_of_samples (c : Context) : ∃ charts : Topic → List Chart,
    (∀ topic : Topic, topic.charts c = .ok (charts topic))
    ∧ Metric.charts c = .ok (Topic.all.flatMap charts)
    ∧ ∀ topic, (charts topic).filter (·.timeSeries?.isNone)
        = (if topic = .topTasks then (charts topic).take 1 else [])
      ∧ ∀ chart ∈ charts topic, ∀ t, chart.timeSeries? = some t →
        t.rows.map Row.time
          = (c.capture.dataSamples.filter fun s =>
              (s.section? topic.sectionName).any (topic.complete c)).filterMap Sample.instant? := by
  choose charts made count using Topic.charts_counted c
  refine ⟨charts, made, ?_, fun topic => Topic.rows_of_made (made topic)⟩
  rw [Metric.charts, mapM_eq_ok fun topic _ => made topic]
  rfl

end

end Metric

end UsageReport
