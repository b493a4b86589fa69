import Mathlib
import UsageReport.Proofs.Capture.Window
import UsageReport.Proofs.Chart.Routing
import UsageReport.Proofs.Metric.Total

/-! Charts of a window of time. The charts of a topic follow from the header, from the template and
row by row from the readings, so that a capture that is cut down to a window has the charts of the
whole one with the rows in the window. Only the charts of tasks look beyond their own sample. -/

namespace UsageReport.Metric

open UsageReport.Capture (Keeps)
open UsageReport.Chart (Axis MarginPolicy Request)
open UsageReport.Table (Row TimeSeries)
open UsageReport.Time (Instant)

/-! ### One chart -/

/-- The table `part` has the columns of `whole` and those of its rows at whose instants `keep`
holds. -/
structure Narrows (keep : Instant → Bool) (whole part : TimeSeries) : Prop where
  timeUnit : part.timeUnit = whole.timeUnit
  series : part.series = whole.series
  rows : part.rows = whole.rows.filter (keep ·.time)

theorem Narrows.columnNames {keep : Instant → Bool} {whole part : TimeSeries}
    (narrows : Narrows keep whole part) : part.columnNames = whole.columnNames := by
  rw [TimeSeries.columnNames, narrows.series, TimeSeries.columnNames]

theorem Narrows.columnUnits {keep : Instant → Bool} {whole part : TimeSeries}
    (narrows : Narrows keep whole part) : part.columnUnits = whole.columnUnits := by
  rw [TimeSeries.columnUnits, narrows.timeUnit, narrows.series, TimeSeries.columnUnits]

/-- The chart `part` is the chart `whole` with those of its rows at whose instants `keep` holds. -/
structure Narrowed (keep : Instant → Bool) (whole part : Chart) : Prop where
  title : part.title = whole.title
  selector : part.selector = whole.selector
  source : part.source = whole.source
  stacked : part.stacked = whole.stacked
  axes : part.axes.map Axis.title = whole.axes.map Axis.title
  routing : part.axes.map Axis.series = whole.axes.map Axis.series
  table : ∃ t u, whole.data = .timeSeries t ∧ part.data = .timeSeries u
    ∧ u.columnNames = t.columnNames ∧ u.columnUnits = t.columnUnits
    ∧ u.rows = t.rows.filter (keep ·.time)

variable {keep : Instant → Bool} {columns : List (String × String)} {rows : List Row}
  {request : TimeSeries → Request}

theorem follows_tabulate :
    Follows (Narrows keep) (tabulate columns rows)
      (tabulate columns (rows.filter (keep ·.time))) := by
  intro t made
  obtain ⟨empty, created, extended⟩ := bind_eq_ok_iff.1 made
  obtain ⟨fit, timeUnit, series, added⟩ :=
    TimeSeries.extend_eq_ok_iff.1 (mapError_eq_ok_iff.1 extended)
  obtain ⟨-, -, -, none⟩ := TimeSeries.create_eq_ok_iff.1 (mapError_eq_ok_iff.1 created)
  have fit' : ∀ row ∈ rows.filter (keep ·.time), row.values.length = empty.series.length :=
    fun row inside => fit row (List.mem_filter.1 inside).1
  obtain ⟨u, extended', timeUnit', series', added'⟩ := TimeSeries.extend_eq_ok fit'
  refine ⟨u, bind_eq_ok_iff.2 ⟨empty, created, mapError_eq_ok_iff.2 extended'⟩, ?_⟩
  constructor
  case timeUnit => rw [timeUnit', timeUnit]
  case series => rw [series', series]
  case rows => rw [added', added, none, List.nil_append, List.nil_append]

theorem follows_granted (uniform : Uniform request) {t u : TimeSeries}
    (narrows : Narrows keep t u) :
    Follows (Narrowed keep) (granted (request t)) (granted (request u)) := by
  intro chart made
  have data : (request t).data = .timeSeries t := congrArg Request.data (uniform t t)
  rw [uniform t u]
  obtain ⟨selector, chosen, built⟩ := bind_eq_ok_iff.1 (mapError_eq_ok_iff.1 made)
  simp only [data] at built
  obtain ⟨axes, measured, built⟩ := bind_eq_ok_iff.1 built
  cases built
  -- The caps of the axes follow the rows and may differ. Their titles and series do not.
  obtain ⟨axes', measured', titles, routing⟩ :=
    Request.timeSeriesAxes_of_same_series narrows.series rfl rfl measured
  refine ⟨{ title := (request t).title, selector, source := (request t).source
            stacked := (request t).stacked, axes := axes', data := .timeSeries u }, ?_, ?_⟩
  · exact mapError_eq_ok_iff.2 (bind_eq_ok_iff.2 ⟨selector, chosen,
      bind_eq_ok_iff.2 ⟨axes', measured', rfl⟩⟩)
  · constructor
    case title => rfl
    case selector => rfl
    case source => rfl
    case stacked => rfl
    case axes => exact titles
    case routing => exact routing
    case table =>
      exact ⟨t, u, rfl, rfl, narrows.columnNames, narrows.columnUnits, narrows.rows⟩

theorem follows_chart (uniform : Uniform request) : Follows (Narrowed keep)
    (tabulate columns rows >>= fun t => granted (request t))
    (tabulate columns (rows.filter (keep ·.time)) >>= fun t => granted (request t)) :=
  follows_tabulate.bind fun _ _ narrows => follows_granted uniform narrows

/-- A chart that is the only one of its topic. -/
theorem follows_alone (uniform : Uniform request) : Follows (List.Forall₂ (Narrowed keep))
    (tabulate columns rows >>= fun t => granted (request t) >>= fun chart => pure [chart])
    (tabulate columns (rows.filter (keep ·.time))
      >>= fun t => granted (request t) >>= fun chart => pure [chart]) :=
  follows_tabulate.bind fun _ _ narrows => (follows_granted uniform narrows).bind
    fun _ _ narrowed => .pure (.cons narrowed .nil)

/-! ### Topics -/

section
variable [Orders] {whole part : Capture} (keeps : Keeps keep whole part) (margin : MarginPolicy)
  (topN : Nat)
include keeps

theorem hostname_keeps : Context.hostname ⟨part, margin, topN⟩
    = Context.hostname ⟨whole, margin, topN⟩ := by
  rw [Context.hostname, keeps.header, Context.hostname]

omit [Orders] in
/-- Rows that are made of one reading each. -/
theorem rows_keeps (name : String) (values : Json.Object → List Number) :
    (readings part name).map (fun r => Row.mk r.time (values r.fields))
      = ((readings whole name).map fun r => Row.mk r.time (values r.fields)).filter
        (keep ·.time) := by
  have timed (r : Reading) (row : Row) (made : some ⟨r.time, values r.fields⟩ = some row) :
      row.time = r.time := by
    cases made
    rfl
  have rows := keeps.rows name (fun _ => rfl) timed
  rwa [List.filterMap_eq_map'] at rows

theorem Account.cpuChart_follows (a : Account) (cpu : Capture.CpuIndex) :
    Follows (Narrowed keep) (a.cpuChart ⟨whole, margin, topN⟩ cpu)
      (a.cpuChart ⟨part, margin, topN⟩ cpu) := by
  unfold cpuChart
  have rows := rows_keeps keeps a.sectionName fun fields => a.counters.map (value fields cpu)
  simp only [rows]
  exact follows_chart fun _ _ => rfl

theorem Account.charts_follows (a : Account)
    {all all' : List Capture.CpuIndex → Except Fault Chart}
    (busy : ∀ cpus, Follows (Narrowed keep) (all cpus) (all' cpus)) :
    Follows (List.Forall₂ (Narrowed keep)) (a.charts ⟨whole, margin, topN⟩ all)
      (a.charts ⟨part, margin, topN⟩ all') := by
  unfold Account.charts
  rw [keeps.logicalCpus]
  by_cases none : whole.logicalCpus a.sectionName = []
  · simp only [none, if_true]
    exact .pure .nil
  · simp only [if_neg none]
    refine Follows.bind (.mapM fun cpu _ => cpuChart_follows keeps margin topN a cpu) ?_
    intro each each' drawn
    refine Follows.bind (busy _) fun last last' drawnLast => .pure ?_
    exact List.rel_append drawn (.cons drawnLast .nil)

theorem systemBusyChart_follows (cpus : List Capture.CpuIndex) :
    Follows (Narrowed keep) (systemBusyChart ⟨whole, margin, topN⟩ cpus)
      (systemBusyChart ⟨part, margin, topN⟩ cpus) := by
  unfold systemBusyChart
  have rows := rows_keeps keeps statSection fun fields => cpus.map (systemAccount.busyTime fields)
  simp only [rows, hostname_keeps keeps margin topN]
  exact follows_chart fun _ _ => rfl

theorem cgroupBusyChart_follows (cpus : List Capture.CpuIndex) :
    Follows (Narrowed keep) (cgroupBusyChart ⟨whole, margin, topN⟩ cpus)
      (cgroupBusyChart ⟨part, margin, topN⟩ cpus) := by
  unfold cgroupBusyChart
  have rows := rows_keeps keeps accountingSection fun fields =>
    cpus.map (cgroupAccount.busyTime fields)
      ++ [whole.header.cpuQuotaPercent?.getD unlimitedQuota, throttlingPercent fields]
  simp only [keeps.header, rows]
  exact follows_chart fun _ _ => rfl

theorem systemMemory_follows : Follows (List.Forall₂ (Narrowed keep))
    (systemMemory ⟨whole, margin, topN⟩) (systemMemory ⟨part, margin, topN⟩) := by
  unfold systemMemory
  rw [keeps.templateSection?]
  cases (whole.templateSection? systemMemorySection).bind totalMemory? with
  | none => exact .pure .nil
  | some total =>
    have timed (r : Reading) (row : Row) (made : systemMemoryRow? total r = some row) :
        row.time = r.time := (shape_of_systemMemoryRow? made).1
    have rows := keeps.rows systemMemorySection (fun _ => rfl) timed
    simp only [rows, hostname_keeps keeps margin topN]
    exact follows_alone fun _ _ => rfl

theorem cgroupMemory_follows : Follows (List.Forall₂ (Narrowed keep))
    (cgroupMemory ⟨whole, margin, topN⟩) (cgroupMemory ⟨part, margin, topN⟩) := by
  unfold cgroupMemory
  have names : Context.names ⟨part, margin, topN⟩ = Context.names ⟨whole, margin, topN⟩ := by
    rw [Context.names, keeps.header, Context.names]
  have timed (r : Reading) (row : Row)
      (made : cgroupMemoryRow? (Context.names ⟨whole, margin, topN⟩) whole.header.memoryLimit? r
        = some row) : row.time = r.time := (shape_of_cgroupMemoryRow? made).1
  have rows := keeps.rows cgroupMemorySection (fun _ => rfl) timed
  by_cases there : whole.hasSection cgroupMemorySection
  · simp only [keeps.hasSection, there, not_true, if_false, names, keeps.header, rows]
    exact follows_alone fun _ _ => rfl
  · simp only [keeps.hasSection, there]
    exact .pure .nil

theorem network_follows (name origin : String) (source : Chart.Source) :
    Follows (List.Forall₂ (Narrowed keep)) (network ⟨whole, margin, topN⟩ name source origin)
      (network ⟨part, margin, topN⟩ name source origin) := by
  unfold network
  rw [keeps.sectionKeys]
  by_cases none : whole.sectionKeys name = []
  · simp only [none, if_true]
    exact .pure .nil
  · simp only [if_neg none]
    refine Follows.mapM fun t _ => ?_
    have rows := rows_keeps keeps name fun fields =>
      (whole.sectionKeys name).flatMap (t.flow fields)
    unfold trafficChart
    simp only [rows, hostname_keeps keeps margin topN]
    exact follows_chart fun _ _ => rfl

theorem disks_follows : Follows (List.Forall₂ (Narrowed keep))
    (disks ⟨whole, margin, topN⟩) (disks ⟨part, margin, topN⟩) := by
  unfold disks
  rw [keeps.sectionKeys]
  by_cases none : whole.sectionKeys disksSection = []
  · simp only [none, if_true]
    exact .pure .nil
  · have rows := rows_keeps keeps disksSection fun fields =>
      (whole.sectionKeys disksSection).flatMap (diskFlow fields)
    simp only [if_neg none, rows]
    exact follows_alone fun _ _ => rfl

theorem load_follows : Follows (List.Forall₂ (Narrowed keep))
    (load ⟨whole, margin, topN⟩) (load ⟨part, margin, topN⟩) := by
  unfold load
  have cpus : systemCpuCount ⟨part, margin, topN⟩ = systemCpuCount ⟨whole, margin, topN⟩ := by
    rw [systemCpuCount, keeps.header, keeps.logicalCpus, systemCpuCount]
  have timed (r : Reading) (row : Row)
      (made : loadRow? (systemCpuCount ⟨whole, margin, topN⟩) r = some row) : row.time = r.time :=
    (shape_of_loadRow? made).1
  have rows := keeps.rows loadSection (fun _ => rfl) timed
  by_cases there : whole.hasSection loadSection
  · simp only [keeps.hasSection, there, not_true, if_false, cpus, rows,
      hostname_keeps keeps margin topN]
    exact follows_alone fun _ _ => rfl
  · simp only [keeps.hasSection, there]
    exact .pure .nil

theorem Topic.charts_follows {topic : Topic} (other : topic ≠ .topTasks) :
    Follows (List.Forall₂ (Narrowed keep)) (topic.charts ⟨whole, margin, topN⟩)
      (topic.charts ⟨part, margin, topN⟩) := by
  cases topic with
  | cgroupProcessor =>
    exact cgroupAccount.charts_follows keeps margin topN (cgroupBusyChart_follows keeps margin topN)
  | cgroupMemory => exact cgroupMemory_follows keeps margin topN
  | cgroupNetwork => exact network_follows keeps margin topN _ _ _
  | topTasks => exact absurd rfl other
  | systemProcessor =>
    exact systemAccount.charts_follows keeps margin topN (systemBusyChart_follows keeps margin topN)
  | systemMemory => exact systemMemory_follows keeps margin topN
  | systemNetwork => exact network_follows keeps margin topN _ _ _
  | disks => exact disks_follows keeps margin topN
  | load => exact load_follows keeps margin topN

end

/-! ### Documents -/

open UsageReport.Capture (Document)
open UsageReport.Capture.Document (InWindow inWindow)
open UsageReport.Json (Value)

/-- The first two samples of a document are those of its capture. -/
theorem start_of_window {c : Capture} {first last : Option Instant}
    (inside : ∀ index < 2, ∃ s, (c.samples.map fun s => Value.object s.fields)[index]? = some s
      ∧ InWindow (first, last) s) :
    ∃ start template rest, c.samples = start :: template :: rest
      ∧ start.instant?.any (inWindow first last) ∧ template.instant?.any (inWindow first last) := by
  obtain ⟨v, there, within⟩ := inside 0 (by decide)
  obtain ⟨v', there', within'⟩ := inside 1 (by decide)
  match samples : c.samples with
  | [] => simp [samples] at there
  | [_] => simp [samples] at there'
  | start :: template :: rest =>
    rw [samples] at there there'
    cases there
    cases there'
    refine ⟨start, template, rest, rfl, ?_, ?_⟩
    · rw [← Capture.inWindow_object]
      exact decide_eq_true within
    · rw [← Capture.inWindow_object]
      exact decide_eq_true within'

/-- A document without repeated names, such as every one that was read, can be cut down to a window
of time before its charts are made or after that. Where all its samples have timestamps and the
window has the first two of them, every topic but that of tasks has as many charts as before, with
the same titles, places, columns and axes, and the rows of each are its old rows in the window. -/
theorem charts_in_window [Orders] :
    (∀ text v, Json.parse? text = some v → v.Distinct)
    ∧ ∀ (least : Nat) (v : Value) (whole : Capture), v.Distinct →
      Capture.ofJson least v = .ok whole →
      ∃ d, Document.ofJson? v = some d ∧ ∀ first last : Option Instant, d.Readable →
        first.isSome ∨ last.isSome →
        (∀ index < 2, ∃ s, d.samples[index]? = some s ∧ InWindow (first, last) s) →
        ∃ n cut part, d.cut (.window first last) = (.ok n, cut) ∧ 2 ≤ cut.samples.length
          ∧ (∀ least' ≤ cut.samples.length, Capture.ofJson least' cut.json = .ok part)
          ∧ ∀ topic ≠ Topic.topTasks, ∀ margin topN, ∃ charts charts',
            topic.charts ⟨whole, margin, topN⟩ = .ok charts
              ∧ topic.charts ⟨part, margin, topN⟩ = .ok charts'
              ∧ List.Forall₂ (Narrowed (inWindow first last)) charts charts' := by
  refine ⟨fun _ _ read => Json.distinct_of_parse? read, fun least v whole distinct read => ?_⟩
  obtain ⟨fields, -, -, rfl, -⟩ := Capture.parts_of_ofJson read
  refine ⟨_, Capture.document_of_ofJson read, fun first last readable bounded inside => ?_⟩
  obtain ⟨start, template, rest, samples, early, early'⟩ := start_of_window inside
  have keeps := Capture.keeps_window samples early early'
  have left : (whole.samples.map fun s => Value.object s.fields).filter
        (fun s => InWindow (first, last) s)
      = (whole.samples.filter (·.instant?.any (inWindow first last))).map
        fun s => Value.object s.fields := by
    rw [List.filter_map]
    exact congrArg _ (List.filter_congr fun s _ => Capture.inWindow_object s)
  refine ⟨_, _, ⟨whole.header, whole.samples.filter (·.instant?.any (inWindow first last))⟩,
    Document.cut_window_eq_ok readable bounded, ?_, fun least' enough => ?_,
    fun topic other margin topN => ?_⟩
  · simp only [left, List.length_map]
    rw [samples, List.filter_cons, if_pos early, List.filter_cons, if_pos early']
    exact Nat.le_add_left 2 _
  · simp only [left, List.length_map] at enough
    simp only [left]
    exact Capture.ofJson_cut distinct.names read _ enough
  · obtain ⟨charts, made, -⟩ := Topic.charts_counted ⟨whole, margin, topN⟩ topic
    obtain ⟨charts', made', narrowed⟩ :=
      Topic.charts_follows keeps margin topN other charts made
    exact ⟨charts, charts', made, made', narrowed⟩

/-- A load of one in three consecutive seconds. -/
def threeSeconds : Document where
  others := [("header", .object [])]
  samples := ["2022-01-18T00:02:47", "2022-01-18T00:02:48", "2022-01-18T00:02:49"].map fun utc =>
    .object [("timestamp", .object [("UTC", .string utc)]),
      (loadSection, .object (loadFields.map fun (key, _) => (key, .integer 1)))]

theorem distinct_threeSeconds : threeSeconds.json.Distinct := by
  have load : (Value.object (loadFields.map fun (key, _) => (key, .integer 1))).Distinct := by
    refine .object (by decide) fun field inside => ?_
    obtain ⟨entry, -, rfl⟩ := List.mem_map.1 inside
    exact .integer
  have samples : (Value.array threeSeconds.samples).Distinct := by
    refine .array fun sample inside => ?_
    obtain ⟨utc, -, rfl⟩ := List.mem_map.1 inside
    have time : (Value.object [("UTC", .string utc)]).Distinct :=
      .object (List.nodup_singleton _) (List.forall_mem_singleton.2 .string)
    have names : ["timestamp", loadSection].Nodup := by decide
    exact .object names (List.forall_mem_cons.2 ⟨time, List.forall_mem_singleton.2 load⟩)
  have names : ["header", "samples"].Nodup := by decide
  exact .object names (List.forall_mem_cons.2 ⟨Json.Place.empty_object,
    List.forall_mem_singleton.2 samples⟩)

/-- The instant of the second one of the seconds. -/
def secondInstant : Instant := ⟨19010, 168, 0, by decide⟩

/-- The third of the seconds is cut off. -/
theorem threeSeconds_in_window : threeSeconds.json.Distinct ∧ threeSeconds.Readable
    ∧ (∀ index < 2, ∃ s, threeSeconds.samples[index]? = some s
      ∧ InWindow (none, some secondInstant) s)
    ∧ ∃ whole n cut part, Capture.ofJson 2 threeSeconds.json = .ok whole
      ∧ threeSeconds.cut (.window none (some secondInstant)) = (.ok n, cut)
      ∧ Capture.ofJson 2 cut.json = .ok part
      ∧ ∃ charts charts', load { capture := whole } = .ok charts
        ∧ load { capture := part } = .ok charts'
        ∧ List.Forall₂ (Narrowed (inWindow none (some secondInstant))) charts charts' := by
  have readable : threeSeconds.Readable := by
    unfold Document.Readable
    decide +kernel
  have inside : ∀ index < 2, ∃ s, threeSeconds.samples[index]? = some s
      ∧ InWindow (none, some secondInstant) s := by
    unfold InWindow
    decide +kernel
  obtain ⟨d, document, cuts⟩ := charts_in_window.2 2 threeSeconds.json _ distinct_threeSeconds rfl
  cases document
  obtain ⟨n, cut, part, made, enough, loaded, charts⟩ :=
    cuts none (some secondInstant) readable (.inr rfl) inside
  obtain ⟨charts, charts', drawn, drawn', narrowed⟩ := charts .load (by decide) _ _
  exact ⟨distinct_threeSeconds, readable, inside, _, n, cut, part, rfl, made, loaded 2 enough,
    charts, charts', drawn, drawn', narrowed⟩

end UsageReport.Metric
