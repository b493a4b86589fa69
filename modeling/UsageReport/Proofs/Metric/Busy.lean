import Mathlib
import UsageReport.Proofs.Metric.Moments

/-! The chart of all CPUs next to those of each one. Its cells are the sums of what the other charts
show of the time in which a CPU works, row by row and CPU by CPU. -/

namespace UsageReport

open UsageReport.Capture (CpuIndex Sample)
open UsageReport.Json (Object)
open UsageReport.Number (sum)
open UsageReport.Table (Row Series TimeSeries)

/-! ### Tables -/

namespace Table.TimeSeries

/-- The cells of a row in all columns but that of idle time. -/
def busyCells (t : TimeSeries) (row : Row) : List Number :=
  ((t.series.zip row.values).filter (·.1.name ≠ "Idle")).map Prod.snd

/-- The sum of the busy cells of the row at an index. -/
def busyTotal? (t : TimeSeries) (index : Nat) : Option Number :=
  t.rows[index]?.map fun row => sum (t.busyCells row)

end Table.TimeSeries

namespace Metric

/-- The samples that have a timestamp and the section. -/
def samplesWith (c : Capture) (name : String) : List Sample :=
  c.dataSamples.filter fun s => s.instant?.isSome && s.hasSection name

/-- The table `total` has a row for each of the samples, and so have the `tables`. The cells of a
row are the busy totals of the same row of each table, and `behind` these what is added of the
sample. -/
structure SumsUp (samples : List Sample) (tables : List TimeSeries) (total : TimeSeries)
    (behind : Sample → List (Option Number)) : Prop where
  stamps : total.rows.map (some ·.time) = samples.map Sample.instant?
  times : ∀ t ∈ tables, t.rows.map Row.time = total.rows.map Row.time
  cells : ∀ index row s, total.rows[index]? = some row → samples[index]? = some s →
    row.values.map some = tables.map (·.busyTotal? index) ++ behind s

/-- The charts of an account are one for each CPU and last the one that sums them up. Each CPU has
the given columns besides that of idle time. -/
def Totalled (c : Capture) (a : Account) (columns : List String)
    (charts : Except Fault (List Chart)) (behind : Sample → List (Option Number)) : Prop :=
  ∃ each last tables total, charts = .ok (each ++ [last])
    ∧ each.length = (c.logicalCpus a.sectionName).length
    ∧ each.map Chart.timeSeries? = tables.map some ∧ last.timeSeries? = some total
    ∧ (∀ t ∈ tables, (t.series.map Series.name).filter (· ≠ "Idle") = columns)
    ∧ SumsUp (samplesWith c a.sectionName) tables total behind

/-! ### Rows -/

/-- Each reading is of the sample at its place. -/
theorem map_readings_samples (c : Capture) (name : String) :
    (readings c name).map (fun r => (some r.time, some r.fields))
      = (samplesWith c name).map fun s => (s.instant?, s.section? name) := by
  have pairs : (readings c name).map (fun r => (some r.time, some r.fields))
      = (c.seen name).map fun (time, fields) => (some time, some fields) := by
    rw [← Capture.map_readings, List.map_map]
    rfl
  rw [pairs, Capture.seen, samplesWith, List.map_filterMap, ← List.filterMap_eq_map,
    List.filterMap_filter]
  refine List.filterMap_congr fun s _ => ?_
  cases read : s.instant? with
  | none => simp
  | some time => cases found : s.section? name <;> simp [Sample.hasSection, read, found]

namespace Account

/-- The idle time has the only column of that name. -/
def NamesIdle (a : Account) : Prop :=
  ∀ counter ∈ a.counters, counter.busy = decide (counter.column ≠ "Idle")

instance (a : Account) : Decidable a.NamesIdle :=
  inferInstanceAs (Decidable (∀ counter ∈ a.counters, _))

theorem busyCells_eq {a : Account} (named : a.NamesIdle) {t : TimeSeries}
    (series : t.series = a.counters.map fun counter => ⟨counter.column, percent⟩) {row : Row}
    {fields : Object} {cpu : CpuIndex} (values : row.values = a.counters.map (value fields cpu)) :
    sum (t.busyCells row) = a.busyTime fields cpu := by
  have kept : (a.counters.filter fun counter => counter.column ≠ "Idle")
      = a.counters.filter Counter.busy :=
    List.filter_congr fun counter inside => (named counter inside).symm
  rw [TimeSeries.busyCells, series, values, List.zip_map', List.filter_map, List.map_map, busyTime,
    ← kept]
  rfl

/-- The table of a CPU has a row for each reading, with the counters of the CPU. -/
structure Tells (a : Account) (c : Capture) (cpu : CpuIndex) (t : TimeSeries) : Prop where
  series : t.series = a.counters.map fun counter => ⟨counter.column, percent⟩
  rows : t.rows = (readings c a.sectionName).map fun r =>
    Row.mk r.time (a.counters.map (value r.fields cpu))

theorem tells_of_made {a : Account} {c : Context} {cpu : CpuIndex} {chart : Chart}
    (made : a.cpuChart c cpu = .ok chart) :
    ∃ t, chart.timeSeries? = some t ∧ a.Tells c.capture cpu t := by
  obtain ⟨t, data, -, series, rows⟩ := shows_of_plot (fun _ => rfl) made
  refine ⟨t, by rw [Chart.timeSeries?, data], ?_, rows⟩
  rw [series, List.map_map]
  rfl

theorem tables_of_made {a : Account} {c : Context} {cpus : List CpuIndex} {each : List Chart}
    (made : List.Forall₂ (fun cpu chart => a.cpuChart c cpu = .ok chart) cpus each) :
    ∃ tables, each.map Chart.timeSeries? = tables.map some
      ∧ List.Forall₂ (a.Tells c.capture) cpus tables := by
  induction made with
  | nil => exact ⟨[], rfl, .nil⟩
  | cons first _ ih =>
    obtain ⟨t, data, tells⟩ := tells_of_made first
    obtain ⟨tables, others, rest⟩ := ih
    exact ⟨t :: tables, by rw [List.map_cons, data, others, List.map_cons], .cons tells rest⟩

/-- A table that has a row for each reading, with the busy times of all CPUs, sums up their
tables. -/
theorem sumsUp_of_tells {a : Account} (named : a.NamesIdle) {c : Capture} {cpus : List CpuIndex}
    {tables : List TimeSeries} (tells : List.Forall₂ (a.Tells c) cpus tables) {total : TimeSeries}
    {added : Object → List Number}
    (rows : total.rows = (readings c a.sectionName).map fun r =>
      Row.mk r.time (cpus.map (a.busyTime r.fields) ++ added r.fields))
    {behind : Sample → List (Option Number)}
    (shown : ∀ s fields, s.section? a.sectionName = some fields →
      behind s = (added fields).map some) :
    SumsUp (samplesWith c a.sectionName) tables total behind := by
  have samples := map_readings_samples c a.sectionName
  have times : total.rows.map Row.time = (readings c a.sectionName).map Reading.time := by
    rw [rows, List.map_map]
    rfl
  constructor
  case stamps =>
    have stamps := congrArg (List.map Prod.fst) samples
    rw [List.map_map, List.map_map] at stamps
    rw [rows, List.map_map]
    exact stamps
  case times =>
    intro t inside
    obtain ⟨cpu, -, tells⟩ := exists_of_mem_forall₂ tells inside
    rw [times, tells.rows, List.map_map]
    rfl
  case cells =>
    intro index row s there sampled
    rw [rows, List.getElem?_map, Option.map_eq_some_iff] at there
    obtain ⟨r, there, rfl⟩ := there
    have found : s.section? a.sectionName = some r.fields := by
      have pair := congrArg (·[index]?) samples
      simp only [List.getElem?_map, there, sampled, Option.map_some] at pair
      exact (Prod.mk.inj (Option.some.inj pair)).2.symm
    have each : (cpus.map fun cpu => some (a.busyTime r.fields cpu))
        = tables.map (·.busyTotal? index) := by
      refine map_eq_of_forall₂ (tells.imp fun cpu t tells => ?_)
      rw [TimeSeries.busyTotal?, tells.rows, List.getElem?_map, there]
      exact congrArg some (busyCells_eq named tells.series rfl).symm
    rw [shown s _ found, ← each]
    simp

theorem totalled {a : Account} (named : a.NamesIdle) (counters : a.counters ≠ []) {c : Context}
    (filled : c.capture.logicalCpus a.sectionName ≠ []) {all : List CpuIndex → Except Fault Chart}
    (added : Object → List Number)
    (busy : ∀ cpus ≠ [], ∃ last total, all cpus = .ok last ∧ last.timeSeries? = some total
      ∧ total.rows = (readings c.capture a.sectionName).map fun r =>
        Row.mk r.time (cpus.map (a.busyTime r.fields) ++ added r.fields))
    {behind : Sample → List (Option Number)}
    (shown : ∀ s fields, s.section? a.sectionName = some fields →
      behind s = (added fields).map some) :
    Totalled c.capture a ((a.counters.map Counter.column).filter (· ≠ "Idle")) (a.charts c all)
      behind := by
  obtain ⟨last, total, madeLast, data, rows⟩ := busy _ filled
  have drawn : ∀ cpu ∈ c.capture.logicalCpus a.sectionName, ∃ chart, a.cpuChart c cpu = .ok chart :=
    fun cpu _ => a.cpuChart_total counters c cpu
  obtain ⟨each, made, count⟩ := length_mapM drawn
  obtain ⟨tables, data', tells⟩ := tables_of_made (mapM_eq_ok_iff.1 made)
  refine ⟨each, last, tables, total, ?_, count, data', data, fun t inside => ?_,
    sumsUp_of_tells named tells rows shown⟩
  · unfold Account.charts
    simp only [if_neg filled, made, madeLast, ok_bind]
    rfl
  · obtain ⟨cpu, -, tells⟩ := exists_of_mem_forall₂ tells inside
    rw [tells.series, List.map_map]
    rfl

end Account

/-! ### Both accounts -/

theorem systemBusyChart_shows (c : Context) {cpus : List CpuIndex} (filled : cpus ≠ []) :
    ∃ last total, systemBusyChart c cpus = .ok last ∧ last.timeSeries? = some total
      ∧ total.rows = (readings c.capture statSection).map fun r =>
        Row.mk r.time (cpus.map (systemAccount.busyTime r.fields) ++ []) := by
  obtain ⟨last, made⟩ := systemBusyChart_total c filled
  obtain ⟨total, data, -, -, rows⟩ := shows_of_plot (fun _ => rfl) made
  refine ⟨last, total, made, by rw [Chart.timeSeries?, data], ?_⟩
  simp only [List.append_nil, rows]

theorem cgroupBusyChart_shows (c : Context) (cpus : List CpuIndex) :
    ∃ last total, cgroupBusyChart c cpus = .ok last ∧ last.timeSeries? = some total
      ∧ total.rows = (readings c.capture accountingSection).map fun r =>
        Row.mk r.time (cpus.map (cgroupAccount.busyTime r.fields)
          ++ [c.capture.header.cpuQuotaPercent?.getD unlimitedQuota, throttlingPercent r.fields]) := by
  obtain ⟨last, made⟩ := cgroupBusyChart_total c cpus
  obtain ⟨total, data, -, -, rows⟩ := shows_of_plot (fun _ => rfl) made
  exact ⟨last, total, made, by rw [Chart.timeSeries?, data], rows⟩

/-- The chart of all CPUs has the rows of each CPU's chart, at the same instants, and its cells are
the sums of what those charts show of the time that is not idle. For a cgroup its limit and the
throttling of the sample follow. -/
theorem busy_of_charts (c : Context) :
    (c.capture.logicalCpus statSection ≠ [] → Totalled c.capture systemAccount
      ["User", "Nice", "System", "I/O wait", "Hard IRQ", "Soft IRQ", "Steal"] (systemProcessor c)
      fun _ => [])
    ∧ (c.capture.logicalCpus accountingSection ≠ [] → Totalled c.capture cgroupAccount
      ["User", "System"] (cgroupProcessor c) fun s =>
        [some (c.capture.header.cpuQuotaPercent?.getD (-1)),
          (s.section? accountingSection).map throttlingPercent]) := by
  constructor
  · intro filled
    have named : systemAccount.NamesIdle := by decide
    exact Account.totalled named (by decide) filled (fun _ => [])
      (fun _ some => systemBusyChart_shows c some) fun _ _ _ => rfl
  · intro filled
    have named : cgroupAccount.NamesIdle := by decide
    let quota := c.capture.header.cpuQuotaPercent?.getD unlimitedQuota
    refine Account.totalled named (by decide) filled
      (fun fields => [quota, throttlingPercent fields])
      (fun cpus _ => cgroupBusyChart_shows c cpus) ?_
    intro s fields found
    have there : s.section? accountingSection = some fields := found
    rw [there]
    rfl

/-- A capture of CPUs that are not numbered one after the other, with few counters. -/
def sparse : Capture where
  header := {}
  samples := [⟨[]⟩,
    ⟨[("timestamp", .object [("UTC", .string "2022-01-18T00:02:48")]),
      ("stat", .object [("cpu10", .object [("user", .integer 1), ("idle", .integer 5)]),
        ("cpu2", .object [("sys", .integer 3)])]),
      ("cgroup_cpuacct_stats", .object [("cpu10", .object [("user", .integer 4)]),
        ("throttling.nr_periods", .integer 4), ("throttling.nr_throttled", .integer 1)])]⟩]

theorem sparse_busy : sparse.logicalCpus statSection = [2, 10]
    ∧ sparse.logicalCpus accountingSection = [10]
    ∧ Totalled sparse systemAccount
      ["User", "Nice", "System", "I/O wait", "Hard IRQ", "Soft IRQ", "Steal"]
      (systemProcessor { capture := sparse }) (fun _ => [])
    ∧ Totalled sparse cgroupAccount ["User", "System"] (cgroupProcessor { capture := sparse })
      fun s => [some (-1), (s.section? accountingSection).map throttlingPercent] := by
  have seen : (sparse.sectionKeys statSection).filterMap Capture.cpuIndex? = [10, 2] := by
    decide +kernel
  have seen' : (sparse.sectionKeys accountingSection).filterMap Capture.cpuIndex? = [10] := by
    decide +kernel
  have system : sparse.logicalCpus statSection = [2, 10] := by
    rw [Capture.logicalCpus, seen]
    simp [List.mergeSort, List.MergeSort.Internal.splitInTwo]
  have cgroup : sparse.logicalCpus accountingSection = [10] := by
    rw [Capture.logicalCpus, seen', List.mergeSort_singleton]
  have busy := busy_of_charts { capture := sparse }
  exact ⟨system, cgroup, busy.1 (by simp [system]), busy.2 (by simp [cgroup])⟩

end Metric

end UsageReport
