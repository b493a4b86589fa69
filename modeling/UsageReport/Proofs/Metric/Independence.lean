import Mathlib
import UsageReport.Proofs.Capture.Agree
import UsageReport.Proofs.Metric.Runs
import UsageReport.Statistics.Basic

/-! What the results of a capture depend on. The first sample never counts, and each topic reads few
sections of the others: captures that agree on these have the same charts of the topic. The ranking
of tasks and the statistics read even less. -/

namespace UsageReport.Metric

open UsageReport.Capture (AgreeOn ReadAlike Header firstReading)
open UsageReport.Chart (MarginPolicy)

/-- The sections that a topic reads. The load is divided by the number of CPUs, which the section
`stat` tells where the header lists none. -/
def Topic.sections (header : Header) : Topic → List String
  | cgroupProcessor => [accountingSection]
  | cgroupMemory => [cgroupMemorySection]
  | cgroupNetwork => [cgroupNetworkSection]
  | topTasks => [tasksSection, accountingSection, cgroupMemorySection]
  | systemProcessor => [statSection]
  | systemMemory => [systemMemorySection]
  | systemNetwork => [systemNetworkSection]
  | disks => [disksSection]
  | load => loadSection :: if (header.cpus.getD []).isEmpty then [statSection] else []

section
variable [Orders] {c c' : Capture} {names : List String} (h : ReadAlike names c c')
  (margin : MarginPolicy) (topN : Nat)
include h

/-! ### Topics over one section -/

theorem Account.cpuChart_congr {a : Account} (inside : a.sectionName ∈ names) :
    a.cpuChart ⟨c, margin, topN⟩ = a.cpuChart ⟨c', margin, topN⟩ := by
  funext cpu
  simp only [cpuChart, h.readings inside]

theorem systemProcessor_congr (inside : statSection ∈ names) :
    systemProcessor ⟨c, margin, topN⟩ = systemProcessor ⟨c', margin, topN⟩ := by
  have each : systemAccount.cpuChart ⟨c, margin, topN⟩ = systemAccount.cpuChart ⟨c', margin, topN⟩ :=
    Account.cpuChart_congr h margin topN inside
  have cpus : c.logicalCpus systemAccount.sectionName = c'.logicalCpus systemAccount.sectionName :=
    h.toAgreeOn.logicalCpus inside
  simp only [systemProcessor, Account.charts, each, cpus, systemBusyChart, h.readings inside,
    Context.hostname, h.header]

theorem cgroupProcessor_congr (inside : accountingSection ∈ names) :
    cgroupProcessor ⟨c, margin, topN⟩ = cgroupProcessor ⟨c', margin, topN⟩ := by
  have each : cgroupAccount.cpuChart ⟨c, margin, topN⟩ = cgroupAccount.cpuChart ⟨c', margin, topN⟩ :=
    Account.cpuChart_congr h margin topN inside
  have cpus : c.logicalCpus cgroupAccount.sectionName = c'.logicalCpus cgroupAccount.sectionName :=
    h.toAgreeOn.logicalCpus inside
  simp only [cgroupProcessor, Account.charts, each, cpus, cgroupBusyChart, h.readings inside,
    h.header]

theorem systemMemory_congr (inside : systemMemorySection ∈ names) :
    systemMemory ⟨c, margin, topN⟩ = systemMemory ⟨c', margin, topN⟩ := by
  simp only [systemMemory, h.toAgreeOn.templateSection? inside, h.readings inside, Context.hostname,
    h.header]

theorem cgroupMemory_congr (inside : cgroupMemorySection ∈ names) :
    cgroupMemory ⟨c, margin, topN⟩ = cgroupMemory ⟨c', margin, topN⟩ := by
  simp only [cgroupMemory, h.toAgreeOn.hasSection inside, h.readings inside, Context.names, h.header]

theorem network_congr {name : String} (source : Chart.Source) (origin : String)
    (inside : name ∈ names) :
    network ⟨c, margin, topN⟩ name source origin = network ⟨c', margin, topN⟩ name source origin := by
  have each : trafficChart ⟨c, margin, topN⟩ name source origin
      = trafficChart ⟨c', margin, topN⟩ name source origin := by
    funext devices t
    simp only [trafficChart, h.readings inside, Context.hostname, h.header]
  simp only [network, h.toAgreeOn.sectionKeys inside, each]

theorem disks_congr (inside : disksSection ∈ names) :
    disks ⟨c, margin, topN⟩ = disks ⟨c', margin, topN⟩ := by
  simp only [disks, h.toAgreeOn.sectionKeys inside, h.readings inside]

/-! ### The load -/

/-- The CPUs that the header lists are counted, and those of the template where it lists none. -/
theorem systemCpuCount_congr
    (inside : (c.header.cpus.getD []).isEmpty = true → statSection ∈ names) :
    systemCpuCount ⟨c, margin, topN⟩ = systemCpuCount ⟨c', margin, topN⟩ := by
  unfold systemCpuCount
  by_cases unlisted : (c.header.cpus.getD []).isEmpty = true
  · simp only [h.toAgreeOn.logicalCpus (inside unlisted), h.header]
  · obtain ⟨n, listed⟩ : ∃ n, c.header.cpuCount? = some n := by
      cases cpus : c.header.cpus with
      | none => simp [cpus] at unlisted
      | some entries =>
        refine ⟨entries.length, ?_⟩
        rw [Header.cpuCount?, cpus, Option.map_some]
        simpa [cpus, List.length_pos_iff] using unlisted
    have listed' : c'.header.cpuCount? = some n := h.header ▸ listed
    simp only [listed, listed', Option.getD_some]

theorem load_congr (inside : loadSection ∈ names)
    (counted : (c.header.cpus.getD []).isEmpty = true → statSection ∈ names) :
    load ⟨c, margin, topN⟩ = load ⟨c', margin, topN⟩ := by
  have cpus := systemCpuCount_congr h margin topN counted
  unfold load
  rw [cpus]
  rw [h.toAgreeOn.hasSection inside, h.readings inside]
  dsimp only [Context.hostname]
  rw [h.header]

/-! ### Tasks -/

omit h [Orders] in
/-- The ranking reads the tasks of the samples with readings, and nothing else. -/
theorem ofCapture_congr (h : AgreeOn names c c') (inside : tasksSection ∈ names) :
    Ranking.ofCapture c topN = Ranking.ofCapture c' topN := by
  have alike := h.map_section? inside
  have sightings (c : Capture) : Ranking.sightings c
      = (c.dataSamples.map (·.section? tasksSection)).flatMap fun tasks =>
        ((tasks.map Task.entries).getD []).map
          fun entry => (entry.1, Task.ofEntry entry.1 entry.2) := by
    rw [List.flatMap_map]
    rfl
  have invalid (c : Capture) : (c.dataSamples.countP fun s => ¬ s.hasSection tasksSection)
      = (c.dataSamples.map (·.section? tasksSection)).countP fun tasks => ¬ tasks.isSome := by
    rw [List.countP_map]
    rfl
  simp only [Ranking.ofCapture, sightings, invalid, alike]

/-- The row of a reading takes the throttling from its own sample, which is not the first one. -/
theorem usageRows_congr (r : Ranking) (quota : Option Number) (tasks : tasksSection ∈ names)
    (accounting : accountingSection ∈ names) :
    (readings c tasksSection).mapM (usageRow ⟨c, margin, topN⟩ r quota)
      = (readings c' tasksSection).mapM (usageRow ⟨c', margin, topN⟩ r quota) := by
  rw [← h.readings tasks]
  apply mapM_congr
  intro reading inside
  obtain ⟨-, late, -⟩ := sample_of_mem_readings inside
  have bounds : usageBounds ⟨c, margin, topN⟩ quota reading
      = usageBounds ⟨c', margin, topN⟩ quota reading := by
    cases quota with
    | none => rfl
    | some quota =>
      exact h.sampleAt_bind accounting late fun stats =>
        pure [Number.larger (quota - (Orders.usage reading.index).sum (usage reading.fields)) 0,
          (stats.map throttlingPercent).getD 0]
  rw [usageRow, usageRow, bounds]

/-- The row of a reading takes the counters of memory from its own sample. -/
theorem memoryRows_congr (mains : List TaskId) (limit : Option Number)
    (tasks : tasksSection ∈ names) (memory : cgroupMemorySection ∈ names) :
    (readings c tasksSection).mapM (memoryRow ⟨c, margin, topN⟩ mains limit)
      = (readings c' tasksSection).mapM (memoryRow ⟨c', margin, topN⟩ mains limit) := by
  rw [← h.readings tasks]
  apply mapM_congr
  intro reading inside
  obtain ⟨-, late, -⟩ := sample_of_mem_readings inside
  have counters : Context.names ⟨c, margin, topN⟩ = Context.names ⟨c', margin, topN⟩ := by
    rw [Context.names, Context.names, h.header]
  have bounds : memoryBounds ⟨c, margin, topN⟩ limit reading
      = memoryBounds ⟨c', margin, topN⟩ limit reading := by
    cases limit with
    | none => rfl
    | some limit =>
      rw [memoryBounds, memoryBounds, counters]
      exact h.sampleAt_bind memory late fun stats =>
        pure [Number.larger (limit - (stats.bind (charged? (Context.names ⟨c', margin, topN⟩))).getD
            ((Orders.memory reading.index).sum (processMemory reading.fields))) 0,
          (stats.bind (Capture.lookupNumber? ·
            (Context.names ⟨c', margin, topN⟩).allocFailures)).getD 0]
  rw [memoryRow, memoryRow, bounds]

theorem topTasks_congr (tasks : tasksSection ∈ names) (accounting : accountingSection ∈ names)
    (memory : cgroupMemorySection ∈ names) :
    topTasks ⟨c, margin, topN⟩ = topTasks ⟨c', margin, topN⟩ := by
  have ranking := ofCapture_congr topN h.toAgreeOn tasks
  have usages (r : Ranking) : usageChart ⟨c, margin, topN⟩ r = usageChart ⟨c', margin, topN⟩ r := by
    simp only [usageChart, h.header, usageRows_congr h margin topN _ _ tasks accounting]
  have memories (r : Ranking) :
      memoryChart ⟨c, margin, topN⟩ r = memoryChart ⟨c', margin, topN⟩ r := by
    simp only [memoryChart, h.header, memoryRows_congr h margin topN _ _ tasks memory]
  have flows (r : Ranking) : flowChart ⟨c, margin, topN⟩ r = flowChart ⟨c', margin, topN⟩ r := by
    simp only [flowChart, h.readings tasks]
  have bubbles (r : Ranking) : bubbleChart ⟨c, margin, topN⟩ r = bubbleChart ⟨c', margin, topN⟩ r :=
    rfl
  simp only [topTasks, ranking, bubbles, usages, memories, flows]

/-- Every topic reads its own sections and nothing else. -/
theorem Topic.charts_congr (topic : Topic) (reads : ∀ name ∈ topic.sections c.header, name ∈ names) :
    topic.charts ⟨c, margin, topN⟩ = topic.charts ⟨c', margin, topN⟩ := by
  cases topic with
  | cgroupProcessor => exact cgroupProcessor_congr h margin topN (reads _ (by simp [sections]))
  | cgroupMemory => exact cgroupMemory_congr h margin topN (reads _ (by simp [sections]))
  | cgroupNetwork => exact network_congr h margin topN _ _ (reads _ (by simp [sections]))
  | topTasks =>
    exact topTasks_congr h margin topN (reads _ (by simp [sections])) (reads _ (by simp [sections]))
      (reads _ (by simp [sections]))
  | systemProcessor => exact systemProcessor_congr h margin topN (reads _ (by simp [sections]))
  | systemMemory => exact systemMemory_congr h margin topN (reads _ (by simp [sections]))
  | systemNetwork => exact network_congr h margin topN _ _ (reads _ (by simp [sections]))
  | disks => exact disks_congr h margin topN (reads _ (by simp [sections]))
  | load =>
    refine load_congr h margin topN (reads _ (by simp [sections])) fun unlisted => ?_
    exact reads _ (by simp [sections, unlisted])

end

/-! ### Statistics -/

theorem ofSamples_congr {c c' : Capture} {read : Capture.Sample → Option Number}
    (same : c.dataSamples.map read = c'.dataSamples.map read) (unit : String) (collected : Bool) :
    Statistics.Quantity.ofSamples unit collected read c.dataSamples
      = Statistics.Quantity.ofSamples unit collected read c'.dataSamples := by
  have values (samples : List Capture.Sample) :
      samples.filterMap read = (samples.map read).filterMap id := by
    rw [List.filterMap_map]
    rfl
  have skipped (samples : List Capture.Sample) :
      (samples.countP fun s => (read s).isNone) = (samples.map read).countP Option.isNone := by
    rw [List.countP_map]
    rfl
  simp only [Statistics.Quantity.ofSamples, values, skipped, same]

/-- The statistics read the header and the accounting of CPU time and memory. -/
theorem statistics_congr {c c' : Capture} (header : c.header = c'.header)
    (h : AgreeOn [accountingSection, cgroupMemorySection] c c') (least : Nat) :
    Statistics.ofCapture least c = Statistics.ofCapture least c' := by
  have accounting : ∀ index, firstReading ≤ index → ∀ s s', c.samples[index]? = some s →
      c'.samples[index]? = some s' → s.section? accountingSection = s'.section? accountingSection :=
    fun index late s s' found found' => h.sections index late s s' found found' _ (by simp)
  have memory : ∀ index, firstReading ≤ index → ∀ s s', c.samples[index]? = some s →
      c'.samples[index]? = some s' →
        s.section? cgroupMemorySection = s'.section? cgroupMemorySection :=
    fun index late s s' found found' => h.sections index late s s' found found' _ (by simp)
  have cpu : c.dataSamples.map Statistics.cpuReading = c'.dataSamples.map Statistics.cpuReading :=
    Capture.map_dataSamples h.count fun index late s s' found found' => by
      rw [Statistics.cpuReading, Statistics.cpuReading, accounting index late s s' found found']
  have throttle : c.dataSamples.map Statistics.throttleReading
      = c'.dataSamples.map Statistics.throttleReading :=
    Capture.map_dataSamples h.count fun index late s s' found found' => by
      rw [Statistics.throttleReading, Statistics.throttleReading,
        accounting index late s s' found found']
  have counter (name : String) : c.dataSamples.map (Statistics.memoryReading name)
      = c'.dataSamples.map (Statistics.memoryReading name) :=
    Capture.map_dataSamples h.count fun index late s s' found found' => by
      rw [Statistics.memoryReading, Statistics.memoryReading, memory index late s s' found found']
  have analyzed : c.dataSamples.length = c'.dataSamples.length := by
    rw [Capture.dataSamples, Capture.dataSamples, List.length_drop, List.length_drop, h.count]
  have there : accountingSection ∈ [accountingSection, cgroupMemorySection] := by simp
  have there' : cgroupMemorySection ∈ [accountingSection, cgroupMemorySection] := by simp
  simp only [Statistics.ofCapture, h.count, header, h.templateSection? there, h.hasSection there',
    analyzed, ofSamples_congr cpu, ofSamples_congr throttle, ofSamples_congr (counter _)]

/-! ### Independence -/

/-- The first sample and the sections that a topic does not read never change its charts, but what is
left of a quota or of a limit may differ in runs with other orders. The ranking of tasks reads the
tasks alone, and the statistics read the accounting of CPU time and memory. -/
theorem results_of_agreement (c c' : Capture) :
    (∀ (topic : Topic) (margin : MarginPolicy) (topN : Nat) (orders : Orders),
      ReadAlike (topic.sections c.header) c c' →
        topic.charts { capture := c, margin, topN, orders }
            = topic.charts { capture := c', margin, topN, orders }
        ∧ ∀ orders', topic.SameCharts { capture := c, margin, topN, orders }
          { capture := c', margin, topN, orders := orders' })
    ∧ (∀ topN, AgreeOn [tasksSection] c c' →
      Ranking.ofCapture c topN = Ranking.ofCapture c' topN)
    ∧ ∀ least, c.header = c'.header → AgreeOn [accountingSection, cgroupMemorySection] c c' →
      Statistics.ofCapture least c = Statistics.ofCapture least c' := by
  refine ⟨fun topic margin topN orders h => ?_, fun topN h => ?_, fun least header h => ?_⟩
  · have equal (orders : Orders) : topic.charts { capture := c, margin, topN, orders }
        = topic.charts { capture := c', margin, topN, orders } :=
      topic.charts_congr h margin topN fun name inside => inside
    exact ⟨equal orders, fun orders' => .of_eq (equal orders').symm⟩
  · exact ofCapture_congr topN h (List.mem_singleton_self _)
  · exact statistics_congr header h least

/-- A capture with a load of one, whose header and whose samples list the given CPUs. -/
def loadedCapture (listed : Option (Json.Fields Capture.CpuInfo)) (cpus : List String) : Capture where
  header := { cpus := listed }
  samples := [⟨cpus.map (·, .null)⟩,
    ⟨[("timestamp", .object [("UTC", .string "2022-01-18T00:02:48")]),
      ("proc_loadavg", .object [("load_avg_1min", .integer 1), ("load_avg_5min", .integer 1),
        ("load_avg_15min", .integer 1)]),
      ("stat", .object (cpus.map (·, .object [])))]⟩]

theorem loadedCapture_alike (listed : Option (Json.Fields Capture.CpuInfo)) (cpus : List String) :
    ReadAlike [loadSection] (loadedCapture listed cpus) (loadedCapture listed []) := by
  have second (index : Nat) (late : firstReading ≤ index) (s s' : Capture.Sample)
      (found : (loadedCapture listed cpus).samples[index]? = some s)
      (found' : (loadedCapture listed []).samples[index]? = some s') :
      s.section? loadSection = s'.section? loadSection ∧ s.utc? = s'.utc? := by
    match index with
    | 0 => simp [firstReading] at late
    | 1 =>
      obtain rfl := Option.some.inj found
      obtain rfl := Option.some.inj found'
      exact ⟨rfl, rfl⟩
    | index + 2 => simp [loadedCapture] at found
  refine ⟨⟨rfl, fun index late s s' found found' name inside => ?_⟩, rfl,
    fun index late s s' found found' => ?_⟩
  · rw [List.mem_singleton.1 inside]
    exact (second index late s s' found found').1
  · exact (second index late s s' found found').2

/-- With a CPU in the header the load is the same whatever CPUs the samples list. -/
theorem load_of_listed_cpu :
    ReadAlike (Topic.load.sections (loadedCapture (some [("0", {})]) []).header)
      (loadedCapture (some [("0", {})]) ["cpu0", "cpu1"]) (loadedCapture (some [("0", {})]) [])
    ∧ Topic.load.charts ⟨loadedCapture (some [("0", {})]) ["cpu0", "cpu1"], {}, 20⟩
      = Topic.load.charts ⟨loadedCapture (some [("0", {})]) [], {}, 20⟩ :=
  have alike := loadedCapture_alike (some [("0", {})]) ["cpu0", "cpu1"]
  have same := results_of_agreement (loadedCapture (some [("0", {})]) ["cpu0", "cpu1"])
    (loadedCapture (some [("0", {})]) [])
  ⟨alike, (same.1 .load {} 20 .arrival alike).1⟩

/-- A header whose section `cpuinfo` is there but empty does not keep the section `stat` from being
read. -/
theorem load_of_empty_cpuinfo :
    (loadedCapture (some []) ["cpu0", "cpu1"]).header.cpus.isSome = true
    ∧ ReadAlike [loadSection] (loadedCapture (some []) ["cpu0", "cpu1"]) (loadedCapture (some []) [])
    ∧ Topic.load.charts ⟨loadedCapture (some []) ["cpu0", "cpu1"], {}, 20⟩
      ≠ Topic.load.charts ⟨loadedCapture (some []) [], {}, 20⟩ := by
  refine ⟨rfl, loadedCapture_alike _ _, fun same => ?_⟩
  have two : systemCpuCount ⟨loadedCapture (some []) ["cpu0", "cpu1"], {}, 20⟩ = 2 := by
    unfold systemCpuCount Capture.logicalCpus
    rw [List.length_mergeSort]
    decide +kernel
  have one : systemCpuCount ⟨loadedCapture (some []) [], {}, 20⟩ = 1 := by
    unfold systemCpuCount Capture.logicalCpus
    rw [List.length_mergeSort]
    decide +kernel
  have differ : cells (load ⟨loadedCapture (some []) ["cpu0", "cpu1"], {}, 20⟩)
      ≠ cells (load ⟨loadedCapture (some []) [], {}, 20⟩) := by
    intro equal
    have bits := congrArg (List.map Number.bits) equal
    unfold load at bits
    rw [two, one] at bits
    exact absurd bits (by decide +kernel)
  exact differ (congrArg cells same)

end UsageReport.Metric
