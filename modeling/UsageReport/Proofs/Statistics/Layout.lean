import Mathlib
import UsageReport.Proofs.Metric.Layout
import UsageReport.Proofs.Metric.Runs
import UsageReport.Proofs.Number.Packing
import UsageReport.Statistics.Basic

/-! The statistics of nested and of flat counters. The statistics look for the objects themselves,
so that they miss the CPU time and the throttling of flat counters. -/

namespace UsageReport.Statistics

open UsageReport.Capture (Sample lookupNumber?)
open UsageReport.Json (Object Value)
open UsageReport.Metric (CounterNames Orders Topic accountingSection cells cgroupMemorySection)

variable {c : Capture}

/-- Whether the totals of the CPU time are found in the template. -/
def hasTotals (c : Capture) : Bool :=
  ((c.templateSection? accountingSection).bind (·.lookup "cpu_tot")).isSome

/-- The quantities of a capture, by whether the template has totals of the CPU time. -/
theorem ofCapture_eq (least : Nat) (c : Capture) : ofCapture least c
    = if c.samples.length < least then .error ⟨c.samples.length, least⟩
      else .ok {
        analyzed := c.dataSamples.length
        cpu := .ofSamples "%" (hasTotals c) cpuReading c.dataSamples
        cpuThrottle := .ofSamples "%" (hasTotals c) throttleReading c.dataSamples
        memory := .ofSamples "bytes" (c.hasSection cgroupMemorySection)
          (memoryReading (CounterNames.ofVersion c.header.cgroupVersion).memoryUsed) c.dataSamples
        memoryFailures := .ofSamples "" (c.hasSection cgroupMemorySection)
          (memoryReading (CounterNames.ofVersion c.header.cgroupVersion).allocFailures)
          c.dataSamples } := rfl

/-- The template has an object with the totals of the CPU time. -/
def nestedTotals (c : Capture) : Bool :=
  ((c.templateSection? accountingSection).bind fun fields =>
    (fields.lookup "cpu_tot").bind Value.object?).isSome

/-- The sample has an object on throttling. -/
def nestedThrottling (s : Sample) : Bool :=
  ((s.section? accountingSection).bind fun fields =>
    (fields.lookup "throttling").bind Value.object?).isSome

/-- The statistics of the flat counters next to those of the nested ones. -/
structure FlatCounters (c : Capture) (nested flat : Statistics) : Prop where
  analyzed : flat.analyzed = nested.analyzed
  memory : flat.memory = nested.memory
  memoryFailures : flat.memoryFailures = nested.memoryFailures
  missed : nestedTotals c = true → flat.cpu = ⟨"%", [], 0⟩ ∧ flat.cpuThrottle = ⟨"%", [], 0⟩
  cpu : nestedTotals c = false → flat.cpu = nested.cpu
  cpuThrottle : nestedTotals c = false → (∀ s ∈ c.dataSamples, nestedThrottling s = false) →
    flat.cpuThrottle = nested.cpuThrottle

theorem ofSamples_flat {unit : String} {collected : Bool} {read : Sample → Option Number}
    (same : ∀ s ∈ c.dataSamples, read s.flat = read s) :
    Quantity.ofSamples unit collected read c.flat.dataSamples
      = .ofSamples unit collected read c.dataSamples := by
  have values : (c.dataSamples.map Sample.flat).filterMap read = c.dataSamples.filterMap read := by
    rw [List.filterMap_map]
    exact List.filterMap_congr same
  have skipped : (c.dataSamples.map Sample.flat).countP (fun s => (read s).isNone)
      = c.dataSamples.countP fun s => (read s).isNone := by
    rw [List.countP_map]
    exact List.countP_congr fun s inside => by rw [Function.comp_apply, same s inside]
  rw [Quantity.ofSamples, Quantity.ofSamples, c.dataSamples_flat, values, skipped]

theorem mem_samples {s : Sample} (inside : s ∈ c.dataSamples) : s ∈ c.samples :=
  List.mem_of_mem_drop inside

section
variable (distinct : c.Distinct) (layout : c.OneLayout)
include distinct layout

theorem cpuReading_flat {s : Sample} (inside : s ∈ c.samples) :
    cpuReading s.flat = cpuReading s := by
  refine Metric.bind_section_flat distinct layout inside _ _ fun fields sound => ?_
  have totals : "cpu_tot" ∈ nestedNames accountingSection := by decide
  have user := sound.lookupNumber? totals "user" (by decide)
  have system := sound.lookupNumber? totals "sys" (by decide)
  change lookupNumber? _ "cpu_tot.user" = lookupNumber? _ "cpu_tot.user" at user
  change lookupNumber? _ "cpu_tot.sys" = lookupNumber? _ "cpu_tot.sys" at system
  rw [user, system]

/-- A memory counter that is found in both layouts has the same statistics. -/
theorem memory_flat {unit path : String} (kept : ∀ fields,
    Metric.Sound cgroupMemorySection fields → Metric.Kept cgroupMemorySection fields path) :
    Quantity.ofSamples unit (c.flat.hasSection cgroupMemorySection) (memoryReading path)
        c.flat.dataSamples
      = .ofSamples unit (c.hasSection cgroupMemorySection) (memoryReading path)
        c.dataSamples := by
  rw [c.hasSection_flat]
  exact ofSamples_flat fun s inside =>
    Metric.bind_section_flat distinct layout (mem_samples inside) _ _ kept

/-- An object on throttling is missed where it is flat. -/
theorem throttleReading_flat_of_nested {s : Sample} (inside : s ∈ c.samples)
    (nested : nestedThrottling s = true) : throttleReading s.flat = none := by
  rw [nestedThrottling] at nested
  rw [throttleReading, s.section?_flat]
  cases found : s.section? accountingSection with
  | none => rfl
  | some fields =>
    rw [found, Option.bind_some] at nested
    have sound := Metric.sound_of_section distinct layout inside found
    have moved : "throttling" ∈ nestedNames accountingSection := by decide
    simp only [Option.map_some, Option.bind_eq_bind, Option.bind_some,
      sound.lookup_of_object moved nested]
    rfl

theorem throttleReading_flat {s : Sample} (inside : s ∈ c.samples)
    (other : nestedThrottling s = false) : throttleReading s.flat = throttleReading s := by
  rw [nestedThrottling] at other
  rw [throttleReading, throttleReading, s.section?_flat]
  cases found : s.section? accountingSection with
  | none => rfl
  | some fields =>
    rw [found, Option.bind_some] at other
    have sound := Metric.sound_of_section distinct layout inside found
    have moved : "throttling" ∈ nestedNames accountingSection := by decide
    simp only [Option.map_some, Option.bind_eq_bind, Option.bind_some,
      sound.lookup_of_other moved other, Metric.throttlingPercent_flat sound]

theorem sound_of_template {fields : Object}
    (found : c.templateSection? accountingSection = some fields) :
    Metric.Sound accountingSection fields := by
  obtain ⟨s, template, there⟩ := Option.bind_eq_some_iff.1 found
  exact Metric.sound_of_section distinct layout (List.mem_of_getElem? template) there

theorem hasTotals_flat :
    hasTotals c.flat = (hasTotals c && !nestedTotals c) := by
  rw [hasTotals, hasTotals, nestedTotals, c.templateSection?_flat]
  cases found : c.templateSection? accountingSection with
  | none => rfl
  | some fields =>
    have sound := sound_of_template distinct layout found
    have moved : "cpu_tot" ∈ nestedNames accountingSection := by decide
    rw [Option.map_some, Option.bind_some, Option.bind_some, Option.bind_some]
    cases object : ((fields.lookup "cpu_tot").bind Value.object?).isSome with
    | true =>
      rw [sound.lookup_of_object moved object]
      simp
    | false =>
      rw [sound.lookup_of_other moved object]
      simp

theorem ofCapture_flat (least : Nat) :
    (∃ fault, ofCapture least c = .error fault ∧ ofCapture least c.flat = .error fault)
    ∨ ∃ nested flat, ofCapture least c = .ok nested ∧ ofCapture least c.flat = .ok flat
      ∧ FlatCounters c nested flat := by
  have count : c.flat.samples.length = c.samples.length := List.length_map ..
  rw [ofCapture_eq, ofCapture_eq, count]
  by_cases few : c.samples.length < least
  · rw [if_pos few, if_pos few]
    exact .inl ⟨_, rfl, rfl⟩
  · rw [if_neg few, if_neg few]
    refine .inr ⟨_, _, rfl, rfl, ?_⟩
    have totals := hasTotals_flat distinct layout
    constructor
    case analyzed =>
      show c.flat.dataSamples.length = c.dataSamples.length
      rw [c.dataSamples_flat, List.length_map]
    case memory =>
      exact memory_flat distinct layout fun _ sound => (Metric.memoryCounters_flat sound _).1
    case memoryFailures =>
      exact memory_flat distinct layout fun _ sound => (Metric.memoryCounters_flat sound _).2.2
    case missed =>
      intro nested
      rw [nested, Bool.not_true, Bool.and_false] at totals
      rw [totals]
      exact ⟨rfl, rfl⟩
    case cpu =>
      intro other
      rw [other, Bool.not_false, Bool.and_true] at totals
      rw [totals]
      exact ofSamples_flat fun s inside => cpuReading_flat distinct layout (mem_samples inside)
    case cpuThrottle =>
      intro other unnested
      rw [other, Bool.not_false, Bool.and_true] at totals
      rw [totals]
      exact ofSamples_flat fun s inside =>
        throttleReading_flat distinct layout (mem_samples inside) (unnested s inside)

end

/-! ### Both layouts -/

/-- The charts of a cgroup are the same for nested and for flat counters, and so are the statistics
of memory. The statistics of the CPU time are missed where the template's totals are flat. -/
theorem layouts_of_counters {c : Capture} (distinct : c.Distinct) (layout : c.OneLayout) :
    (∀ topic ∈ [Topic.cgroupProcessor, .cgroupMemory, .topTasks],
      ∀ (margin : Chart.MarginPolicy) (topN : Nat) (orders : Orders),
        topic.charts { capture := c.flat, margin, topN, orders }
            = topic.charts { capture := c, margin, topN, orders }
        ∧ ∀ orders', topic.SameCharts { capture := c, margin, topN, orders }
          { capture := c.flat, margin, topN, orders := orders' })
    ∧ (∀ s ∈ c.samples, cpuReading s.flat = cpuReading s
        ∧ (s.flat.section? accountingSection).map Metric.throttlingPercent
          = (s.section? accountingSection).map Metric.throttlingPercent
        ∧ (nestedThrottling s = true → throttleReading s.flat = none))
    ∧ ∀ least, (∃ fault, ofCapture least c = .error fault ∧ ofCapture least c.flat = .error fault)
      ∨ ∃ nested flat, ofCapture least c = .ok nested ∧ ofCapture least c.flat = .ok flat
        ∧ FlatCounters c nested flat := by
  refine ⟨fun topic listed margin topN orders => ?_, fun _ inside => ?_,
    ofCapture_flat distinct layout⟩
  · have equal (orders : Orders) : topic.charts { capture := c.flat, margin, topN, orders }
        = topic.charts { capture := c, margin, topN, orders } := by
      simp only [List.mem_cons, List.not_mem_nil, or_false] at listed
      obtain rfl | rfl | rfl := listed
      · exact Metric.cgroupProcessor_flat distinct layout margin topN
      · exact Metric.cgroupMemory_flat distinct layout margin topN
      · exact Metric.topTasks_flat distinct layout margin topN
    exact ⟨equal orders, fun orders' => .of_eq (equal orders')⟩
  · exact ⟨cpuReading_flat distinct layout inside, Metric.throttling_flat distinct layout inside,
      throttleReading_flat_of_nested distinct layout inside⟩

/-- The sections of a cgroup with nested counters, and of its task. -/
def nestedSections : Object :=
  [("timestamp", .object [("UTC", .string "2022-01-18T00:02:48")]),
    ("cgroup_tasks", .object [("pid_1", .object [("cpu_tot", .integer 30)])]),
    ("cgroup_cpuacct_stats", .object [
      ("cpu0", .object [("user", .integer 10), ("sys", .integer 5)]),
      ("cpu_tot", .object [("user", .integer 10), ("sys", .integer 5)]),
      ("throttling", .object [("nr_periods", .integer 10), ("nr_throttled", .integer 5)])]),
    ("cgroup_memory_stats", .object [
      ("stat", .object [("rss", .integer 1000), ("cache", .integer 200)]),
      ("failcnt", .integer 2)])]

def nestedCounters : Capture where
  header := { cgroup := some { memoryLimit := 5000, cpuQuota := 1 } }
  samples := [⟨[]⟩, ⟨nestedSections⟩, ⟨nestedSections⟩]

theorem distinct_nestedCounters : nestedCounters.Distinct := by
  have whole (fields : List (String × Int)) (names : (fields.map Prod.fst).Nodup) :
      (Value.object (fields.map fun (name, n) => (name, .integer n))).Distinct := by
    refine .object (by rwa [List.map_map]) fun field inside => ?_
    obtain ⟨⟨name, n⟩, -, rfl⟩ := List.mem_map.1 inside
    exact .integer
  have time : (Value.object [("UTC", .string "2022-01-18T00:02:48")]).Distinct :=
    .object (by decide) (List.forall_mem_singleton.2 .string)
  have task := whole [("cpu_tot", 30)] (by decide)
  have totals := whole [("user", 10), ("sys", 5)] (by decide)
  have throttling := whole [("nr_periods", 10), ("nr_throttled", 5)] (by decide)
  have stat := whole [("rss", 1000), ("cache", 200)] (by decide)
  have sections : (Value.object nestedSections).Distinct := by
    refine .object (by decide) (List.forall_mem_cons.2 ⟨time, List.forall_mem_cons.2 ⟨?_,
      List.forall_mem_cons.2 ⟨?_, List.forall_mem_singleton.2 ?_⟩⟩⟩)
    · exact .object (by decide) (List.forall_mem_singleton.2 task)
    · refine .object (by decide) (List.forall_mem_cons.2 ⟨totals, List.forall_mem_cons.2 ?_⟩)
      exact ⟨totals, List.forall_mem_singleton.2 throttling⟩
    · refine .object (by decide) (List.forall_mem_cons.2 ⟨stat, ?_⟩)
      exact List.forall_mem_singleton.2 .integer
  refine List.forall_mem_cons.2 ⟨.object (by decide) nofun, List.forall_mem_cons.2 ⟨sections, ?_⟩⟩
  exact List.forall_mem_singleton.2 sections

theorem oneLayout_nestedCounters : nestedCounters.OneLayout :=
  Capture.oneLayout_of_dotless (by decide)

/-- Flat counters are charted as the nested ones. The statistics have 1000 bytes of memory for both,
but miss the CPU time of 15 percent and the throttling of 50 percent where they are flat. -/
theorem layouts_of_counters_small : ∃ nested flat, ofCapture 3 nestedCounters = .ok nested
    ∧ ofCapture 3 nestedCounters.flat = .ok flat
    ∧ nested.memory.values = [1000, 1000] ∧ flat.memory.values = [1000, 1000]
    ∧ nested.cpu.values = [15, 15] ∧ flat.cpu.values = []
    ∧ nested.cpuThrottle.values = [50, 50] ∧ flat.cpuThrottle.values = []
    ∧ cells (Metric.cgroupProcessor ⟨nestedCounters.flat, {}, 20⟩)
      = [10, 5, 10, 5, 15, 100, 50, 15, 100, 50]
    ∧ cells (Metric.cgroupMemory ⟨nestedCounters.flat, {}, 20⟩)
      = [1000, 200, 3800, 2, 1000, 200, 3800, 2]
    ∧ cells (Metric.topTasks ⟨nestedCounters.flat, {}, 20⟩)
      = [30, 70, 50, 30, 70, 50, 0, 3800, 2, 0, 3800, 2, 0, 0] := by
  obtain ⟨charts, -, statistics⟩ :=
    layouts_of_counters distinct_nestedCounters oneLayout_nestedCounters
  have processor := (charts .cgroupProcessor (by decide) {} 20 .arrival).1
  have memory := (charts .cgroupMemory (by decide) {} 20 .arrival).1
  have tasks := (charts .topTasks (by decide) {} 20 .arrival).1
  obtain ⟨fault, failed, -⟩ | ⟨nested, flat, made, made', alike⟩ := statistics 3
  · cases failed
  · obtain ⟨bytes, time, throttled⟩ : nested.memory.values = [1000, 1000]
        ∧ nested.cpu.values = [15, 15] ∧ nested.cpuThrottle.values = [50, 50] := by
      obtain rfl := Except.ok.inj made
      exact ⟨Number.eq_of_bits (by decide +kernel), Number.eq_of_bits (by decide +kernel),
        Number.eq_of_bits (by decide +kernel)⟩
    obtain ⟨noTime, noThrottling⟩ := alike.missed (by decide +kernel)
    refine ⟨nested, flat, made, made', bytes, by rw [alike.memory, bytes], time, by rw [noTime],
      throttled, by rw [noThrottling], ?_, ?_, ?_⟩
    · exact (congrArg cells processor).trans (Number.eq_of_bits (by decide +kernel))
    · exact (congrArg cells memory).trans (Number.eq_of_bits (by decide +kernel))
    · exact (congrArg cells tasks).trans (Number.eq_of_bits (by decide +kernel))

/-- The CPU time of nested counters is 15 percent, that of flat ones is missed. -/
theorem nestedCounters_missed : ∃ nested flat, ofCapture 3 nestedCounters = .ok nested
    ∧ ofCapture 3 nestedCounters.flat = .ok flat ∧ nested.cpu.values = [15, 15]
    ∧ flat.cpu.values = [] := by
  refine ⟨_, _, rfl, rfl, Number.eq_of_bits (by decide +kernel), by decide +kernel⟩

end UsageReport.Statistics
