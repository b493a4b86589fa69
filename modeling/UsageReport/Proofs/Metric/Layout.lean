import Mathlib
import UsageReport.Metric.Topic
import UsageReport.Proofs.Capture.Flat
import UsageReport.Proofs.Capture.Loaded
import UsageReport.Proofs.Metric.Columns
import UsageReport.Proofs.Metric.Reading

/-! The charts of nested and of flat counters. Every counter of a cgroup is found in both layouts,
so that all charts are the same. -/

namespace UsageReport.Metric

open UsageReport.Capture (Sample lookupNumber? fieldOrZero)
open UsageReport.Json (Object Value Dotless flattened joined)
open UsageReport.Table (Row)

variable {c : Capture} {sectionName : String} {fields : Object}

def Reading.flat (name : String) (r : Reading) : Reading :=
  { r with fields := flattened (nestedNames name) r.fields }

theorem reading?_flat (name : String) (s : Sample) (index : Nat) :
    reading? name s.flat index = (reading? name s index).map (Reading.flat name) := by
  unfold reading?
  rw [s.utc?_flat, s.section?_flat]
  cases s.utc? with
  | none => rfl
  | some utc =>
    simp only [Option.bind_eq_bind, Option.bind_some]
    cases (Time.Instant.parse utc).toOption with
    | none => rfl
    | some time => cases s.section? name <;> rfl

theorem readings_flat (c : Capture) (name : String) :
    readings c.flat name = (readings c name).map (Reading.flat name) := by
  rw [readings, readings, c.indexedSamples_flat, List.filterMap_map, List.map_filterMap]
  exact List.filterMap_congr fun (s, index) _ => reading?_flat name s index

/-- A section without nested counters is read as it is. -/
theorem readings_flat_of_nil (c : Capture) {name : String} (none : nestedNames name = []) :
    readings c.flat name = readings c name := by
  have kept (r : Reading) : Reading.flat name r = r := by
    rw [Reading.flat, none, Json.flattened_nil]
  rw [readings_flat]
  exact (List.map_congr_left fun r _ => kept r).trans (List.map_id' _)

/-! ### Counters -/

/-- The fields have distinct names, and no counter is there in both layouts. -/
structure Sound (sectionName : String) (fields : Object) : Prop where
  distinct : fields.names.Nodup
  fresh : Fresh (nestedNames sectionName) fields

theorem sound_of_section (distinct : c.Distinct) (layout : c.OneLayout) {s : Sample}
    (inside : s ∈ c.samples) (found : s.section? sectionName = some fields) :
    Sound sectionName fields where
  distinct := by
    obtain ⟨v, named, object⟩ := Option.bind_eq_some_iff.1 found
    obtain rfl := Value.object?_eq_some object
    exact ((distinct s inside).field named).names
  fresh := layout s inside sectionName fields found

theorem sound_of_reading (distinct : c.Distinct) (layout : c.OneLayout) {r : Reading}
    (inside : r ∈ readings c sectionName) : Sound sectionName r.fields := by
  obtain ⟨s, -, there, found⟩ := sample_of_mem_readings inside
  exact sound_of_section distinct layout (List.mem_of_getElem? there) found

/-- A nested counter is found in both layouts. -/
theorem Sound.lookupNumber? (sound : Sound sectionName fields) {name : String}
    (moved : name ∈ nestedNames sectionName) (key : String) (dotless : Dotless key) :
    lookupNumber? (flattened (nestedNames sectionName) fields) (joined name key)
      = Capture.lookupNumber? fields (joined name key) :=
  Json.lookupNumber?_flattened (fun _ => dotless_nestedNames) moved dotless sound.distinct
    (sound.fresh name moved key)

/-- An object with counters is gone. -/
theorem Sound.lookup_of_object (sound : Sound sectionName fields) {name : String}
    (moved : name ∈ nestedNames sectionName)
    (object : ((fields.lookup name).bind Value.object?).isSome = true) :
    (flattened (nestedNames sectionName) fields).lookup name = none := by
  rw [Json.lookup_flattened_moved (fun _ => dotless_nestedNames) moved sound.distinct]
  obtain ⟨inner, counters⟩ := Option.isSome_iff_exists.1 object
  obtain ⟨v, found, known⟩ := Option.bind_eq_some_iff.1 counters
  rw [found, Option.filter_some, known]
  rfl

/-- What has the name of such an object and is none is left alone. -/
theorem Sound.lookup_of_other (sound : Sound sectionName fields) {name : String}
    (moved : name ∈ nestedNames sectionName)
    (other : ((fields.lookup name).bind Value.object?).isSome = false) :
    (flattened (nestedNames sectionName) fields).lookup name = fields.lookup name := by
  rw [Json.lookup_flattened_moved (fun _ => dotless_nestedNames) moved sound.distinct]
  cases found : fields.lookup name with
  | none => rfl
  | some v =>
    rw [found, Option.bind_some] at other
    rw [Option.filter_some, if_pos (by simpa using other)]

/-- A field that is not nested is left alone. -/
theorem lookup_flat {name : String} (kept : name ∉ nestedNames sectionName)
    (dotless : Dotless name) (fields : Object) :
    (flattened (nestedNames sectionName) fields).lookup name = fields.lookup name :=
  Json.lookup_flattened_of_ne kept fun name' _ key => dotless.ne_joined name' key

theorem throttlingPercent_flat (sound : Sound accountingSection fields) :
    throttlingPercent (flattened (nestedNames accountingSection) fields)
      = throttlingPercent fields := by
  have moved : "throttling" ∈ nestedNames accountingSection := by decide
  have periods := sound.lookupNumber? moved "nr_periods" (by decide)
  have throttled := sound.lookupNumber? moved "nr_throttled" (by decide)
  change lookupNumber? _ "throttling.nr_periods" = _ at periods
  change lookupNumber? _ "throttling.nr_throttled" = _ at throttled
  rw [throttlingPercent, periods, throttled]
  rfl

theorem nestedNames_accounting : nestedNames accountingSection = ["throttling", "cpu_tot"] := rfl

theorem cpuKey_kept (cpu : Capture.CpuIndex) :
    Dotless (Account.cpuKey cpu) ∧ Account.cpuKey cpu ∉ nestedNames accountingSection := by
  have characters : (Account.cpuKey cpu).toList = 'c' :: 'p' :: 'u' :: (toString cpu).toList := by
    rw [Account.cpuKey, String.toList_append]
    rfl
  have digits (c : Char) (other : c.isDigit = false) : c ∉ (toString cpu).toList := by
    intro inside
    rw [isDigit_of_mem_toString c inside] at other
    cases other
  constructor
  · rw [Dotless, characters]
    simp only [List.mem_cons, not_or]
    exact ⟨by decide, by decide, by decide, digits '.' rfl⟩
  · intro inside
    rw [nestedNames_accounting] at inside
    have underscore := digits '_' rfl
    rcases List.mem_cons.1 inside with same | inside
    · rw [same] at characters
      cases characters
    · rw [List.mem_singleton.1 inside] at characters
      have rest : ['_', 't', 'o', 't'] = (toString cpu).toList :=
        (List.cons.inj (List.cons.inj (List.cons.inj characters).2).2).2
      rw [← rest] at underscore
      simp at underscore

theorem value_flat (cpu : Capture.CpuIndex) (counter : Counter) (fields : Object) :
    Account.value (flattened (nestedNames accountingSection) fields) cpu counter
      = Account.value fields cpu counter := by
  obtain ⟨dotless, kept⟩ := cpuKey_kept cpu
  rw [Account.value, Account.value, fieldOrZero, fieldOrZero, lookup_flat kept dotless]

theorem cpuIndex?_of_nested {name : String} (moved : name ∈ nestedNames accountingSection) :
    Capture.cpuIndex? name = none ∧ ∀ key, Capture.cpuIndex? (joined name key) = none := by
  rw [nestedNames_accounting, List.mem_cons, List.mem_singleton] at moved
  obtain rfl | rfl := moved
  all_goals
    refine ⟨rfl, fun key => ?_⟩
    rw [Capture.cpuIndex?, Json.toList_joined]
    split <;> rfl

theorem logicalCpus_flat (c : Capture) :
    c.flat.logicalCpus accountingSection = c.logicalCpus accountingSection := by
  have keys : (c.flat.sectionKeys accountingSection).filterMap Capture.cpuIndex?
      = (c.sectionKeys accountingSection).filterMap Capture.cpuIndex? := by
    rw [Capture.sectionKeys, Capture.sectionKeys, c.templateSection?_flat]
    cases c.templateSection? accountingSection with
    | none => rfl
    | some fields =>
      exact Json.filterMap_names_flattened fun name moved => cpuIndex?_of_nested moved
  rw [Capture.logicalCpus, Capture.logicalCpus, keys]

/-- The counter is found in both layouts. -/
def Kept (sectionName : String) (fields : Object) (path : String) : Prop :=
  lookupNumber? (flattened (nestedNames sectionName) fields) path = lookupNumber? fields path

/-- The counters of memory are found in both layouts, whatever the version. -/
theorem memoryCounters_flat (sound : Sound cgroupMemorySection fields) (version : Nat) :
    Kept cgroupMemorySection fields (CounterNames.ofVersion version).memoryUsed
    ∧ Kept cgroupMemorySection fields (CounterNames.ofVersion version).memoryCached
    ∧ Kept cgroupMemorySection fields (CounterNames.ofVersion version).allocFailures := by
  have stat : "stat" ∈ nestedNames cgroupMemorySection := by decide
  have events : "events" ∈ nestedNames cgroupMemorySection := by decide
  have rss := sound.lookupNumber? stat "rss" (by decide)
  have cache := sound.lookupNumber? stat "cache" (by decide)
  have anon := sound.lookupNumber? stat "anon" (by decide)
  have file := sound.lookupNumber? stat "file" (by decide)
  have kills := sound.lookupNumber? events "oom_kill" (by decide)
  have failures : lookupNumber? (flattened (nestedNames cgroupMemorySection) fields) "failcnt"
      = lookupNumber? fields "failcnt" := by
    have dotless : Dotless "failcnt" := by decide
    have kept : "failcnt" ∉ nestedNames cgroupMemorySection := by decide
    rw [Json.lookupNumber?_dotless dotless, Json.lookupNumber?_dotless dotless,
      lookup_flat kept dotless]
  rw [CounterNames.ofVersion]
  split
  · exact ⟨anon, file, kills⟩
  · exact ⟨rss, cache, failures⟩

/-! ### Samples -/

theorem sampleAt_flat (c : Capture) (index : Nat) :
    sampleAt c.flat index = (sampleAt c index).map Sample.flat := by
  have there : c.flat.samples[index]? = c.samples[index]?.map Sample.flat := List.getElem?_map ..
  have length : c.flat.samples.length = c.samples.length := List.length_map ..
  rw [sampleAt, sampleAt, there, length]
  cases c.samples[index]? <;> rfl

theorem mem_of_sampleAt {index : Nat} {s : Sample} (there : sampleAt c index = .ok s) :
    s ∈ c.samples := by
  rw [sampleAt] at there
  split at there
  case h_1 found =>
    obtain rfl := Except.ok.inj there
    exact List.mem_of_getElem? found
  case h_2 => cases there

theorem ofCapture_flat (c : Capture) (topN : Nat) :
    Ranking.ofCapture c.flat topN = Ranking.ofCapture c topN := by
  have tasks (s : Sample) : s.flat.section? tasksSection = s.section? tasksSection :=
    s.section?_flat_of_nil (by decide)
  have sightings : Ranking.sightings c.flat = Ranking.sightings c := by
    simp only [Ranking.sightings, c.dataSamples_flat, List.flatMap_map, tasks]
  have invalid : (c.flat.dataSamples.countP fun s => ¬ s.hasSection tasksSection)
      = c.dataSamples.countP fun s => ¬ s.hasSection tasksSection := by
    rw [c.dataSamples_flat, List.countP_map]
    exact List.countP_congr fun s _ => by simp [Sample.hasSection, tasks]
  simp only [Ranking.ofCapture, sightings, invalid]

section
variable (distinct : c.Distinct) (layout : c.OneLayout)
include distinct layout

theorem map_readings_flat (name : String) {β : Type} (make : Reading → β)
    (same : ∀ r : Reading, Sound name r.fields → make (r.flat name) = make r) :
    (readings c.flat name).map make = (readings c name).map make := by
  rw [readings_flat, List.map_map]
  exact List.map_congr_left fun r inside => same r (sound_of_reading distinct layout inside)

theorem filterMap_readings_flat (name : String) {β : Type} (make : Reading → Option β)
    (same : ∀ r : Reading, Sound name r.fields → make (r.flat name) = make r) :
    (readings c.flat name).filterMap make = (readings c name).filterMap make := by
  rw [readings_flat, List.filterMap_map]
  exact List.filterMap_congr fun r inside => same r (sound_of_reading distinct layout inside)

/-- What is made from a section of a sample is the same for both layouts. -/
theorem bind_section_flat {s : Sample} (inside : s ∈ c.samples) (name : String) {β : Type}
    (make : Object → Option β) (same : ∀ fields, Sound name fields →
      make (flattened (nestedNames name) fields) = make fields) :
    (s.flat.section? name).bind make = (s.section? name).bind make := by
  rw [s.section?_flat]
  cases found : s.section? name with
  | none => rfl
  | some fields => exact same fields (sound_of_section distinct layout inside found)

theorem throttling_flat {s : Sample} (inside : s ∈ c.samples) :
    (s.flat.section? accountingSection).map throttlingPercent
      = (s.section? accountingSection).map throttlingPercent := by
  rw [Option.map_eq_bind, Option.map_eq_bind]
  exact bind_section_flat distinct layout inside _ _ fun fields sound =>
    congrArg some (throttlingPercent_flat sound)

/-! ### Charts -/

variable [Orders] (margin : Chart.MarginPolicy) (topN : Nat)

theorem cpuChart_flat (cpu : Capture.CpuIndex) :
    cgroupAccount.cpuChart ⟨c.flat, margin, topN⟩ cpu
      = cgroupAccount.cpuChart ⟨c, margin, topN⟩ cpu := by
  have rows := map_readings_flat distinct layout accountingSection
    (fun r => Row.mk r.time (cgroupAccount.counters.map (Account.value r.fields cpu)))
    fun r _ => congrArg (Row.mk r.time)
      (List.map_congr_left fun counter _ => value_flat cpu counter r.fields)
  unfold Account.cpuChart
  exact congrArg (fun rows => tabulate _ rows >>= _) rows

theorem cgroupBusyChart_flat (cpus : List Capture.CpuIndex) :
    cgroupBusyChart ⟨c.flat, margin, topN⟩ cpus = cgroupBusyChart ⟨c, margin, topN⟩ cpus := by
  have busy (r : Reading) (cpu : Capture.CpuIndex) :
      cgroupAccount.busyTime (r.flat accountingSection).fields cpu
        = cgroupAccount.busyTime r.fields cpu :=
    congrArg Number.sum (List.map_congr_left fun counter _ => value_flat cpu counter r.fields)
  have rows := map_readings_flat distinct layout accountingSection
    (fun r => Row.mk r.time (cpus.map (cgroupAccount.busyTime r.fields)
      ++ [c.header.cpuQuotaPercent?.getD unlimitedQuota, throttlingPercent r.fields]))
    fun r sound => by
      rw [List.map_congr_left fun cpu _ => busy r cpu, Reading.flat, throttlingPercent_flat sound]
  unfold cgroupBusyChart
  exact congrArg (fun rows => tabulate _ rows >>= _) rows

theorem cgroupProcessor_flat :
    cgroupProcessor ⟨c.flat, margin, topN⟩ = cgroupProcessor ⟨c, margin, topN⟩ := by
  have cpus : c.flat.logicalCpus cgroupAccount.sectionName
      = c.logicalCpus cgroupAccount.sectionName := logicalCpus_flat c
  have each := funext (cpuChart_flat distinct layout margin topN)
  have busy := funext (cgroupBusyChart_flat distinct layout margin topN)
  simp only [cgroupProcessor, Account.charts, cpus, each, busy]

theorem cgroupMemory_flat :
    cgroupMemory ⟨c.flat, margin, topN⟩ = cgroupMemory ⟨c, margin, topN⟩ := by
  have rows := filterMap_readings_flat distinct layout cgroupMemorySection
    (cgroupMemoryRow? (Context.names ⟨c, margin, topN⟩) c.header.memoryLimit?)
    fun r sound => by
      obtain ⟨used, cached, failures⟩ := memoryCounters_flat sound c.header.cgroupVersion
      unfold cgroupMemoryRow?
      rw [Kept] at used cached failures
      simp only [Context.names, Reading.flat, used, cached, failures]
  have header : c.flat.header = c.header := rfl
  have names : Context.names ⟨c.flat, margin, topN⟩ = Context.names ⟨c, margin, topN⟩ := rfl
  simp only [cgroupMemory, c.hasSection_flat, header, names, rows]

theorem usageBounds_flat (quota : Option Number) (r : Reading) :
    usageBounds ⟨c.flat, margin, topN⟩ quota r = usageBounds ⟨c, margin, topN⟩ quota r := by
  cases quota with
  | none => rfl
  | some quota =>
    simp only [usageBounds, sampleAt_flat]
    cases there : sampleAt c r.index with
    | error fault => rfl
    | ok s =>
      have throttling := throttling_flat distinct layout (mem_of_sampleAt there)
      simp only [Except.map, ok_bind, throttling]

theorem memoryBounds_flat (limit : Option Number) (r : Reading) :
    memoryBounds ⟨c.flat, margin, topN⟩ limit r = memoryBounds ⟨c, margin, topN⟩ limit r := by
  cases limit with
  | none => rfl
  | some limit =>
    simp only [memoryBounds, sampleAt_flat]
    cases there : sampleAt c r.index with
    | error fault => rfl
    | ok s =>
      have inside := mem_of_sampleAt there
      have charged := bind_section_flat distinct layout inside cgroupMemorySection
        (charged? (Context.names ⟨c, margin, topN⟩)) fun fields sound => by
          obtain ⟨used, cached, -⟩ := memoryCounters_flat sound c.header.cgroupVersion
          rw [Kept] at used cached
          simp only [charged?, Context.names, used, cached]
      have failures := bind_section_flat distinct layout inside cgroupMemorySection
        ((lookupNumber? · (Context.names ⟨c, margin, topN⟩).allocFailures))
        fun fields sound => (memoryCounters_flat sound c.header.cgroupVersion).2.2
      have names : Context.names ⟨c.flat, margin, topN⟩ = Context.names ⟨c, margin, topN⟩ := rfl
      simp only [Except.map, ok_bind, names, charged, failures]

theorem topTasks_flat :
    topTasks ⟨c.flat, margin, topN⟩ = topTasks ⟨c, margin, topN⟩ := by
  have ranking := ofCapture_flat c topN
  have tasks : readings c.flat tasksSection = readings c tasksSection :=
    readings_flat_of_nil c (by decide)
  have header : c.flat.header = c.header := rfl
  have usage : usageRow ⟨c.flat, margin, topN⟩ = usageRow ⟨c, margin, topN⟩ := by
    funext r quota reading
    simp only [usageRow, usageBounds_flat distinct layout]
  have memory : memoryRow ⟨c.flat, margin, topN⟩ = memoryRow ⟨c, margin, topN⟩ := by
    funext mains limit reading
    simp only [memoryRow, memoryBounds_flat distinct layout]
  simp only [topTasks, bubbleChart, usageChart, memoryChart, flowChart, ranking, tasks, header,
    usage, memory]

end

end UsageReport.Metric
