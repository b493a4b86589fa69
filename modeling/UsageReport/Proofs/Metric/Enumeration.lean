import Mathlib
import UsageReport.Proofs.Capture.Agree
import UsageReport.Proofs.Metric.Flow
import UsageReport.Proofs.Metric.Processes
import UsageReport.Proofs.Metric.Runs
import UsageReport.Proofs.Metric.Total

/-! The order in which the tasks of a sample are enumerated. It decides in which order the CPU time
of tasks and the memory of processes are added up, so that what these leave of a limit is the same
for every order where the sums are exact. -/

namespace UsageReport.Metric

open UsageReport.Capture (ReadAlike Sample firstReading)
open UsageReport.Json (Object)
open UsageReport.Json.Fields (lookup_eq_some_iff_mem)
open UsageReport.Number (Exact foldl_larger_perm larger sum)

/-! ### Values under keys -/

namespace Keyed

variable {κ α : Type} [DecidableEq κ]

theorem update_of_not_mem {entries : Keyed κ α} {key : κ} (new : key ∉ entries.map Prod.fst)
    (f : Option α → α) : entries.update key f = entries ++ [(key, f none)] := by
  induction entries with
  | nil => rfl
  | cons entry rest ih =>
    rw [List.map_cons, List.mem_cons, not_or] at new
    rw [update, if_neg (Ne.symm new.1), ih new.2]
    rfl

theorem latest_of_nodup {pairs : List (κ × α)} (once : (pairs.map Prod.fst).Nodup) :
    latest pairs = pairs := by
  induction pairs using List.reverseRecOn with
  | nil => rfl
  | append_singleton pairs pair ih =>
    obtain ⟨key, a⟩ := pair
    rw [List.map_append, List.nodup_append] at once
    obtain ⟨before, -, apart⟩ := once
    have new : key ∉ pairs.map Prod.fst := fun inside => apart key inside key (by simp) rfl
    rw [latest_concat, ih before, put, update_of_not_mem new]

theorem values_eq {entries : Keyed κ α} (once : (entries.map Prod.fst).Nodup) (other : α) :
    entries.map Prod.snd
      = (entries.map Prod.fst).map fun key => (List.lookup key entries).getD other := by
  rw [List.map_map]
  refine List.map_congr_left fun entry inside => ?_
  obtain ⟨key, a⟩ := entry
  rw [Function.comp_apply, (lookup_eq_some_iff_mem once).2 inside, Option.getD_some]

end Keyed

/-! ### Tasks in another order -/

theorem entries_perm {tasks tasks' : Object} (same : tasks.Perm tasks') :
    (Task.entries tasks).Perm (Task.entries tasks') := same.filterMap _

theorem ListedOnce.perm {tasks tasks' : Object} (once : ListedOnce tasks)
    (same : tasks.Perm tasks') : ListedOnce tasks' :=
  ((entries_perm same).map Prod.fst).nodup_iff.1 once

theorem usage_eq {tasks : Object} (once : ListedOnce tasks) :
    usage tasks = (Task.entries tasks).map fun (id, fields) =>
      (id, (Capture.number? fields "cpu_tot").getD 0) := by
  apply Keyed.latest_of_nodup
  rw [List.map_map]
  exact once

theorem usages_perm {tasks tasks' : Object} (once : ListedOnce tasks)
    (same : tasks.Perm tasks') : (usages tasks).Perm (usages tasks') := by
  rw [usages, usages, usage_eq once, usage_eq (once.perm same)]
  exact ((entries_perm same).map _).map _

theorem memories_perm {tasks tasks' : Object} (same : tasks.Perm tasks') (id : TaskId) :
    (memories tasks id).Perm (memories tasks' id) :=
  ((entries_perm same).filter _).map _

theorem keys_processMemory (tasks : Object) :
    (processMemory tasks).map Prod.fst = ((Task.entries tasks).map processOf).eraseDups :=
  Keyed.keys_foldl_update processOf
    (fun entry known => larger (known.getD 0) (Task.rss entry.2)) (Task.entries tasks)

theorem processMemories_eq (tasks : Object) : processMemories tasks
    = ((Task.entries tasks).map processOf).eraseDups.map fun id =>
      (memories tasks id).foldl larger 0 := by
  have once : ((processMemory tasks).map Prod.fst).Nodup := by
    rw [keys_processMemory]
    exact nodup_eraseDups _
  rw [processMemories, Keyed.values_eq once 0, keys_processMemory]
  exact List.map_congr_left fun id _ => lookup_processMemory tasks id

theorem processMemories_perm {tasks tasks' : Object} (same : tasks.Perm tasks') :
    (processMemories tasks).Perm (processMemories tasks') := by
  have ids : ((Task.entries tasks).map processOf).eraseDups.Perm
      ((Task.entries tasks').map processOf).eraseDups := by
    rw [List.perm_ext_iff_of_nodup (nodup_eraseDups _) (nodup_eraseDups _)]
    intro id
    rw [List.mem_eraseDups, List.mem_eraseDups]
    exact ((entries_perm same).map processOf).mem_iff
  have cells (id : TaskId) : (memories tasks id).foldl larger 0
      = (memories tasks' id).foldl larger 0 := foldl_larger_perm (memories_perm same id)
  rw [processMemories_eq, processMemories_eq]
  simp only [cells]
  exact ids.map _

/-! ### Captures -/

/-- The captures are alike but for the order of the tasks of each sample. -/
structure Reordered (c c' : Capture) : Prop
    extends ReadAlike [accountingSection, cgroupMemorySection] c c' where
  tasks : ∀ index, firstReading ≤ index → ∀ s s', c.samples[index]? = some s →
    c'.samples[index]? = some s' →
    Option.Rel List.Perm (s.section? tasksSection) (s'.section? tasksSection)

/-- Readings of the samples at one index, with the same tasks. -/
structure SameTasks (r r' : Reading) : Prop where
  index : r.index = r'.index
  time : r.time = r'.time
  fields : r.fields.Perm r'.fields

variable {c c' : Capture}

theorem Reordered.reading? (same : Reordered c c') {index : Nat} (late : firstReading ≤ index)
    {s s' : Sample} (there : c.samples[index]? = some s) (there' : c'.samples[index]? = some s') :
    Option.Rel SameTasks (reading? tasksSection s index) (reading? tasksSection s' index) := by
  have tasks := same.tasks index late s s' there there'
  unfold Metric.reading?
  rw [← same.times index late s s' there there']
  generalize s.section? tasksSection = fields, s'.section? tasksSection = fields' at tasks ⊢
  cases s.utc? with
  | none => exact .none
  | some utc =>
    simp only [Option.bind_eq_bind, Option.bind_some]
    cases (Time.Instant.parse utc).toOption with
    | none => exact .none
    | some time =>
      cases tasks with
      | none => exact .none
      | some perm => exact .some ⟨rfl, rfl, perm⟩

/-- The readings are those of the same samples, each with the same tasks. -/
theorem Reordered.readings (same : Reordered c c') :
    List.Forall₂ SameTasks (readings c tasksSection) (readings c' tasksSection) := by
  have aligned : List.Forall₂
      (fun (p p' : Sample × Nat) => Option.Rel SameTasks (Metric.reading? tasksSection p.1 p.2)
        (Metric.reading? tasksSection p'.1 p'.2)) c.indexedSamples c'.indexedSamples :=
    Capture.forall₂_indexedSamples same.count fun _ late _ _ there there' =>
      same.reading? late there there'
  exact List.rel_filterMap (fun _ _ related => related) aligned

theorem Reordered.seesTask (same : Reordered c c') : seesTask c = seesTask c' := by
  have alike : c.dataSamples.map (fun s => ((s.section? tasksSection).getD []).any isTask)
      = c'.dataSamples.map fun s => ((s.section? tasksSection).getD []).any isTask := by
    refine Capture.map_dataSamples same.count fun index late s s' there there' => ?_
    have tasks := same.tasks index late s s' there there'
    generalize s.section? tasksSection = fields, s'.section? tasksSection = fields' at tasks ⊢
    cases tasks with
    | none => rfl
    | some perm => exact perm.any_eq
  have seen (c : Capture) : Metric.seesTask c = (c.dataSamples.map fun s =>
      ((s.section? tasksSection).getD []).any isTask).any id := by
    rw [List.any_map]
    rfl
  rw [seen, seen, alike]

theorem ranked_ne_nil (seen : seesTask c = true) (topN : Nat) :
    (Ranking.ofCapture c topN).ranked ≠ [] := by
  rw [Ne, ranked_eq_nil_iff, sightings_eq_nil_iff, seen]
  exact Bool.noConfusion

/-! ### Limits -/

theorem freeCurve_of_charged {c : Context} {reading : Reading} {charged : Number}
    (counted : chargedAt? c reading = some charged) (limit : Number) :
    (freeCurve c limit).cell reading = larger (limit - charged) 0 := by
  rw [cell_freeCurve, counted, Option.getD_some]

theorem freeCurve_of_processes {c : Context} {reading : Reading}
    (uncounted : chargedAt? c reading = none) (limit : Number) :
    (freeCurve c limit).cell reading = larger (limit
      - sum ((c.orders.memory reading.index).values (processMemories reading.fields))) 0 := by
  rw [cell_freeCurve, uncounted, Option.getD_none]

theorem TaskCharts.Show.idle_mem {charts : TaskCharts} {c : Context} {r : Ranking}
    (shows : charts.Show c r) {quota : Number}
    (bound : c.capture.header.cpuQuotaPercent? = some quota) :
    (⟨idleColumn, percent⟩, (readings c.capture tasksSection).map (idleCurve c quota).cell)
      ∈ charts.usage.columns := by
  have limits : usageLimits c = [idleCurve c quota, throttlingCurve c.capture] := by
    simp only [usageLimits, bound]
  rw [shows.usage.columns, limits, List.map_append]
  exact List.mem_append_right _ (.head _)

/-- What the limits leave in a reading is the same for every order in which its values may be
enumerated. -/
structure AnyOrder (c : Context) (r : Reading) : Prop where
  idle : ∀ quota values, c.capture.header.cpuQuotaPercent? = some quota →
    Exact (usages r.fields) → (usages r.fields).Perm values →
    (idleCurve c quota).cell r = larger (quota - sum values) 0
  free : ∀ limit values, c.capture.header.memoryLimit? = some limit → chargedAt? c r = none →
    Exact (processMemories r.fields) → (processMemories r.fields).Perm values →
    (freeCurve c limit).cell r = larger (limit - sum values) 0

theorem anyOrder (c : Context) (r : Reading) : AnyOrder c r where
  idle quota values bound exact same := by
    have own := exact.sub_sum (plain_quota bound) ((c.orders.usage r.index).perm _).symm
    rw [cell_idleCurve, ← own, exact.sub_sum (plain_quota bound) same]
  free limit values bound uncounted exact same := by
    have own := exact.sub_sum (plain_limit bound) ((c.orders.memory r.index).perm _).symm
    rw [freeCurve_of_processes uncounted, ← own, exact.sub_sum (plain_limit bound) same]

/-- What the limits add to the rows of two readings is the same. -/
structure SameLimits (c c' : Context) (r r' : Reading) : Prop where
  time : r.time = r'.time
  idle : ∀ quota, c.capture.header.cpuQuotaPercent? = some quota → Exact (usages r.fields) →
    (idleCurve c quota).cell r = (idleCurve c' quota).cell r'
  throttling : (throttlingCurve c.capture).cell r = (throttlingCurve c'.capture).cell r'
  free : ∀ limit, c.capture.header.memoryLimit? = some limit →
    ((chargedAt? c r).isSome ∨ Exact (processMemories r.fields)) →
    (freeCurve c limit).cell r = (freeCurve c' limit).cell r'
  failures : (failuresCurve c).cell r = (failuresCurve c').cell r'

theorem sameLimits {c c' : Context} (same : Reordered c.capture c'.capture) {r r' : Reading}
    (late : firstReading ≤ r.index) (once : ListedOnce r.fields) (tasks : SameTasks r r') :
    SameLimits c c' r r' := by
  obtain ⟨r', time, fields'⟩ := r'
  obtain ⟨rfl, rfl, perm⟩ := tasks
  have accounting := same.section_at (.head _) late
  have memory := same.section_at (.tail _ (.head _)) late
  have names : c.names = c'.names := by rw [Context.names, Context.names, same.header]
  constructor
  case time => rfl
  case idle =>
    intro quota bound exact
    rw [cell_idleCurve c']
    exact (anyOrder c r).idle quota _ bound exact
      ((usages_perm once perm).trans (Enumeration.perm _ _).symm)
  case throttling => simp only [throttlingCurve, accounting]
  case free =>
    intro limit bound known
    have charged : chargedAt? c r = chargedAt? c' ⟨r.index, r.time, fields'⟩ := by
      rw [chargedAt?, chargedAt?, memory, names]
    cases counted : chargedAt? c r with
    | some value =>
      rw [freeCurve_of_charged counted, freeCurve_of_charged (charged ▸ counted)]
    | none =>
      rw [counted] at known
      have exact := known.resolve_left Bool.noConfusion
      have uncounted : chargedAt? c' ⟨r.index, r.time, fields'⟩ = none := charged ▸ counted
      rw [freeCurve_of_processes uncounted]
      exact (anyOrder c r).free limit _ bound counted exact
        ((processMemories_perm perm).trans (Enumeration.perm _ _).symm)
  case failures => simp only [failuresCurve, memory, names]

/-! ### The charts -/

/-- What the limits leave does not depend on the order in which tasks are enumerated, where the sums
are exact. -/
theorem limits_in_any_order {c c' : Context} (same : Reordered c.capture c'.capture)
    (once : ∀ r ∈ readings c.capture tasksSection, ListedOnce r.fields)
    (seen : seesTask c.capture = true) :
    ∃ charts charts' : TaskCharts, topTasks c = .ok charts.list ∧ topTasks c' = .ok charts'.list
      ∧ charts.Show c (Ranking.ofCapture c.capture c.topN)
      ∧ charts'.Show c' (Ranking.ofCapture c'.capture c'.topN)
      ∧ (∀ r ∈ readings c.capture tasksSection, AnyOrder c r)
      ∧ List.Forall₂ (SameLimits c c') (readings c.capture tasksSection)
        (readings c'.capture tasksSection) := by
  obtain ⟨charts, made, shows⟩ := topTasks_of_some (ranked_ne_nil seen c.topN)
  obtain ⟨charts', made', shows'⟩ := topTasks_of_some (ranked_ne_nil (same.seesTask ▸ seen) c'.topN)
  refine ⟨charts, charts', made, made', shows, shows', fun r _ => anyOrder c r, ?_⟩
  obtain ⟨count, aligned⟩ := List.forall₂_iff_get.1 same.readings
  refine List.forall₂_iff_get.2 ⟨count, fun i inside inside' => ?_⟩
  have member := List.get_mem (readings c.capture tasksSection) ⟨i, inside⟩
  obtain ⟨-, late, -⟩ := sample_of_mem_readings member
  exact sameLimits same late (once _ member) (aligned i inside inside')

/-- A cgroup with limits and one sample of its tasks. -/
def limited (quota limit : Float) (tasks : Object) : Context where
  topN := 0
  capture := {
    header := { cgroup := some { cpuQuota := quota, memoryLimit := limit } }
    samples := [⟨[]⟩,
      ⟨[("timestamp", .object [("UTC", .string "2022-01-18T00:02:48")]),
        ("cgroup_tasks", .object tasks)]⟩] }

theorem reordered_limited (quota limit : Float) {tasks tasks' : Object}
    (same : tasks.Perm tasks') :
    Reordered (limited quota limit tasks).capture (limited quota limit tasks').capture where
  count := rfl
  header := rfl
  sections := by
    rintro (_ | _ | index) late s s' ⟨⟩ ⟨⟩ name inside
    · cases late
    · simp only [List.mem_cons, List.not_mem_nil, or_false] at inside
      rcases inside with rfl | rfl <;> rfl
  times := by
    rintro (_ | _ | index) late s s' ⟨⟩ ⟨⟩
    · cases late
    · rfl
  tasks := by
    rintro (_ | _ | index) late s s' ⟨⟩ ⟨⟩
    · cases late
    · exact .some same

/-- A task of its own process. -/
def taskEntry (id cpu rss : Nat) : String × Json.Value :=
  ("pid_" ++ toString id,
    .object [("cpu_tot", .integer cpu), ("mem_rss_bytes", .integer rss)])

def light : Object := [taskEntry 1 10 100, taskEntry 2 20 200]

theorem exact_light : Exact (usages light) ∧ Exact (processMemories light) := by
  have cpu : usages light = [10, 20] := Number.eq_of_bits (by decide +kernel)
  have rss : processMemories light = [100, 200] := Number.eq_of_bits (by decide +kernel)
  rw [cpu, rss]
  refine ⟨⟨0, wholeBytes, by decide, by decide, ?_, by decide +kernel⟩,
    ⟨0, wholeBytes, by decide, by decide, ?_, by decide +kernel⟩⟩
  · rw [List.forall_mem_cons, List.forall_mem_singleton]
    exact ⟨by decide +kernel, by decide +kernel⟩
  · rw [List.forall_mem_cons, List.forall_mem_singleton]
    exact ⟨by decide +kernel, by decide +kernel⟩

/-- Of 100 percent and 1000 bytes, two tasks leave 70 percent and 700 bytes. -/
theorem limits_in_any_order_light : ∃ (charts charts' : TaskCharts) (r r' : Reading),
    topTasks (limited 1 1000 light) = .ok charts.list
    ∧ topTasks (limited 1 1000 light.reverse) = .ok charts'.list
    ∧ readings (limited 1 1000 light).capture tasksSection = [r]
    ∧ readings (limited 1 1000 light.reverse).capture tasksSection = [r']
    ∧ (idleCurve (limited 1 1000 light) (.ofFloat 1 * 100)).cell r
      = (idleCurve (limited 1 1000 light.reverse) (.ofFloat 1 * 100)).cell r'
    ∧ (freeCurve (limited 1 1000 light) 1000).cell r
      = (freeCurve (limited 1 1000 light.reverse) 1000).cell r' := by
  have once : ∀ r ∈ readings (limited 1 1000 light).capture tasksSection, ListedOnce r.fields := by
    decide +kernel
  have seen : seesTask (limited 1 1000 light).capture = true := by decide +kernel
  obtain ⟨charts, charts', made, made', -, -, -, same⟩ := limits_in_any_order
    (reordered_limited 1 1000 (List.reverse_perm light).symm) once seen
  have fields : (readings (limited 1 1000 light).capture tasksSection).map Reading.fields
      = [light] := rfl
  obtain ⟨r, only, tasks⟩ := List.map_eq_singleton_iff.1 fields
  rw [only] at same
  obtain ⟨r', rest, limits, none, only'⟩ := List.forall₂_cons_left_iff.1 same
  obtain rfl := List.forall₂_nil_left_iff.1 none
  obtain ⟨exactUsage, exactMemory⟩ := exact_light
  refine ⟨charts, charts', r, r', made, made', only, only', ?_, ?_⟩
  · exact limits.idle _ rfl (tasks ▸ exactUsage)
  · exact limits.free _ rfl (.inr (tasks ▸ exactMemory))

/-- Two units are lost where they are added one by one to many. -/
def heavy : Object := [taskEntry 1 10000000000000000 0, taskEntry 2 1 0, taskEntry 3 1 0]

theorem idle_by_order : ∃ (c c' : Context) (charts charts' : TaskCharts) (idle idle' : Number),
    Reordered c.capture c'.capture
    ∧ (∀ r ∈ readings c.capture tasksSection, ListedOnce r.fields)
    ∧ topTasks c = .ok charts.list ∧ topTasks c' = .ok charts'.list
    ∧ (⟨idleColumn, percent⟩, [idle]) ∈ charts.usage.columns
    ∧ (⟨idleColumn, percent⟩, [idle']) ∈ charts'.usage.columns
    ∧ idle ≠ idle' := by
  let c := limited 200000000000000 1 heavy
  let c' := limited 200000000000000 1 heavy.reverse
  let quota : Number := .ofFloat 200000000000000 * 100
  have same := reordered_limited 200000000000000 1 (List.reverse_perm heavy).symm
  have once : ∀ r ∈ readings c.capture tasksSection, ListedOnce r.fields := by decide +kernel
  have seen : seesTask c.capture = true := by decide +kernel
  have bound : c.capture.header.cpuQuotaPercent? = some quota := rfl
  obtain ⟨charts, made, shows⟩ := topTasks_of_some (ranked_ne_nil seen c.topN)
  obtain ⟨charts', made', shows'⟩ :=
    topTasks_of_some (ranked_ne_nil (same.seesTask ▸ seen) c'.topN)
  have idle : (readings c.capture tasksSection).map (idleCurve c quota).cell
      = [10000000000000000] := Number.eq_of_bits (by decide +kernel)
  have idle' : (readings c'.capture tasksSection).map (idleCurve c' quota).cell
      = [9999999999999998] := Number.eq_of_bits (by decide +kernel)
  refine ⟨c, c', charts, charts', 10000000000000000, 9999999999999998, same, once, made, made', ?_,
    ?_, ?_⟩
  · rw [← idle]
    exact shows.idle_mem bound
  · rw [← idle']
    exact shows'.idle_mem bound
  · intro equal
    exact absurd (congrArg Number.bits equal) (by decide +kernel)

end UsageReport.Metric
