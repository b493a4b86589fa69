import Mathlib
import UsageReport.Proofs.Decimal.Natural
import UsageReport.Proofs.Json.Distinct
import UsageReport.Proofs.Json.Fields
import UsageReport.Proofs.Metric.TaskCharts
import UsageReport.Proofs.Number.Packing

/-! The ranking of tasks against the log of what was seen of them. A task has its place in the log
from its first entry and its counters from its last one, and the ranking is the only list of these
tasks by CPU time in which tasks of equal time keep the order of the log. -/

namespace UsageReport.Metric

open UsageReport.Capture (number?)
open UsageReport.Decimal (Spells natural? natural?_eq_some_iff)
open UsageReport.Json (Object Value)
open UsageReport.Number (totalLE totalLE_total totalLE_trans)

/-! ### What was put last -/

namespace Keyed

variable {κ α : Type} [DecidableEq κ] {key key' : κ} {a : α} {pairs : List (κ × α)}

/-- The last of the pairs with the key holds the value. -/
def Last (pairs : List (κ × α)) (key : κ) (a : α) : Prop :=
  ∃ front behind, pairs = front ++ (key, a) :: behind ∧ key ∉ behind.map Prod.fst

theorem latest_concat (pairs : List (κ × α)) (key : κ) (a : α) :
    latest (pairs ++ [(key, a)]) = (latest pairs).put key a := List.foldl_concat ..

theorem lookup_latest (pairs : List (κ × α)) (key : κ) :
    List.lookup key (latest pairs) = pairs.reverse.lookup key := by
  induction pairs using List.reverseRecOn with
  | nil => rfl
  | append_singleton pairs pair ih =>
    obtain ⟨key', a⟩ := pair
    rw [latest_concat, put, lookup_update, ih, List.reverse_concat, List.lookup_cons]
    by_cases same : key = key'
    · rw [if_pos same, same, beq_self_eq_true]
    · rw [if_neg same, beq_false_of_ne same]

theorem lookup_latest_eq_some_iff : List.lookup key (latest pairs) = some a ↔ Last pairs key a := by
  rw [lookup_latest, List.lookup_eq_some_iff]
  constructor
  · rintro ⟨behind, front, split, other⟩
    refine ⟨front.reverse, behind.reverse, ?_, fun inside => ?_⟩
    · rw [← List.reverse_inj, split]
      simp
    · obtain ⟨pair, member, rfl⟩ := List.mem_map.1 inside
      simpa using other pair (List.mem_reverse.1 member)
  · rintro ⟨front, behind, rfl, other⟩
    refine ⟨behind.reverse, front.reverse, by simp, fun pair inside => ?_⟩
    rw [bne_iff_ne]
    rintro rfl
    exact other (List.mem_map_of_mem (List.mem_reverse.1 inside))

/-- The keys stand in the order in which they came first. -/
theorem keys_foldl_update {ε : Type} (key : ε → κ) (f : ε → Option α → α) (entries : List ε) :
    (entries.foldl (fun all e => Keyed.update all (key e) (f e)) []).map Prod.fst
      = (entries.map key).eraseDups := by
  induction entries using List.reverseRecOn with
  | nil => rfl
  | append_singleton entries e ih =>
    rw [List.foldl_concat, keys_update, ih, List.map_append, List.map_singleton, eraseDups_concat]
    simp only [List.mem_eraseDups]

theorem keys_latest (pairs : List (κ × α)) :
    (latest pairs).map Prod.fst = (pairs.map Prod.fst).eraseDups :=
  keys_foldl_update Prod.fst (fun pair _ => pair.2) pairs

theorem mem_keys_latest : key ∈ (latest pairs).map Prod.fst ↔ key ∈ pairs.map Prod.fst := by
  rw [keys_latest, List.mem_eraseDups]

theorem pairwise_keys_latest (pairs : List (κ × α)) :
    ((latest pairs).map Prod.fst).Pairwise fun key key' =>
      (pairs.map Prod.fst).idxOf key < (pairs.map Prod.fst).idxOf key' := by
  rw [keys_latest]
  exact pairwise_eraseDups _

theorem nodup_keys_latest (pairs : List (κ × α)) : ((latest pairs).map Prod.fst).Nodup := by
  rw [keys_latest]
  exact nodup_eraseDups _

theorem mem_latest_iff : (key, a) ∈ latest pairs ↔ Last pairs key a := by
  rw [← Json.Fields.lookup_eq_some_iff_mem (nodup_keys_latest pairs), lookup_latest_eq_some_iff]

omit [DecidableEq κ] in
theorem Last.mem_keys (last : Last pairs key a) : key ∈ pairs.map Prod.fst := by
  obtain ⟨front, behind, rfl, -⟩ := last
  simp

theorem Last.unique {b : α} (last : Last pairs key a) (last' : Last pairs key b) : a = b := by
  rw [← lookup_latest_eq_some_iff] at last last'
  exact Option.some.inj (last.symm.trans last')

omit [DecidableEq κ] in
/-- Values that are made from their own pair are last where their pair is. -/
theorem last_map_iff {β : Type} {make : κ → α → β} {b : β} :
    Last (pairs.map fun (key, a) => (key, make key a)) key b
      ↔ ∃ a, Last pairs key a ∧ b = make key a := by
  constructor
  · rintro ⟨front, behind, split, new⟩
    obtain ⟨front', rest, rfl, rfl, split'⟩ := List.map_eq_append_iff.1 split
    obtain ⟨⟨key', a⟩, behind', rfl, same, rfl⟩ := List.map_eq_cons_iff.1 split'
    cases same
    rw [List.map_map] at new
    exact ⟨a, ⟨front', behind', rfl, new⟩, rfl⟩
  · rintro ⟨a, ⟨front, behind, rfl, new⟩, rfl⟩
    refine ⟨_, _, by rw [List.map_append, List.map_cons], ?_⟩
    rw [List.map_map]
    exact new

end Keyed

/-! ### Sorting -/

/-- Sorting leaves items that are equal for it in their order. -/
theorem pairwise_ties {α : Type} {le : α → α → Bool}
    (trans : ∀ a b c, le a b = true → le b c = true → le a c = true)
    (total : ∀ a b, (le a b || le b a) = true) {before : α → α → Prop} {items : List α}
    (order : items.Pairwise before) :
    (items.mergeSort le).Pairwise fun a b => le b a = true → before a b := by
  induction items with
  | nil => simp
  | cons a items ih =>
    obtain ⟨first, others⟩ := List.pairwise_cons.1 order
    -- The first item is put in front of all items that it equals.
    obtain ⟨lower, upper, whole, rest, less⟩ := List.mergeSort_cons trans total a items
    have sorted := ih others
    rw [rest] at sorted
    rw [whole, List.pairwise_append, List.pairwise_cons]
    obtain ⟨below, above, across⟩ := List.pairwise_append.1 sorted
    have behind (b : α) (inside : b ∈ upper) : before a b := by
      have member : b ∈ items.mergeSort le := rest ▸ List.mem_append_right lower inside
      exact first b (List.mem_mergeSort.1 member)
    refine ⟨below, ⟨fun b inside _ => behind b inside, above⟩, fun b inside d inside' => ?_⟩
    rcases List.mem_cons.1 inside' with rfl | inside'
    · intro equal
      have := less b inside
      simp [equal] at this
    · exact across b inside d inside'

/-! ### Entries -/

/-- Without fields the number of a task stands behind `pid_` in its key. -/
theorem id?_nil_eq_some_iff {key : String} {id : TaskId} : Task.id? key [] = some id
    ↔ ∃ digits, key.toList = "pid_".toList ++ digits ∧ Spells digits id.toNat := by
  have read {digits : List Char} :
      (natural? (UInt64.size - 1) digits).map UInt64.ofNat = some id ↔ Spells digits id.toNat := by
    simp only [Option.map_eq_some_iff, natural?_eq_some_iff]
    constructor
    · rintro ⟨n, ⟨bound, spells⟩, rfl⟩
      rwa [UInt64.toNat_ofNat_of_lt' (Nat.lt_of_le_pred (by decide) bound)]
    · exact fun spells => ⟨id.toNat, ⟨Nat.le_pred_of_lt id.toNat_lt, spells⟩, UInt64.ofNat_toNat⟩
  have none : number? [] "pid" = none := rfl
  simp only [Task.id?, none]
  split
  case h_1 rest split =>
    rw [split, read]
    constructor
    · exact fun spells => ⟨rest, rfl, spells⟩
    · rintro ⟨digits, same, spells⟩
      have same : "pid_".toList ++ rest = "pid_".toList ++ digits := same
      obtain rfl := List.append_cancel_left same
      exact spells
  case h_2 other => exact ⟨nofun, fun ⟨digits, same, _⟩ => absurd same (other digits)⟩

/-- The number of a task is its field `pid`, or else the one in its key. -/
theorem id?_eq_some_iff {key : String} {fields : Object} {id : TaskId} :
    Task.id? key fields = some id
      ↔ (∃ pid, number? fields "pid" = some pid ∧ 0 ≤ pid ∧ pid.value.toUInt64 = id)
        ∨ (∀ pid, number? fields "pid" = some pid → ¬ 0 ≤ pid)
          ∧ ∃ digits, key.toList = "pid_".toList ++ digits ∧ Spells digits id.toNat := by
  rw [← id?_nil_eq_some_iff]
  cases known : number? fields "pid" with
  | none =>
    have keyed : Task.id? key fields = Task.id? key [] := by
      simp only [Task.id?, known]
      rfl
    simp [keyed]
  | some pid =>
    by_cases positive : 0 ≤ pid
    · simp [Task.id?, known, positive]
    · have keyed : Task.id? key fields = Task.id? key [] := by
        simp only [Task.id?, known, if_neg positive]
        rfl
      simp [keyed, positive]

/-- The tasks of a section are its objects with a number. -/
theorem mem_entries_iff {tasks fields : Object} {id : TaskId} :
    (id, fields) ∈ Task.entries tasks
      ↔ ∃ key, (key, .object fields) ∈ tasks ∧ Task.id? key fields = some id := by
  simp only [Task.entries, List.mem_filterMap, Option.bind_eq_bind, Option.bind_eq_some_iff,
    Option.pure_def, Option.some.injEq, Prod.mk.injEq]
  constructor
  · rintro ⟨⟨key, v⟩, inside, fields', object, id', known, rfl, rfl⟩
    obtain rfl := Value.object?_eq_some object
    exact ⟨key, inside, known⟩
  · rintro ⟨key, inside, known⟩
    exact ⟨(key, .object fields), inside, fields, rfl, id, known, rfl, rfl⟩

/-- They stand in the order of the section. -/
theorem entries_append (front behind : Object) :
    Task.entries (front ++ behind) = Task.entries front ++ Task.entries behind :=
  List.filterMap_append

/-- A counter of a task, zero where it is missing. -/
def Counts (fields : Object) (key : String) (x : Number) : Prop :=
  number? fields key = some x ∨ number? fields key = none ∧ x = 0

theorem counts_iff {fields : Object} {key : String} {x : Number} :
    Counts fields key x ↔ x = (number? fields key).getD 0 := by
  rw [Counts]
  cases number? fields key <;> simp [eq_comm]

/-- A sum of two counters. -/
def Sums (fields : Object) (key key' : String) (x : Number) : Prop :=
  ∃ a b, Counts fields key a ∧ Counts fields key' b ∧ x = a + b

theorem sums_iff {fields : Object} {key key' : String} {x : Number} :
    Sums fields key key' x ↔ x = Task.total fields key key' := by
  simp only [Sums, counts_iff, Task.total]
  constructor
  · rintro ⟨_, _, rfl, rfl, sum⟩
    exact sum
  · exact fun sum => ⟨_, _, rfl, rfl, sum⟩

/-- The task is the one of the given number that the fields tell of. -/
structure Task.ToldBy (number : TaskId) (fields : Object) (task : Task) : Prop where
  id : task.id = number
  thread : ∀ tgid, number? fields "tgid" = some tgid → 0 < tgid →
    task.mainId = tgid.value.toUInt64
  process : (∀ tgid, number? fields "tgid" = some tgid → ¬ 0 < tgid) → task.mainId = number
  command : ∀ s, fields.lookup "cmd" = some (.string s) → task.command = s
  unnamed : (∀ s, fields.lookup "cmd" ≠ some (.string s)) → task.command = ""
  cpuSeconds : Sums fields "cpu_usr_total_secs" "cpu_sys_total_secs" task.cpuSeconds
  ioBytes : Sums fields "io_total_read" "io_total_write" task.ioBytes
  rssBytes : Counts fields "mem_rss_bytes" task.rssBytes

theorem toldBy_ofEntry (id : TaskId) (fields : Object) :
    (Task.ofEntry id fields).ToldBy id fields where
  id := rfl
  thread tgid known positive := by
    simp only [Task.ofEntry, Task.mainIdOf, known, if_pos positive]
  process other := by
    simp only [Task.ofEntry, Task.mainIdOf]
    cases known : number? fields "tgid" with
    | none => rfl
    | some tgid => exact if_neg (other tgid known)
  command s known := by
    simp only [Task.ofEntry, known]
    rfl
  unnamed other := by
    simp only [Task.ofEntry]
    cases known : fields.lookup "cmd" with
    | none => rfl
    | some v =>
      cases v with
      | string s => exact absurd known (other s)
      | _ => rfl
  cpuSeconds := sums_iff.2 rfl
  ioBytes := sums_iff.2 rfl
  rssBytes := counts_iff.2 rfl

theorem Task.ToldBy.unique {id : TaskId} {fields : Object} {task task' : Task}
    (told : task.ToldBy id fields) (told' : task'.ToldBy id fields) : task = task' := by
  have same : task.id = task'.id := told.id.trans told'.id.symm
  have mainId : task.mainId = task'.mainId := by
    by_cases thread : ∃ tgid, number? fields "tgid" = some tgid ∧ 0 < tgid
    · obtain ⟨tgid, known, positive⟩ := thread
      rw [told.thread tgid known positive, told'.thread tgid known positive]
    · have process (tgid : Number) (known : number? fields "tgid" = some tgid) : ¬ 0 < tgid :=
        fun positive => thread ⟨tgid, known, positive⟩
      rw [told.process process, told'.process process]
  have command : task.command = task'.command := by
    by_cases named : ∃ s, fields.lookup "cmd" = some (.string s)
    · obtain ⟨s, known⟩ := named
      rw [told.command s known, told'.command s known]
    · rw [told.unnamed (not_exists.1 named), told'.unnamed (not_exists.1 named)]
  have cpuSeconds : task.cpuSeconds = task'.cpuSeconds := by
    rw [sums_iff.1 told.cpuSeconds, sums_iff.1 told'.cpuSeconds]
  have ioBytes : task.ioBytes = task'.ioBytes := by
    rw [sums_iff.1 told.ioBytes, sums_iff.1 told'.ioBytes]
  have rssBytes : task.rssBytes = task'.rssBytes := by
    rw [counts_iff.1 told.rssBytes, counts_iff.1 told'.rssBytes]
  obtain ⟨_, _, _, _, _, _⟩ := task
  obtain ⟨_, _, _, _, _, _⟩ := task'
  rw [Task.mk.injEq]
  exact ⟨same, mainId, command, cpuSeconds, ioBytes, rssBytes⟩

/-- The number and the fields make the task. -/
theorem toldBy_iff {id : TaskId} {fields : Object} {task : Task} :
    task.ToldBy id fields ↔ task = Task.ofEntry id fields := by
  constructor
  · exact fun told => told.unique (toldBy_ofEntry id fields)
  · rintro rfl
    exact toldBy_ofEntry id fields

/-! ### The log of tasks -/

/-- What the samples with readings say about tasks, in their order: the entries of the section of
tasks, each with the number of its task. -/
def taskLog (c : Capture) : List (TaskId × Object) :=
  c.dataSamples.flatMap fun s => ((s.section? tasksSection).map Task.entries).getD []

theorem sightings_eq (c : Capture) :
    Ranking.sightings c = (taskLog c).map fun (id, fields) => (id, Task.ofEntry id fields) := by
  rw [taskLog, List.map_flatMap]
  rfl

/-- A task is known by its last entry. -/
theorem mem_latest_sightings {c : Capture} {id : TaskId} {task : Task} :
    (id, task) ∈ Keyed.latest (Ranking.sightings c)
      ↔ ∃ fields, Keyed.Last (taskLog c) id fields ∧ task = Task.ofEntry id fields := by
  rw [Keyed.mem_latest_iff, sightings_eq]
  exact Keyed.last_map_iff

theorem ids_sightings (c : Capture) :
    (Ranking.sightings c).map Prod.fst = (taskLog c).map Prod.fst := by
  rw [sightings_eq, List.map_map]
  rfl

/-- All tasks that were seen, in the order of their first entries. -/
def seenTasks (c : Capture) : List Task := (Keyed.latest (Ranking.sightings c)).map Prod.snd

theorem ids_seenTasks (c : Capture) :
    (seenTasks c).map Task.id = (Keyed.latest (Ranking.sightings c)).map Prod.fst := by
  rw [seenTasks, List.map_map]
  refine List.map_congr_left fun entry inside => ?_
  obtain ⟨id, task⟩ := entry
  obtain ⟨fields, -, rfl⟩ := mem_latest_sightings.1 inside
  rfl

/-! ### The ranking of a log -/

/-- The tasks are those of the log, each once and as its last entry has it, the one with the most
CPU time first. Tasks of equal time are in the order of their first entries. -/
structure Ranks (log : List (TaskId × Object)) (tasks : List Task) : Prop where
  once : (tasks.map Task.id).Nodup
  all : ∀ id, id ∈ tasks.map Task.id ↔ id ∈ log.map Prod.fst
  last : ∀ task ∈ tasks, ∃ fields, Keyed.Last log task.id fields
    ∧ task = Task.ofEntry task.id fields
  descending : tasks.Pairwise fun a b => totalLE b.cpuSeconds a.cpuSeconds = true
  ties : tasks.Pairwise fun a b => totalLE a.cpuSeconds b.cpuSeconds = true →
    (log.map Prod.fst).idxOf a.id < (log.map Prod.fst).idxOf b.id

theorem rankedTasks_perm (c : Capture) : (rankedTasks c).Perm (seenTasks c) :=
  List.mergeSort_perm ..

theorem nodup_ids_rankedTasks (c : Capture) : ((rankedTasks c).map Task.id).Nodup := by
  rw [((rankedTasks_perm c).map Task.id).nodup_iff, ids_seenTasks]
  exact Keyed.nodup_keys_latest _

theorem slower_trans (a b d : Task) (first : totalLE b.cpuSeconds a.cpuSeconds = true)
    (second : totalLE d.cpuSeconds b.cpuSeconds = true) :
    totalLE d.cpuSeconds a.cpuSeconds = true := totalLE_trans _ _ _ second first

theorem slower_total (a b : Task) :
    (totalLE b.cpuSeconds a.cpuSeconds || totalLE a.cpuSeconds b.cpuSeconds) = true :=
  totalLE_total _ _

theorem descending_rankedTasks (c : Capture) :
    (rankedTasks c).Pairwise fun a b => totalLE b.cpuSeconds a.cpuSeconds = true :=
  List.pairwise_mergeSort slower_trans slower_total _

/-- Of two tasks with equal time the one that was seen first is ranked first. -/
theorem ties_rankedTasks (c : Capture) :
    (rankedTasks c).Pairwise fun a b => totalLE a.cpuSeconds b.cpuSeconds = true →
      ((taskLog c).map Prod.fst).idxOf a.id < ((taskLog c).map Prod.fst).idxOf b.id := by
  have order := Keyed.pairwise_keys_latest (Ranking.sightings c)
  rw [← ids_seenTasks, ids_sightings, List.pairwise_map] at order
  exact pairwise_ties slower_trans slower_total order

theorem ranks_rankedTasks (c : Capture) : Ranks (taskLog c) (rankedTasks c) := by
  constructor
  case once => exact nodup_ids_rankedTasks c
  case all =>
    intro id
    rw [((rankedTasks_perm c).map Task.id).mem_iff, ids_seenTasks, Keyed.mem_keys_latest,
      ids_sightings]
  case last =>
    intro task inside
    obtain ⟨⟨id, task⟩, entry, rfl⟩ := List.mem_map.1 ((rankedTasks_perm c).mem_iff.1 inside)
    obtain ⟨fields, last, rfl⟩ := mem_latest_sightings.1 entry
    exact ⟨fields, last, rfl⟩
  case descending => exact descending_rankedTasks c
  case ties => exact ties_rankedTasks c

variable {log : List (TaskId × Object)} {tasks tasks' : List Task}

/-- Which tasks are ranked follows from the log. -/
theorem Ranks.mem_iff (ranks : Ranks log tasks) {task : Task} :
    task ∈ tasks
      ↔ ∃ fields, Keyed.Last log task.id fields ∧ task = Task.ofEntry task.id fields := by
  constructor
  · exact ranks.last task
  · rintro ⟨fields, last, made⟩
    have seen : task.id ∈ log.map Prod.fst := last.mem_keys
    obtain ⟨task', inside, same⟩ := List.mem_map.1 ((ranks.all task.id).2 seen)
    obtain ⟨fields', last', made'⟩ := ranks.last task' inside
    rw [same] at last' made'
    rwa [made, last.unique last', ← made']

/-- A log has one ranking only. -/
theorem Ranks.unique (ranks : Ranks log tasks) (ranks' : Ranks log tasks') : tasks = tasks' := by
  have same : tasks.Perm tasks' := by
    rw [List.perm_ext_iff_of_nodup (.of_map _ ranks.once) (.of_map _ ranks'.once)]
    intro task
    rw [ranks.mem_iff, ranks'.mem_iff]
  -- Two tasks that could stand either way round would each have been seen first.
  have apart (a b : Task) (first : totalLE b.cpuSeconds a.cpuSeconds = true
        ∧ (totalLE a.cpuSeconds b.cpuSeconds = true →
          (log.map Prod.fst).idxOf a.id < (log.map Prod.fst).idxOf b.id))
      (second : totalLE a.cpuSeconds b.cpuSeconds = true
        ∧ (totalLE b.cpuSeconds a.cpuSeconds = true →
          (log.map Prod.fst).idxOf b.id < (log.map Prod.fst).idxOf a.id)) : a = b := by
    have := first.2 second.1
    have := second.2 first.1
    omega
  exact List.Perm.eq_of_pairwise (fun a b _ _ => apart a b) (ranks.descending.and ranks.ties)
    (ranks'.descending.and ranks'.ties) same

/-! ### The whole result -/

theorem commands_ofCapture (c : Capture) (topN : Nat) : (Ranking.ofCapture c topN).commands
    = (Keyed.latest (Ranking.sightings c)).map fun (id, task) => (id, task.command) := rfl

theorem ids_commands (c : Capture) (topN : Nat) : (Ranking.ofCapture c topN).commands.map Prod.fst
    = (Keyed.latest (Ranking.sightings c)).map Prod.fst := by
  rw [commands_ofCapture, List.map_map]
  rfl

theorem mem_commands_iff {c : Capture} {topN : Nat} {id : TaskId} {command : String} :
    (id, command) ∈ (Ranking.ofCapture c topN).commands
      ↔ ∃ fields, Keyed.Last (taskLog c) id fields
        ∧ command = (Task.ofEntry id fields).command := by
  rw [commands_ofCapture, List.mem_map]
  constructor
  · rintro ⟨⟨id', task⟩, entry, same⟩
    obtain ⟨rfl, rfl⟩ := Prod.mk.inj same
    obtain ⟨fields, last, rfl⟩ := mem_latest_sightings.1 entry
    exact ⟨fields, last, rfl⟩
  · rintro ⟨fields, last, rfl⟩
    exact ⟨(id, Task.ofEntry id fields), mem_latest_sightings.2 ⟨fields, last, rfl⟩, rfl⟩

/-- The ranking of a capture is the one list that ranks its log, cut behind as many tasks as are
asked for, or whole where that is zero. The commands are those of the last entries of all tasks, and
the samples with readings but without a section of tasks are counted. -/
theorem ofCapture_ranks (c : Capture) :
    (∀ tasks, Ranks (taskLog c) tasks ↔ tasks = (Ranking.ofCapture c 0).ranked)
    ∧ (∀ n, (Ranking.ofCapture c (n + 1)).ranked = (Ranking.ofCapture c 0).ranked.take (n + 1)
      ∧ (Ranking.ofCapture c (n + 1)).ranked.length
        = min (n + 1) (Ranking.ofCapture c 0).ranked.length)
    ∧ ∀ topN,
      ((Ranking.ofCapture c topN).commands.map Prod.fst).Nodup
      ∧ (∀ id, id ∈ (Ranking.ofCapture c topN).commands.map Prod.fst
        ↔ id ∈ (taskLog c).map Prod.fst)
      ∧ (∀ id command, (id, command) ∈ (Ranking.ofCapture c topN).commands
        ↔ ∃ fields, Keyed.Last (taskLog c) id fields
          ∧ command = (Task.ofEntry id fields).command)
      ∧ (Ranking.ofCapture c topN).invalidSamples
        = (c.dataSamples.filter fun s => (s.section? tasksSection).isNone).length := by
  have first (n : Nat) : (Ranking.ofCapture c (n + 1)).ranked
      = (Ranking.ofCapture c 0).ranked.take (n + 1) := by
    rw [ranked_first c (Nat.succ_pos n), ranked_all]
  refine ⟨fun tasks => ?_, fun n => ⟨first n, ?_⟩, fun topN => ⟨?_, fun id => ?_, ?_, ?_⟩⟩
  · rw [ranked_all]
    constructor
    · exact fun ranks => ranks.unique (ranks_rankedTasks c)
    · rintro rfl
      exact ranks_rankedTasks c
  · rw [first, List.length_take]
  · rw [ids_commands]
    exact Keyed.nodup_keys_latest _
  · rw [ids_commands, Keyed.mem_keys_latest, ids_sightings]
  · exact fun id command => mem_commands_iff
  · rw [← List.countP_eq_length_filter]
    refine List.countP_congr fun s _ => ?_
    simp [Capture.Sample.hasSection]

/-- A capture of three tasks. A sample has the first one twice, and its second entry has as much CPU
time as the second task. -/
def repeated : Capture where
  header := {}
  samples := [⟨[]⟩,
    ⟨[("cgroup_tasks", .object [
      ("pid_1", .object [("cmd", .string "sh"), ("cpu_usr_total_secs", .integer 1)]),
      ("pid_2", .object [("cmd", .string "ls"), ("cpu_usr_total_secs", .integer 5)]),
      ("pid_x", .object []),
      ("self", .object [("pid", .integer 1), ("tgid", .integer 2), ("cmd", .string "ps"),
        ("cpu_usr_total_secs", .integer 3), ("cpu_sys_total_secs", .integer 2),
        ("mem_rss_bytes", .string "64")])])]⟩,
    ⟨[]⟩,
    ⟨[("cgroup_tasks", .object [
      ("pid_3", .object [("cmd", .string "cat"), ("cpu_usr_total_secs", .integer 7)])])]⟩]

theorem taskLog_repeated : taskLog repeated = [
    (1, [("cmd", .string "sh"), ("cpu_usr_total_secs", .integer 1)]),
    (2, [("cmd", .string "ls"), ("cpu_usr_total_secs", .integer 5)]),
    (1, [("pid", .integer 1), ("tgid", .integer 2), ("cmd", .string "ps"),
      ("cpu_usr_total_secs", .integer 3), ("cpu_sys_total_secs", .integer 2),
      ("mem_rss_bytes", .string "64")]),
    (3, [("cmd", .string "cat"), ("cpu_usr_total_secs", .integer 7)])] := by rfl

def repeatedTasks : List Task :=
  [⟨3, 3, "cat", 7, 0, 0⟩, ⟨1, 2, "ps", 5, 0, 64⟩, ⟨2, 2, "ls", 5, 0, 0⟩]

theorem ranks_repeatedTasks : Ranks (taskLog repeated) repeatedTasks := by
  rw [taskLog_repeated]
  constructor
  case once => decide
  case all =>
    intro id
    simp only [repeatedTasks, List.map_cons, List.map_nil, List.mem_cons, List.not_mem_nil,
      or_false]
    tauto
  case last =>
    refine List.forall_mem_cons.2 ⟨?_, List.forall_mem_cons.2 ⟨?_, List.forall_mem_singleton.2 ?_⟩⟩
    all_goals exact ⟨_, Keyed.lookup_latest_eq_some_iff.1 rfl, by rfl⟩
  case descending => decide +kernel
  case ties => decide +kernel

/-- The task that is seen twice keeps its first place and has its last counters. -/
theorem ofCapture_ranks_repeated : (Ranking.ofCapture repeated 0).ranked = repeatedTasks
    ∧ (Ranking.ofCapture repeated 2).ranked = repeatedTasks.take 2
    ∧ (1, "ps") ∈ (Ranking.ofCapture repeated 2).commands
    ∧ (Ranking.ofCapture repeated 2).invalidSamples = 1 := by
  obtain ⟨unique, first, whole⟩ := ofCapture_ranks repeated
  have all : (Ranking.ofCapture repeated 0).ranked = repeatedTasks :=
    ((unique repeatedTasks).1 ranks_repeatedTasks).symm
  obtain ⟨-, -, commands, invalid⟩ := whole 2
  refine ⟨all, ?_, ?_, invalid⟩
  · rw [(first 1).1, all]
  · rw [commands, taskLog_repeated]
    exact ⟨_, Keyed.lookup_latest_eq_some_iff.1 rfl, rfl⟩

end UsageReport.Metric
