import Mathlib
import UsageReport.Proofs.Metric.Ranking
import UsageReport.Proofs.Metric.TaskCharts
import UsageReport.Proofs.Number.Order

/-! The memory of processes. Every process of a ranked task has one column, however many threads it
has, and one cell in every row: the largest memory of all its tasks that the sample has, ranked or
not. -/

namespace UsageReport.Metric

open UsageReport.Json (Object)
open UsageReport.Json.Fields (lookup_eq_some_iff_mem lookup_eq_none_iff_keys)
open UsageReport.Number (Largest larger largest_foldl isNaN_zero)
open UsageReport.Table (Series)

/-! ### Cells -/

/-- A value under a key is made from the entries with that key alone. -/
theorem Keyed.lookup_foldl_update {ε κ α : Type} [DecidableEq κ] (key : ε → κ)
    (f : ε → Option α → α) (entries : List ε) (known : Keyed κ α) (k : κ) :
    List.lookup k (entries.foldl (fun all e => Keyed.update all (key e) (f e)) known)
      = (entries.filter (key · = k)).foldl (fun found e => some (f e found)) (known.lookup k) := by
  induction entries generalizing known with
  | nil => rfl
  | cons e entries ih =>
    rw [List.foldl_cons, ih, Keyed.lookup_update, List.filter_cons]
    by_cases same : key e = k
    · simp [same]
    · simp [same, Ne.symm same]

/-- The process that an entry of a section belongs to. -/
def processOf (entry : TaskId × Object) : TaskId := Task.mainIdOf entry.1 entry.2

/-- The memory of each task of a section that belongs to a process. -/
def memories (tasks : Object) (id : TaskId) : List Number :=
  ((Task.entries tasks).filter (processOf · = id)).map fun entry => Task.rss entry.2

theorem lookup_processMemory (tasks : Object) (id : TaskId) :
    ((processMemory tasks).lookup id).getD 0 = (memories tasks id).foldl larger 0 := by
  have fold (entries : List (TaskId × Object)) (found : Option Number) : (entries.foldl
        (fun found entry => some (larger (found.getD 0) (Task.rss entry.2))) found).getD 0
      = (entries.map fun entry => Task.rss entry.2).foldl larger (found.getD 0) := by
    induction entries generalizing found with
    | nil => rfl
    | cons entry entries ih => exact ih _
  have alone : (processMemory tasks).lookup id = _ := Keyed.lookup_foldl_update processOf
    (fun entry known => larger (known.getD 0) (Task.rss entry.2)) (Task.entries tasks) [] id
  rw [alone, fold]
  rfl

theorem largest_processMemory (tasks : Object) (id : TaskId) :
    Largest (0 :: memories tasks id) (((processMemory tasks).lookup id).getD 0) := by
  rw [lookup_processMemory]
  exact largest_foldl isNaN_zero _

/-! ### Columns -/

/-- The items of a list, each once, in the order in which they come first. -/
structure Firsts {α : Type} [DecidableEq α] (all distinct : List α) : Prop where
  once : distinct.Nodup
  mem : ∀ item, item ∈ distinct ↔ item ∈ all
  order : distinct.Pairwise fun a b => all.idxOf a < all.idxOf b

theorem firsts_eraseDups {α : Type} [DecidableEq α] (all : List α) : Firsts all all.eraseDups where
  once := nodup_eraseDups all
  mem _ := List.mem_eraseDups
  order := pairwise_eraseDups all

/-- The command is that of the last entry of a task, empty for a task without entries. -/
def LastCommand (log : List (TaskId × Object)) (id : TaskId) (command : String) : Prop :=
  (∃ fields, Keyed.Last log id fields ∧ command = (Task.ofEntry id fields).command)
  ∨ id ∉ log.map Prod.fst ∧ command = ""

theorem lastCommand_ofCapture (c : Capture) (topN : Nat) (id : TaskId) :
    LastCommand (taskLog c) id (((Ranking.ofCapture c topN).commands.lookup id).getD "") := by
  cases found : (Ranking.ofCapture c topN).commands.lookup id with
  | none =>
    rw [lookup_eq_none_iff_keys, ids_commands, Keyed.mem_keys_latest, ids_sightings] at found
    exact .inr ⟨found, rfl⟩
  | some command =>
    have once : ((Ranking.ofCapture c topN).commands.map Prod.fst).Nodup := by
      rw [ids_commands]
      exact Keyed.nodup_keys_latest _
    exact .inl (mem_commands_iff.1 ((lookup_eq_some_iff_mem once).1 found))

/-- The column of a process has a cell for every reading, the largest memory of the tasks of the
process in the reading, at least zero. -/
structure ProcessColumn (c : Capture) (id : TaskId) (column : Series × List Number) : Prop where
  name : ∃ command, LastCommand (taskLog c) id command ∧ column.1.name = Task.label command id
  unit : column.1.unit = bytesUnit
  cells : List.Forall₂ (fun reading cell => Largest (0 :: memories reading.fields id) cell)
    (readings c tasksSection) column.2

theorem processColumn (c : Capture) (topN : Nat) (id : TaskId) : ProcessColumn c id
    ((memoryCurve (Ranking.ofCapture c topN) id).shown (readings c tasksSection)) where
  name := ⟨_, lastCommand_ofCapture c topN id, rfl⟩
  unit := rfl
  cells := by
    rw [Curve.shown, List.forall₂_map_right_iff, List.forall₂_same]
    exact fun reading _ => largest_processMemory reading.fields id

/-! ### The chart -/

/-- In the chart of memory every process of the ranked tasks has one column, the process of the
first task first. Behind these there is only what the limit of the cgroup adds. -/
theorem memory_by_process (c : Context)
    (some : (Ranking.ofCapture c.capture c.topN).ranked ≠ []) :
    ∃ (charts : TaskCharts) (ids : List TaskId) (processes limits : List (Series × List Number)),
      topTasks c = .ok charts.list
      ∧ charts.memory.columns = processes ++ limits
      ∧ charts.memory.times = (readings c.capture tasksSection).map Reading.time
      ∧ Firsts ((Ranking.ofCapture c.capture c.topN).ranked.map Task.mainId) ids
      ∧ List.Forall₂ (ProcessColumn c.capture) ids processes
      ∧ limits.map (·.1.name)
        = if c.capture.header.memoryLimit?.isSome then [freeColumn, failuresColumn] else [] := by
  let r := Ranking.ofCapture c.capture c.topN
  let shown := Curve.shown (readings c.capture tasksSection)
  obtain ⟨charts, made, shows⟩ := topTasks_of_some some
  refine ⟨charts, r.mainIds, (r.mainIds.map (memoryCurve r)).map shown, (memoryLimits c).map shown,
    made, ?_, shows.memory.times, firsts_eraseDups _, ?_, ?_⟩
  · rw [shows.memory.columns, List.map_append]
  · rw [List.map_map, List.forall₂_map_right_iff, List.forall₂_same]
    exact fun id _ => processColumn c.capture c.topN id
  · rw [List.map_map]
    exact names_memoryLimits c

/-- A capture of a process and two threads of it, the first of which is seen before the process. -/
def threadsOfOne : Capture where
  header := {}
  samples := [⟨[]⟩,
    ⟨[("timestamp", .object [("UTC", .string "2022-01-18T00:02:48")]),
      ("cgroup_tasks", .object [
        ("pid_11", .object [("tgid", .integer 10), ("mem_rss_bytes", .integer 100)]),
        ("pid_10", .object [("cmd", .string "java"), ("mem_rss_bytes", .integer 300)]),
        ("pid_12", .object [("tgid", .integer 10), ("mem_rss_bytes", .integer 200)])])]⟩]

theorem memory_by_process_threads : ∃ charts : TaskCharts,
    topTasks ⟨threadsOfOne, {}, 1⟩ = .ok charts.list
    ∧ charts.memory.columns = [(⟨"java (10)", bytesUnit⟩, [300])] := by
  have sorted : rankedTasks threadsOfOne = seenTasks threadsOfOne := by
    apply List.mergeSort_of_pairwise
    rw [← seenTasks]
    decide +kernel
  have mains : (Ranking.ofCapture threadsOfOne 1).ranked.map Task.mainId = [10] := by
    rw [ranked_first threadsOfOne (by decide), sorted]
    decide +kernel
  have some : (Ranking.ofCapture threadsOfOne 1).ranked ≠ [] := by
    rw [← List.map_eq_nil_iff.ne, mains]
    decide
  obtain ⟨charts, ids, processes, limits, made, columns, -, firsts, shown, named⟩ :=
    memory_by_process ⟨threadsOfOne, {}, 1⟩ some
  obtain rfl : ids = [10] := by
    rw [mains] at firsts
    exact List.perm_singleton.1
      ((List.perm_ext_iff_of_nodup firsts.once (List.nodup_singleton _)).2 firsts.mem)
  obtain rfl : limits = [] := List.map_eq_nil_iff.1 named
  obtain ⟨⟨⟨name, unit⟩, cells⟩, rest, process, last, rfl⟩ := List.forall₂_cons_left_iff.1 shown
  obtain rfl := List.forall₂_nil_left_iff.1 last
  obtain ⟨⟨command, lastSeen, rfl⟩, rfl, largest⟩ := process
  have command_eq : command = "java" := by
    obtain ⟨fields, last, rfl⟩ | ⟨new, -⟩ := lastSeen
    · rw [← Keyed.lookup_latest_eq_some_iff] at last
      cases last
      rfl
    · exact absurd (by decide +kernel) new
  have cells_eq : cells = [300] := by
    have one : (readings threadsOfOne tasksSection).map (fun reading => memories reading.fields 10)
      = [[100, 300, 200]] := rfl
    obtain ⟨cell, rest, peak, last, rfl⟩ := List.forall₂_cons_left_iff.1
      (one ▸ List.forall₂_map_left_iff.2 largest :
        List.Forall₂ (fun values => Largest (0 :: values)) [[100, 300, 200]] cells)
    obtain rfl := List.forall₂_nil_left_iff.1 last
    have above : ¬ cell < 300 := peak.above 300 (by simp)
    have mem := peak.mem
    simp only [List.mem_cons, List.not_mem_nil, or_false] at mem
    obtain rfl | rfl | rfl | rfl := mem
    case inr.inr.inl => rfl
    all_goals exact absurd (by decide +kernel) above
  exact ⟨charts, made, by rw [columns, command_eq, cells_eq]; rfl⟩

end UsageReport.Metric
