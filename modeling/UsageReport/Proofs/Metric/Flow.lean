import Mathlib
import UsageReport.Proofs.Metric.Ranking

/-! The input and output of tasks between the instants at which they were seen. A task that is
missing for a while is charged, where it is seen again, with all that it moved since, so that its
column adds up to the difference of its last and its first total. -/

namespace UsageReport.Metric

open UsageReport.Json (Object)
open UsageReport.Table (Series)

/-! ### Differences over gaps -/

section
variable {α : Type} [OfNat α 0] [Sub α] {known : Option α} {totals : List (Option α)}

/-- What each total adds to the last one that is there, nothing where it is absent or the first. -/
def deltas : Option α → List (Option α) → List α
  | _, [] => []
  | known, none :: rest => 0 :: deltas known rest
  | known, some total :: rest => (known.map (total - ·)).getD 0 :: deltas (some total) rest

/-- The cells of totals that may be absent: each that is there less the one before it. -/
structure Deltas (totals : List (Option α)) (cells : List α) : Prop where
  length : cells.length = totals.length
  absent : ∀ k : Nat, totals[k]? = some none → cells[k]? = some 0
  first : ∀ (k : Nat) (total : α), totals[k]? = some (some total) →
    (∀ i < k, totals[i]? = some none) → cells[k]? = some 0
  later : ∀ (j k : Nat) (before total : α), totals[j]? = some (some before) → j < k →
    (∀ i, j < i → i < k → totals[i]? = some none) → totals[k]? = some (some total) →
    cells[k]? = some (total - before)

/-- The last total of a list, the known one if there is none. -/
def lastKnown (known : Option α) (totals : List (Option α)) : Option α :=
  totals.foldl (fun known total => total.or known) known

theorem length_deltas (known : Option α) (totals : List (Option α)) :
    (deltas known totals).length = totals.length := by
  induction totals generalizing known with
  | nil => rfl
  | cons total rest ih => cases total <;> simp [deltas, ih]

theorem getElem?_deltas (known : Option α) (totals : List (Option α)) (k : Nat) :
    (deltas known totals)[k]? = totals[k]?.map fun total =>
      (total.bind fun total => (lastKnown known (totals.take k)).map (total - ·)).getD 0 := by
  induction totals generalizing known k with
  | nil => rfl
  | cons total rest ih =>
    cases total <;> cases k <;> simp [deltas, lastKnown, ih]

omit [OfNat α 0] [Sub α] in
theorem lastKnown_take_succ {k : Nat} {total : Option α} (there : totals[k]? = some total) :
    lastKnown known (totals.take (k + 1)) = total.or (lastKnown known (totals.take k)) := by
  rw [List.take_add_one, there, Option.toList_some, lastKnown, List.foldl_concat]
  rfl

omit [OfNat α 0] [Sub α] in
/-- Absent totals change nothing. -/
theorem lastKnown_take_of_absent {j k : Nat} (le : j ≤ k)
    (absent : ∀ i, j ≤ i → i < k → totals[i]? = some none) :
    lastKnown known (totals.take k) = lastKnown known (totals.take j) := by
  induction k, le using Nat.le_induction with
  | base => rfl
  | succ k le ih =>
    rw [lastKnown_take_succ (absent k le (Nat.lt_succ_self k)), Option.none_or]
    exact ih fun i more less => absent i more (Nat.lt_succ_of_lt less)

theorem deltas_spec (totals : List (Option α)) : Deltas totals (deltas none totals) where
  length := length_deltas none totals
  absent k gone := by rw [getElem?_deltas, gone]; rfl
  first k total there new := by
    rw [getElem?_deltas, there, lastKnown_take_of_absent (Nat.zero_le k) fun i _ => new i]
    rfl
  later j k before total known less gap there := by
    rw [getElem?_deltas, there, lastKnown_take_of_absent less gap, lastKnown_take_succ known]
    rfl

omit [OfNat α 0] [Sub α] in
/-- Before an index no total is there, or one of them is the last. -/
theorem absent_or_last {k : Nat} (le : k ≤ totals.length) :
    (∀ i < k, totals[i]? = some none)
    ∨ ∃ j before, j < k ∧ totals[j]? = some (some before)
      ∧ ∀ i, j < i → i < k → totals[i]? = some none := by
  induction k with
  | zero => exact .inl fun i less => absurd less (Nat.not_lt_zero i)
  | succ k ih =>
    cases total : totals[k] with
    | none =>
      have extend {i : Nat} (less : i < k + 1) (gone : i < k → totals[i]? = some none) :
          totals[i]? = some none := by
        rcases Nat.lt_succ_iff_lt_or_eq.1 less with less | rfl
        · exact gone less
        · rw [List.getElem?_eq_getElem le, total]
      obtain gone | ⟨j, before, less, known, gap⟩ := ih (Nat.le_of_succ_le le)
      · exact .inl fun i less => extend less (gone i)
      · refine .inr ⟨j, before, Nat.lt_succ_of_lt less, known, ?_⟩
        exact fun i more less => extend less (gap i more)
    | some before =>
      refine .inr ⟨k, before, Nat.lt_succ_self k, ?_, fun i more less => by omega⟩
      rw [List.getElem?_eq_getElem le, total]

/-- Totals have one list of cells only. -/
theorem Deltas.unique {cells cells' : List α} (cut : Deltas totals cells)
    (cut' : Deltas totals cells') : cells = cells' := by
  refine List.ext_getElem? fun k => ?_
  have length := cut.length
  have length' := cut'.length
  cases there : totals[k]? with
  | none =>
    have outside := List.getElem?_eq_none_iff.1 there
    rw [List.getElem?_eq_none (by omega), List.getElem?_eq_none (by omega)]
  | some total =>
    have inside := (List.getElem?_eq_some_iff.1 there).1
    cases total with
    | none => rw [cut.absent k there, cut'.absent k there]
    | some total =>
      obtain gone | ⟨j, before, less, known, gap⟩ := absent_or_last (Nat.le_of_lt inside)
      · rw [cut.first k total there gone, cut'.first k total there gone]
      · rw [cut.later j k before total known less gap there,
          cut'.later j k before total known less gap there]

end

section
variable {G : Type} [AddCommGroup G]

/-- The differences of exact numbers add up to the last total less the first one. -/
theorem sum_deltas (known : Option G) (totals : List (Option G)) : (deltas known totals).sum
    = (known.toList ++ totals.reduceOption).getLastD 0
      - (known.toList ++ totals.reduceOption).headD 0 := by
  induction totals generalizing known with
  | nil => cases known <;> simp [deltas]
  | cons total rest ih =>
    cases total with
    | none => rw [deltas, List.sum_cons, ih, zero_add, List.reduceOption_cons_of_none]
    | some total =>
      rw [deltas, List.sum_cons, ih, List.reduceOption_cons_of_some]
      cases known with
      | none => exact zero_add _
      | some known =>
        show total - known + (_ - total) = _ - known
        rw [add_comm, sub_add_sub_cancel]
        rfl

/-- The value of a difference is the difference of the values. -/
def ExactSub (value : Number → G) (before total : Number) : Prop :=
  value (total - before) = value total - value before

theorem map_deltas {value : Number → G} (zero : value 0 = 0) (known : Option Number)
    (totals : List (Option Number))
    (steps : (known.toList ++ totals.reduceOption).IsChain (ExactSub value)) :
    (deltas known totals).map value = deltas (known.map value) (totals.map (Option.map value)) := by
  induction totals generalizing known with
  | nil => rfl
  | cons total rest ih =>
    cases total with
    | none =>
      rw [List.reduceOption_cons_of_none] at steps
      rw [deltas, List.map_cons, ih known steps, zero]
      rfl
    | some total =>
      rw [List.reduceOption_cons_of_some] at steps
      cases known with
      | none =>
        rw [deltas, List.map_cons, ih (some total) steps]
        exact congrArg (· :: _) zero
      | some known =>
        obtain ⟨step, steps⟩ := List.isChain_cons_cons.1 steps
        rw [deltas, List.map_cons, ih (some total) steps]
        exact congrArg (· :: _) step

end

/-! ### What is known of tasks -/

/-- What a task has read and written up to a reading, none where the reading does not have it. -/
def charted? (id : TaskId) (reading : Reading) : Option Number :=
  ((Task.entries reading.fields).lookup id).map Task.ioTotal

/-- A section has at most one entry of every task. -/
def ListedOnce (tasks : Object) : Prop := ((Task.entries tasks).map Prod.fst).Nodup

instance (tasks : Object) : Decidable (ListedOnce tasks) :=
  inferInstanceAs (Decidable (List.Nodup _))

/-- One entry of a section, of which the total becomes known and the addition is noted. -/
def takeUp (all : Keyed TaskId Number × Keyed TaskId Number) (entry : TaskId × Object) :
    Keyed TaskId Number × Keyed TaskId Number :=
  (all.1.put entry.1 (Task.ioTotal entry.2),
    all.2.put entry.1 (((all.1.lookup entry.1).map (Task.ioTotal entry.2 - ·)).getD 0))

theorem advance_eq (known : Keyed TaskId Number) (tasks : Object) :
    advance known tasks = (Task.entries tasks).foldl takeUp (known, []) := rfl

/-- Where no task is listed twice, what becomes known of a task and what is noted for it follow from
its own entry. -/
theorem lookup_foldl_takeUp {entries : List (TaskId × Object)}
    (once : (entries.map Prod.fst).Nodup) (known added : Keyed TaskId Number) (id : TaskId) :
    (entries.foldl takeUp (known, added)).1.lookup id
      = ((entries.lookup id).map Task.ioTotal).or (known.lookup id)
    ∧ (entries.foldl takeUp (known, added)).2.lookup id
      = ((entries.lookup id).map fun fields =>
          ((known.lookup id).map (Task.ioTotal fields - ·)).getD 0).or (added.lookup id) := by
  induction entries generalizing known added with
  | nil => exact ⟨rfl, rfl⟩
  | cons entry entries ih =>
    obtain ⟨id', fields⟩ := entry
    obtain ⟨new, once⟩ := List.nodup_cons.1 once
    rw [List.foldl_cons, takeUp]
    obtain ⟨total, addition⟩ := ih once (known.put id' (Task.ioTotal fields))
      (added.put id' (((known.lookup id').map (Task.ioTotal fields - ·)).getD 0))
    rw [total, addition, List.lookup_cons]
    by_cases same : id = id'
    · subst same
      have last : entries.lookup id = none := Json.Fields.lookup_eq_none_iff_keys.2 new
      simp [last, Keyed.put, Keyed.lookup_update]
    · simp [beq_false_of_ne same, same, Keyed.put, Keyed.lookup_update]

/-- One reading makes the total of a task known and gives what it adds to the one before. -/
theorem lookup_advance {reading : Reading} (once : ListedOnce reading.fields)
    (known : Keyed TaskId Number) (id : TaskId) :
    (advance known reading.fields).1.lookup id = (charted? id reading).or (known.lookup id)
    ∧ ((advance known reading.fields).2.lookup id).getD 0
      = ((charted? id reading).bind fun total => (known.lookup id).map (total - ·)).getD 0 := by
  rw [advance_eq, charted?]
  obtain ⟨total, addition⟩ := lookup_foldl_takeUp once known [] id
  rw [total, addition]
  refine ⟨rfl, ?_⟩
  cases (Task.entries reading.fields).lookup id <;> rfl

theorem times_flows (known : Keyed TaskId Number) (readings : List Reading) :
    (flows known readings).map Prod.fst = readings.map Reading.time := by
  induction readings generalizing known with
  | nil => rfl
  | cons reading rest ih => rw [flows, List.map_cons, ih, List.map_cons]

/-- Over all readings the additions of a task are the differences of its totals. -/
theorem added_flows {readings : List Reading}
    (once : ∀ reading ∈ readings, ListedOnce reading.fields)
    (known : Keyed TaskId Number) (id : TaskId) :
    ((flows known readings).map fun (_, added) => (added.lookup id).getD 0)
      = deltas (known.lookup id) (readings.map (charted? id)) := by
  induction readings generalizing known with
  | nil => rfl
  | cons reading rest ih =>
    obtain ⟨here, others⟩ := List.forall_mem_cons.1 once
    obtain ⟨total, addition⟩ := lookup_advance here known id
    rw [flows, List.map_cons, ih others, total, List.map_cons]
    show ((advance known reading.fields).2.lookup id).getD 0 :: _ = _
    rw [addition]
    cases charted? id reading <;> rfl

/-! ### The chart -/

/-- The totals of a task, one for every reading. -/
def chartedTotals (c : Capture) (id : TaskId) : List (Option Number) :=
  (readings c tasksSection).map (charted? id)

/-- The column of a task: for every reading what the task moved since it was last seen. Made from
exact values of the totals it adds up to the last of them less the first one. So do the values of
its own cells where the differences that it takes are exact. -/
structure FlowColumn (c : Capture) (task : Task) (column : Series × List Number) : Prop where
  name : column.1.name = task.displayName
  unit : column.1.unit = bytesUnit
  cells : Deltas (chartedTotals c task.id) column.2
  sum : ∀ {G : Type} [AddCommGroup G] (value : Number → G), ∃ cells : List G,
    Deltas ((chartedTotals c task.id).map (Option.map value)) cells
    ∧ cells.sum = ((chartedTotals c task.id).reduceOption.map value).getLastD 0
      - ((chartedTotals c task.id).reduceOption.map value).headD 0
    ∧ (value 0 = 0 → (chartedTotals c task.id).reduceOption.IsChain (ExactSub value) →
      column.2.map value = cells)

theorem column_flow {c : Capture}
    (once : ∀ reading ∈ readings c tasksSection, ListedOnce reading.fields) (task : Task) :
    ((flowCurve task).shown (flows [] (readings c tasksSection))).2
      = deltas none (chartedTotals c task.id) := added_flows once [] task.id

theorem flowColumn {c : Capture}
    (once : ∀ reading ∈ readings c tasksSection, ListedOnce reading.fields) (task : Task) :
    FlowColumn c task ((flowCurve task).shown (flows [] (readings c tasksSection))) where
  name := rfl
  unit := rfl
  cells := by
    rw [column_flow once]
    exact deltas_spec _
  sum value := by
    rw [column_flow once]
    refine ⟨deltas none ((chartedTotals c task.id).map (Option.map value)), deltas_spec _, ?_, ?_⟩
    · rw [sum_deltas, Option.toList_none, List.nil_append, List.reduceOption_map]
    · exact fun zero steps => map_deltas zero none _ steps

/-- A task has its column in the chart of input and output, and samples that miss it lose nothing of
what it moved. -/
theorem flow_over_gaps (c : Context)
    (once : ∀ reading ∈ readings c.capture tasksSection, ListedOnce reading.fields)
    (some : (Ranking.ofCapture c.capture c.topN).ranked ≠ []) :
    ∃ charts : TaskCharts, topTasks c = .ok charts.list
      ∧ charts.flow.times = (readings c.capture tasksSection).map Reading.time
      ∧ List.Forall₂ (FlowColumn c.capture) (Ranking.ofCapture c.capture c.topN).ranked
        charts.flow.columns := by
  obtain ⟨charts, made, shown⟩ := topTasks_of_some some
  refine ⟨charts, made, ?_, ?_⟩
  · rw [shown.flow.times, times_flows]
  · rw [shown.flow.columns, List.map_map, List.forall₂_map_right_iff, List.forall₂_same]
    exact fun task _ => flowColumn once task

/-- A capture of a task that is missing in one of the samples. -/
def interrupted : Capture where
  header := {}
  samples := [⟨[]⟩,
    ⟨[("timestamp", .object [("UTC", .string "2022-01-18T00:02:48")]),
      ("cgroup_tasks", .object [
        ("pid_10", .object [("io_total_read", .integer 600), ("io_total_write", .integer 400)])])]⟩,
    ⟨[("timestamp", .object [("UTC", .string "2022-01-18T00:02:58")]),
      ("cgroup_tasks", .object [
        ("pid_10", .object [("io_total_read", .integer 900), ("io_total_write", .integer 600)])])]⟩,
    ⟨[("timestamp", .object [("UTC", .string "2022-01-18T00:03:08")]),
      ("cgroup_tasks", .object [])]⟩,
    ⟨[("timestamp", .object [("UTC", .string "2022-01-18T00:03:18")]),
      ("cgroup_tasks", .object [
        ("pid_10", .object [("io_total_read", .integer 4000)])])]⟩]

def wholeBytes (a : Number) : ℤ := a.value.toUInt64.toNat

theorem flow_over_gaps_interrupted : ∃ (charts : TaskCharts) (column : Series × List Number),
    topTasks ⟨interrupted, {}, 0⟩ = .ok charts.list ∧ charts.flow.columns = [column]
    ∧ column.2 = [0, 500, 0, 2500] ∧ (column.2.map wholeBytes).sum = 4000 - 1000 := by
  have once : ∀ reading ∈ readings interrupted tasksSection, ListedOnce reading.fields := by
    decide +kernel
  obtain ⟨task, one, id⟩ : ∃ task, seenTasks interrupted = [task] ∧ task.id = 10 := ⟨_, rfl, rfl⟩
  have ranked : (Ranking.ofCapture interrupted 0).ranked = [task] := by
    rw [ranked_all]
    exact List.perm_singleton.1 (one ▸ rankedTasks_perm interrupted)
  have filled : (Ranking.ofCapture interrupted 0).ranked ≠ [] := ranked ▸ List.cons_ne_nil _ _
  obtain ⟨charts, made, -, shown⟩ := flow_over_gaps ⟨interrupted, {}, 0⟩ once filled
  rw [ranked] at shown
  obtain ⟨column, rest, ⟨-, -, flow, sum⟩, last, columns⟩ := List.forall₂_cons_left_iff.1 shown
  obtain rfl := List.forall₂_nil_left_iff.1 last
  have totals : chartedTotals interrupted task.id = [some 1000, some 1500, none, some 4000] := by
    rw [id]
    rfl
  have steps : [1000, 1500, 4000].IsChain (ExactSub wholeBytes) := by
    unfold ExactSub
    decide +kernel
  obtain ⟨cells, -, sum, values⟩ := sum wholeBytes
  rw [totals] at flow sum values
  refine ⟨charts, column, made, columns, ?_, ?_⟩
  · rw [flow.unique (deltas_spec _)]
    rfl
  · rw [values (by decide +kernel) steps, sum]
    decide +kernel

end UsageReport.Metric
