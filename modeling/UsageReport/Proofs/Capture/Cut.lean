import Mathlib
import UsageReport.Capture.Document
import UsageReport.Proofs.Json.Fields

/-! Cutting a document down in any number of steps. Windows of time decide on the samples and names
decide on the entries of tasks, and neither reads what the other takes out. So what is left follows
from the cuts that were made and not from their order, and a cut that fails changes nothing. -/

namespace UsageReport.Capture

open UsageReport.Json (Value Object Fields)
open UsageReport.Time (Instant)

/-- The sample that a fault is about. -/
def CutFault.index? : CutFault → Option Nat
  | .noBounds => none
  | .missingTimestamp index => some index
  | .timestamp index _ => some index

namespace Document

/-! ### The instants of samples -/

/-- The instant of a sample whose timestamp is there and can be read. -/
def instant? (sample : Value) : Option Instant :=
  (((sample.field? "timestamp").bind (·.field? "UTC")).bind Value.string?).bind fun utc =>
    (Instant.parse utc).toOption

theorem timeOf_eq_ok {sample : Value} {t : Instant} (read : instant? sample = some t)
    (index : Nat) : timeOf index sample = .ok t := by
  unfold instant? at read
  unfold timeOf
  split
  next absent =>
    rw [absent] at read
    cases read
  next utc there =>
    rw [there, Option.bind_some] at read
    cases parsed : Instant.parse utc with
    | error fault =>
      rw [parsed] at read
      cases read
    | ok t' =>
      rw [parsed] at read
      cases read
      rfl

theorem timeOf_eq_error {sample : Value} (unread : instant? sample = none) (index : Nat) :
    ∃ fault, timeOf index sample = .error fault ∧ fault.index? = some index := by
  unfold instant? at unread
  unfold timeOf
  split
  next => exact ⟨_, rfl, rfl⟩
  next utc there =>
    rw [there, Option.bind_some] at unread
    cases parsed : Instant.parse utc with
    | error fault => exact ⟨_, rfl, rfl⟩
    | ok t =>
      rw [parsed] at unread
      cases unread

/-- Every sample has an instant. -/
def Readable (d : Document) : Prop := ∀ t ∈ d.samples.map instant?, t.isSome

/-- The sample with index `i` is the first one without an instant. -/
structure FirstUnread (d : Document) (i : Nat) : Prop where
  unread : (d.samples.map instant?)[i]? = some none
  before : ∀ j < i, ∃ t, (d.samples.map instant?)[j]? = some (some t)

theorem readable_or_firstUnread (d : Document) : d.Readable ∨ ∃ i, d.FirstUnread i := by
  cases found : (d.samples.map instant?).findIdx? Option.isNone with
  | none =>
    left
    intro t inside
    have := List.findIdx?_eq_none_iff.1 found t inside
    rwa [Option.isNone_eq_false_iff] at this
  | some i =>
    right
    obtain ⟨small, unread, before⟩ := List.findIdx?_eq_some_iff_getElem.1 found
    refine ⟨i, ?_, fun j smaller => ?_⟩
    · rw [List.getElem?_eq_getElem small, Option.isNone_iff_eq_none.1 unread]
    · have small' := Nat.lt_trans smaller small
      have there := before j smaller
      rw [Option.isNone_iff_eq_none] at there
      obtain ⟨t, read⟩ := Option.ne_none_iff_exists'.1 there
      exact ⟨t, by rw [List.getElem?_eq_getElem small', read]⟩

theorem timesFrom_eq_ok {samples : List Value} (readable : ∀ t ∈ samples.map instant?, t.isSome)
    (index : Nat) : ∃ times, timesFrom index samples = .ok times
      ∧ samples.map instant? = times.map some := by
  induction samples generalizing index with
  | nil => exact ⟨[], rfl, rfl⟩
  | cons s samples ih =>
    rw [List.map_cons] at readable
    obtain ⟨first, rest⟩ := List.forall_mem_cons.1 readable
    obtain ⟨t, read⟩ := Option.isSome_iff_exists.1 first
    obtain ⟨times, others, same⟩ := ih rest (index + 1)
    refine ⟨t :: times, ?_, ?_⟩
    · rw [timesFrom, timeOf_eq_ok read, others]
      rfl
    · rw [List.map_cons, List.map_cons, read, same]

/-- The first sample that cannot be read is reported. -/
theorem timesFrom_eq_error {samples : List Value} {i : Nat}
    (unread : (samples.map instant?)[i]? = some none)
    (before : ∀ j < i, ∃ t, (samples.map instant?)[j]? = some (some t)) (index : Nat) :
    ∃ fault, timesFrom index samples = .error fault ∧ fault.index? = some (index + i) := by
  induction samples generalizing i index with
  | nil => cases unread
  | cons first samples ih =>
    cases i with
    | zero =>
      obtain ⟨fault, failed, named⟩ := timeOf_eq_error (Option.some.inj unread) index
      refine ⟨fault, ?_, named⟩
      rw [timesFrom, failed]
      rfl
    | succ i =>
      obtain ⟨t, read⟩ := before 0 (Nat.succ_pos i)
      obtain ⟨fault, failed, named⟩ := ih unread
        (fun j smaller => before (j + 1) (Nat.succ_lt_succ smaller)) (index + 1)
      refine ⟨fault, ?_, ?_⟩
      · rw [timesFrom, timeOf_eq_ok (Option.some.inj read), failed]
        rfl
      · rw [named, Nat.add_assoc, Nat.add_comm 1]

/-! ### Windows -/

/-- The instant of the sample lies between the bounds or on one of them. -/
def InWindow (window : Option Instant × Option Instant) (sample : Value) : Prop :=
  ∃ t, instant? sample = some t ∧ (∀ first ∈ window.1, first ≤ t) ∧ ∀ last ∈ window.2, t ≤ last

theorem inWindow_iff {first last : Option Instant} {sample : Value} :
    (instant? sample).any (inWindow first last) = true ↔ InWindow (first, last) sample := by
  simp [InWindow, inWindow, Option.any_eq_true, Option.all_eq_true]

instance (window : Option Instant × Option Instant) (sample : Value) :
    Decidable (InWindow window sample) := decidable_of_iff _ inWindow_iff

theorem map_fst_filter_zip {samples : List Value} {times : List Instant}
    (same : samples.map instant? = times.map some) (first last : Option Instant) :
    ((samples.zip times).filter fun (_, t) => inWindow first last t).map Prod.fst
      = samples.filter fun s => InWindow (first, last) s := by
  induction samples generalizing times with
  | nil => rfl
  | cons s samples ih =>
    cases times with
    | nil => cases same
    | cons t times =>
      rw [List.map_cons, List.map_cons, List.cons.injEq] at same
      have inside : decide (InWindow (first, last) s) = inWindow first last t := by
        rw [Bool.eq_iff_iff, decide_eq_true_iff, ← inWindow_iff, same.1, Option.any_some]
      rw [List.zip_cons_cons, List.filter_cons, List.filter_cons, inside, ← ih same.2]
      cases kept : inWindow first last t with
      | false => simp [kept]
      | true => simp [kept]

theorem some_given {first last : Option Instant} (bounded : first.isSome ∨ last.isSome) :
    ¬ (first.isNone ∧ last.isNone) := by
  rintro ⟨noFirst, noLast⟩
  rw [Option.isNone_iff_eq_none] at noFirst noLast
  subst noFirst noLast
  simp at bounded

theorem none_given {first last : Option Instant} (unbounded : ¬ (first.isSome ∨ last.isSome)) :
    first = none ∧ last = none := by
  simpa using unbounded

theorem keepWindow_eq_ok {d : Document} (readable : d.Readable) {first last : Option Instant}
    (bounded : first.isSome ∨ last.isSome) : d.keepWindow first last
      = .ok { d with samples := d.samples.filter fun s => InWindow (first, last) s } := by
  obtain ⟨times, read, same⟩ := timesFrom_eq_ok readable 0
  unfold keepWindow
  rw [if_neg (some_given bounded), read]
  exact congrArg (fun samples => Except.ok { d with samples }) (map_fst_filter_zip same first last)

theorem keepWindow_eq_error {d : Document} {i : Nat} (unread : d.FirstUnread i)
    {first last : Option Instant} (bounded : first.isSome ∨ last.isSome) :
    ∃ fault, d.keepWindow first last = .error fault ∧ fault.index? = some i := by
  obtain ⟨fault, failed, named⟩ := timesFrom_eq_error unread.unread unread.before 0
  refine ⟨fault, ?_, by rw [named, Nat.zero_add]⟩
  unfold keepWindow
  rw [if_neg (some_given bounded), failed]
  rfl

theorem parts_of_keepWindow {d kept : Document} {first last : Option Instant}
    (made : d.keepWindow first last = .ok kept) :
    kept.others = d.others ∧ kept.samples.length ≤ d.samples.length := by
  unfold keepWindow at made
  split at made
  · cases made
  · cases read : timesFrom 0 d.samples with
    | error fault =>
      rw [read] at made
      cases made
    | ok times =>
      rw [read] at made
      cases made
      refine ⟨rfl, ?_⟩
      rw [List.length_map]
      exact (List.length_filter_le _ _).trans (by simp)

/-! ### Names -/

theorem occursIn_iff {part s : List Char} : occursIn part s = true ↔ part <:+: s := by
  induction s with
  | nil => simp [occursIn]
  | cons c rest ih => simp [occursIn, ih, List.infix_cons_iff]

/-- The command of the task is a text that contains the name. -/
def Runs (name : String) (task : Value) : Prop :=
  ∃ command, task.field? "cmd" = some (.string command) ∧ name.toList <:+: command.toList

theorem runs_iff {name : String} {task : Value} : runs name task = true ↔ Runs name task := by
  have text (v : Value) (command : String) : v.string? = some command ↔ v = .string command := by
    cases v <;> simp [Value.string?]
  simp [runs, Runs, Option.any_eq_true, Option.bind_eq_some_iff, text, occursIn_iff]

instance (name : String) (task : Value) : Decidable (Runs name task) :=
  decidable_of_iff _ runs_iff

/-- The entries of an object for which `p` holds. -/
def entriesWhere (p : Value → Bool) : Value → Value
  | .object tasks => .object (tasks.filter fun (_, task) => p task)
  | v => v

/-- The sample with those entries of its tasks for which `p` holds. -/
def tasksWhere (p : Value → Bool) : Value → Value
  | .object fields =>
    .object (fields.map fun (key, v) => (key, if key = tasksKey then entriesWhere p v else v))
  | v => v

theorem keepTasksOf_eq (name : String) : keepTasksOf name = tasksWhere (runs name) := by
  funext sample
  cases sample with
  | object fields =>
    simp only [keepTasksOf, tasksWhere]
    congr 2
    funext field
    obtain ⟨key, v⟩ := field
    cases v <;> simp [entriesWhere]
    split <;> rfl
  | _ => rfl

theorem entriesWhere_entriesWhere (p q : Value → Bool) (v : Value) :
    entriesWhere q (entriesWhere p v) = entriesWhere (fun task => p task && q task) v := by
  cases v with
  | object tasks => simp [entriesWhere, Bool.and_comm]
  | _ => rfl

theorem tasksWhere_tasksWhere (p q : Value → Bool) (sample : Value) :
    tasksWhere q (tasksWhere p sample) = tasksWhere (fun task => p task && q task) sample := by
  cases sample with
  | object fields =>
    simp only [tasksWhere, List.map_map]
    congr 2
    funext ⟨key, v⟩
    by_cases tasks : key = tasksKey <;> simp [tasks, entriesWhere_entriesWhere]
  | _ => rfl

theorem tasksWhere_true (sample : Value) : tasksWhere (fun _ => true) sample = sample := by
  have whole (v : Value) : entriesWhere (fun _ => true) v = v := by
    cases v <;> simp [entriesWhere]
  cases sample <;> simp [tasksWhere, whole]

theorem field?_tasksWhere (p : Value → Bool) (sample : Value) (key : String) :
    (tasksWhere p sample).field? key
      = (sample.field? key).map fun v => if key = tasksKey then entriesWhere p v else v := by
  cases sample with
  | object fields =>
    exact Fields.lookup_map_values fun key v => if key = tasksKey then entriesWhere p v else v
  | _ => rfl

theorem field?_tasksWhere_tasks (p : Value → Bool) (sample : Value) :
    (tasksWhere p sample).field? tasksKey = (sample.field? tasksKey).map (entriesWhere p) := by
  simp only [field?_tasksWhere, if_true]

theorem field?_tasksWhere_other (p : Value → Bool) (sample : Value) {key : String}
    (other : key ≠ tasksKey) : (tasksWhere p sample).field? key = sample.field? key := by
  simp only [field?_tasksWhere, if_neg other, Option.map_id_fun', id_eq]

/-- Names decide nothing about instants. -/
theorem instant?_tasksWhere (p : Value → Bool) (sample : Value) :
    instant? (tasksWhere p sample) = instant? sample := by
  rw [instant?, field?_tasksWhere_other p sample (by decide), instant?]

theorem map_instant?_tasksWhere (p : Value → Bool) (samples : List Value) :
    (samples.map (tasksWhere p)).map instant? = samples.map instant? := by
  rw [List.map_map]
  exact List.map_congr_left fun sample _ => instant?_tasksWhere p sample

theorem inWindow_tasksWhere (p : Value → Bool) (window : Option Instant × Option Instant)
    (sample : Value) : InWindow window (tasksWhere p sample) ↔ InWindow window sample := by
  rw [InWindow, instant?_tasksWhere, InWindow]

/-! ### Cuts in a row -/

/-- The document after cuts in a row. -/
def after (d : Document) (cuts : List Cut) : Document := cuts.foldl (fun d cut => (d.cut cut).2) d

def windowsOf (cuts : List Cut) : List (Option Instant × Option Instant) :=
  cuts.filterMap fun
    | .window first last => some (first, last)
    | .tasks _ => none

def namesOf (cuts : List Cut) : List String :=
  cuts.filterMap fun
    | .window _ _ => none
    | .tasks name => some name

theorem after_concat (d : Document) (cuts : List Cut) (cut : Cut) :
    d.after (cuts ++ [cut]) = ((d.after cuts).cut cut).2 := List.foldl_concat ..

theorem cut_window_eq_ok {d : Document} (readable : d.Readable) {first last : Option Instant}
    (bounded : first.isSome ∨ last.isSome) : d.cut (.window first last)
      = (.ok (d.samples.length - (d.samples.filter fun s => InWindow (first, last) s).length),
        { d with samples := d.samples.filter fun s => InWindow (first, last) s }) := by
  simp only [cut, keepWindow_eq_ok readable bounded]

theorem cut_window_eq_error {d : Document} {i : Nat} (unread : d.FirstUnread i)
    {first last : Option Instant} (bounded : first.isSome ∨ last.isSome) :
    ∃ fault, d.cut (.window first last) = (.error fault, d) ∧ fault.index? = some i := by
  obtain ⟨fault, failed, named⟩ := keepWindow_eq_error unread bounded
  exact ⟨fault, by simp only [cut, failed], named⟩

theorem cut_window_none (d : Document) : d.cut (.window none none) = (.error .noBounds, d) := rfl

theorem samples_cut_tasks (d : Document) (name : String) :
    (d.cut (.tasks name)).2.samples = d.samples.map (tasksWhere (runs name)) := by
  rw [← keepTasksOf_eq]
  rfl

theorem others_cut (d : Document) (cut : Cut) : (d.cut cut).2.others = d.others := by
  cases cut with
  | tasks name => rfl
  | window first last =>
    rw [Document.cut]
    split
    next kept made => exact (parts_of_keepWindow made).1
    next => rfl

theorem others_after (d : Document) (cuts : List Cut) : (d.after cuts).others = d.others := by
  induction cuts using List.reverseRecOn with
  | nil => rfl
  | append_singleton cuts cut ih => rw [after_concat, others_cut, ih]

/-- The entries of tasks that cuts leave. -/
def leaves (cuts : List Cut) (task : Value) : Bool := ∀ name ∈ namesOf cuts, Runs name task

theorem leaves_concat_tasks (cuts : List Cut) (name : String) :
    leaves (cuts ++ [.tasks name]) = fun task => leaves cuts task && runs name task := by
  have more : namesOf (cuts ++ [.tasks name]) = namesOf cuts ++ [name] := List.filterMap_append ..
  funext task
  rw [Bool.eq_iff_iff, Bool.and_eq_true, runs_iff, leaves, leaves, more]
  simp [or_imp, forall_and]

theorem leaves_concat_window (cuts : List Cut) (first last : Option Instant) :
    leaves (cuts ++ [.window first last]) = leaves cuts := by
  have same : namesOf (cuts ++ [.window first last]) = namesOf cuts := by
    simp [namesOf]
  funext task
  rw [leaves, leaves, same]

theorem map_leaves_nil (samples : List Value) :
    samples.map (tasksWhere (leaves [])) = samples := by
  have all : tasksWhere (leaves []) = id := funext tasksWhere_true
  rw [all, List.map_id]

theorem map_leaves_concat_tasks (cuts : List Cut) (name : String) (samples : List Value) :
    (samples.map (tasksWhere (leaves cuts))).map (tasksWhere (runs name))
      = samples.map (tasksWhere (leaves (cuts ++ [.tasks name]))) := by
  rw [List.map_map, leaves_concat_tasks]
  exact List.map_congr_left fun s _ => tasksWhere_tasksWhere ..

theorem Readable.of_samples {d d' : Document} (readable : d.Readable) {q p : Value → Bool}
    (same : d'.samples = (d.samples.filter q).map (tasksWhere p)) : d'.Readable := by
  intro t inside
  rw [same, map_instant?_tasksWhere] at inside
  exact readable t ((List.filter_sublist.map instant?).subset inside)

/-- What cuts leave of a document whose samples can all be read. -/
theorem samples_after {d : Document} (readable : d.Readable) (cuts : List Cut) :
    (d.after cuts).samples
      = (d.samples.filter fun s => ∀ window ∈ windowsOf cuts, InWindow window s).map
        (tasksWhere (leaves cuts)) := by
  -- The last cut is made on what the cuts before it leave, whose instants are still the old ones.
  induction cuts using List.reverseRecOn with
  | nil =>
    rw [map_leaves_nil]
    simp [windowsOf, after]
  | append_singleton cuts cut ih =>
    rw [after_concat]
    cases cut with
    | tasks name =>
      have same : windowsOf (cuts ++ [.tasks name]) = windowsOf cuts := by
        simp [windowsOf]
      rw [samples_cut_tasks, ih, same, map_leaves_concat_tasks]
    | window first last =>
      have more : windowsOf (cuts ++ [.window first last]) = windowsOf cuts ++ [(first, last)] :=
        List.filterMap_append ..
      have stays (s : Value) :
          decide (∀ window ∈ windowsOf cuts ++ [(first, last)], InWindow window s)
            = (decide (InWindow (first, last) s)
              && decide (∀ window ∈ windowsOf cuts, InWindow window s)) := by
        rw [Bool.eq_iff_iff]
        simp [or_imp, forall_and, and_comm]
      have left : (d.after cuts).Readable := readable.of_samples ih
      simp only [leaves_concat_window, more, stays]
      rw [← List.filter_filter]
      by_cases bounded : first.isSome ∨ last.isSome
      · rw [cut_window_eq_ok left bounded]
        simp only [ih, List.filter_map, Function.comp_def, inWindow_tasksWhere]
      · obtain ⟨rfl, rfl⟩ := none_given bounded
        -- Every sample that can be read lies in the window without bounds.
        have all : ∀ s ∈ d.samples.filter fun s => ∀ window ∈ windowsOf cuts, InWindow window s,
            decide (InWindow (none, none) s) = true := by
          intro s inside
          have read := readable _ (List.mem_map_of_mem (List.mem_filter.1 inside).1)
          obtain ⟨t, read⟩ := Option.isSome_iff_exists.1 read
          exact decide_eq_true ⟨t, read, by simp, by simp⟩
        rw [cut_window_none, ih, List.filter_eq_self.2 all]

theorem FirstUnread.of_instants {d d' : Document} {i : Nat} (unread : d.FirstUnread i)
    (same : d'.samples.map instant? = d.samples.map instant?) : d'.FirstUnread i := by
  constructor
  · rw [same]
    exact unread.unread
  · rw [same]
    exact unread.before

/-- Where a sample cannot be read all samples stay. -/
theorem samples_after_unread {d : Document} {i : Nat} (unread : d.FirstUnread i) (cuts : List Cut) :
    (d.after cuts).samples = d.samples.map (tasksWhere (leaves cuts)) := by
  induction cuts using List.reverseRecOn with
  | nil =>
    rw [map_leaves_nil]
    rfl
  | append_singleton cuts cut ih =>
    rw [after_concat]
    cases cut with
    | tasks name => rw [samples_cut_tasks, ih, map_leaves_concat_tasks]
    | window first last =>
      rw [leaves_concat_window]
      by_cases bounded : first.isSome ∨ last.isSome
      · have left : (d.after cuts).FirstUnread i :=
          unread.of_instants (by rw [ih, map_instant?_tasksWhere])
        obtain ⟨fault, failed, -⟩ := cut_window_eq_error left bounded
        rw [failed, ih]
      · obtain ⟨rfl, rfl⟩ := none_given bounded
        rw [cut_window_none, ih]

theorem readable_after {d : Document} (readable : d.Readable) (cuts : List Cut) :
    (d.after cuts).Readable :=
  readable.of_samples (samples_after readable cuts)

theorem FirstUnread.after {d : Document} {i : Nat} (unread : d.FirstUnread i) (cuts : List Cut) :
    (d.after cuts).FirstUnread i :=
  unread.of_instants (by rw [samples_after_unread unread, map_instant?_tasksWhere])

/-! ### What cuts take out -/

theorem taskCount_eq_sum (d : Document) : d.taskCount = (d.samples.map taskCountOf).sum := by
  rw [taskCount, List.sum_eq_foldl, List.foldl_map]

theorem taskCountOf_tasksWhere_le (p : Value → Bool) (sample : Value) :
    taskCountOf (tasksWhere p sample) ≤ taskCountOf sample := by
  rw [taskCountOf, taskCountOf, field?_tasksWhere_tasks]
  cases sample.field? tasksKey with
  | none => exact Nat.le_refl _
  | some v =>
    cases v with
    | object tasks => exact List.length_filter_le _ _
    | _ => exact Nat.le_refl _

/-- A cut that is made gives the number of samples, or of entries of tasks, by which there are
fewer of them. -/
theorem count_of_cut {d d' : Document} {cut : Cut} {n : Nat} (made : d.cut cut = (.ok n, d')) :
    match cut with
    | .window _ _ => n + d'.samples.length = d.samples.length
    | .tasks _ => n + d'.taskCount = d.taskCount := by
  cases cut with
  | window first last =>
    rw [Document.cut] at made
    split at made
    next kept kept' =>
      have fewer := (parts_of_keepWindow kept').2
      cases made
      exact Nat.sub_add_cancel fewer
    next => cases made
  | tasks name =>
    cases made
    have fewer : (d.keepTasks name).taskCount ≤ d.taskCount := by
      rw [taskCount_eq_sum, taskCount_eq_sum, keepTasks, keepTasksOf_eq, List.map_map]
      exact List.sum_le_sum fun s _ => taskCountOf_tasksWhere_le _ s
    exact Nat.sub_add_cancel fewer

/-! ### What cuts leave -/

/-- The sample `kept` is the sample `s` with those entries of its tasks, in their order, whose
commands contain all of the names. All else is as it was. -/
structure TasksCut (names : List String) (s kept : Value) : Prop where
  other : s.object? = none → kept = s
  fields : ∀ fields, s = .object fields → ∃ fields', kept = .object fields'
    ∧ Fields.names fields' = Fields.names fields
    ∧ (∀ key, key ≠ tasksKey → fields'.lookup key = fields.lookup key)
    ∧ fields'.lookup tasksKey = (fields.lookup tasksKey).map fun
      | .object tasks => .object (tasks.filter fun (_, task) => ∀ name ∈ names, Runs name task)
      | v => v

theorem tasksCut_tasksWhere (cuts : List Cut) (s : Value) :
    TasksCut (namesOf cuts) s (tasksWhere (leaves cuts) s) := by
  constructor
  case other =>
    intro none
    cases s with
    | object fields => cases none
    | _ => rfl
  case fields =>
    rintro fields rfl
    refine ⟨_, rfl, ?_, fun key other => ?_, ?_⟩
    · simp only [Fields.names, List.map_map]
      rfl
    · exact field?_tasksWhere_other (leaves cuts) (.object fields) other
    · exact field?_tasksWhere_tasks (leaves cuts) (.object fields)

theorem forall₂_tasksCut (cuts : List Cut) (samples : List Value) :
    List.Forall₂ (TasksCut (namesOf cuts)) samples (samples.map (tasksWhere (leaves cuts))) := by
  rw [List.forall₂_map_right_iff]
  exact List.forall₂_same.2 fun s _ => tasksCut_tasksWhere cuts s

theorem samples_after_perm (d : Document) {cuts cuts' : List Cut} (same : cuts.Perm cuts') :
    (d.after cuts').samples = (d.after cuts).samples := by
  have names : (namesOf cuts).Perm (namesOf cuts') := same.filterMap _
  have windows : (windowsOf cuts).Perm (windowsOf cuts') := same.filterMap _
  have tasks : leaves cuts' = leaves cuts := by
    funext task
    rw [leaves, leaves, decide_eq_decide]
    exact forall_congr' fun name => by rw [names.mem_iff]
  rcases d.readable_or_firstUnread with readable | ⟨i, unread⟩
  · rw [samples_after readable, samples_after readable, tasks]
    refine congrArg _ (List.filter_congr fun s _ => ?_)
    rw [decide_eq_decide]
    exact forall_congr' fun window => by rw [windows.mem_iff]
  · rw [samples_after_unread unread, samples_after_unread unread, tasks]

theorem parts_of_ofJson? {v : Value} {d : Document} (accepted : Document.ofJson? v = some d) :
    ∃ fields : Object, v = .object fields ∧ fields.lookup samplesKey = some (.array d.samples)
      ∧ d.others = Fields.swapRemove fields samplesKey := by
  cases v with
  | object fields =>
    refine ⟨fields, rfl, ?_⟩
    obtain ⟨samples, found, made⟩ := Option.bind_eq_some_iff.1 accepted
    obtain ⟨list, there, listed⟩ := Option.bind_eq_some_iff.1 found
    cases made
    cases list with
    | array items =>
      cases listed
      exact ⟨there, rfl⟩
    | _ => cases listed
  | _ => cases accepted

/-- What is left of the fields `fields` of a document `d` after cuts in a row. -/
structure LeftAfter (fields : Object) (d : Document) (cuts : List Cut) : Prop where
  others : fields.names.Nodup → ∃ out : Object, (d.after cuts).json = .object out
    ∧ out.names.Nodup ∧ out.lookup samplesKey = some (.array (d.after cuts).samples)
    ∧ ∀ key, key ≠ samplesKey → out.lookup key = fields.lookup key
  readable : d.Readable → List.Forall₂ (TasksCut (namesOf cuts))
    (d.samples.filter fun s => ∀ window ∈ windowsOf cuts, InWindow window s) (d.after cuts).samples
  unread : ∀ i, d.FirstUnread i →
    List.Forall₂ (TasksCut (namesOf cuts)) d.samples (d.after cuts).samples
  reordered : ∀ cuts', cuts.Perm cuts' → (d.after cuts').json = (d.after cuts).json

/-- What one more cut gives after cuts in a row. -/
structure NextCut (d : Document) (cuts : List Cut) : Prop where
  readable : d.Readable → ∀ first last, first.isSome ∨ last.isSome →
    ∃ n, ((d.after cuts).cut (.window first last)).1 = .ok n
  unread : ∀ i, d.FirstUnread i → ∀ first last, first.isSome ∨ last.isSome →
    ∃ fault, (d.after cuts).cut (.window first last) = (.error fault, d.after cuts)
      ∧ fault.index? = some i
  unbounded : (d.after cuts).cut (.window none none) = (.error .noBounds, d.after cuts)
  tasks : ∀ name, ∃ n, ((d.after cuts).cut (.tasks name)).1 = .ok n
  samplesOut : ∀ first last n kept, (d.after cuts).cut (.window first last) = (.ok n, kept) →
    n + kept.samples.length = (d.after cuts).samples.length
  tasksOut : ∀ name n kept, (d.after cuts).cut (.tasks name) = (.ok n, kept) →
    n + kept.taskCount = (d.after cuts).taskCount

theorem leftAfter {fields : Object} {d : Document} (cuts : List Cut)
    (inside : fields.lookup samplesKey = some (.array d.samples))
    (others : d.others = Fields.swapRemove fields samplesKey) : LeftAfter fields d cuts := by
  constructor
  case others =>
    intro distinct
    refine ⟨_, rfl, ?_, ?_, fun key other => ?_⟩
    · rw [others_after, others]
      exact Fields.names_set_nodup (Fields.nodup_names_swapRemove distinct inside) _ _
    · rw [Fields.lookup_set, if_pos rfl]
    · rw [others_after, others, Fields.lookup_set_swapRemove distinct inside _ other]
  case readable =>
    intro readable
    rw [samples_after readable]
    exact forall₂_tasksCut ..
  case unread =>
    intro i unread
    rw [samples_after_unread unread]
    exact forall₂_tasksCut ..
  case reordered =>
    intro cuts' same
    rw [json, json, others_after, others_after, samples_after_perm d same]

theorem nextCut (d : Document) (cuts : List Cut) : NextCut d cuts := by
  constructor
  case readable =>
    intro readable first last bounded
    rw [cut_window_eq_ok (readable_after readable cuts) bounded]
    exact ⟨_, rfl⟩
  case unread =>
    intro i unread first last bounded
    exact cut_window_eq_error (unread.after cuts) bounded
  case unbounded => exact cut_window_none _
  case tasks => exact fun name => ⟨_, rfl⟩
  case samplesOut => exact fun first last n kept made => count_of_cut made
  case tasksOut => exact fun name n kept made => count_of_cut made

/-- Cuts in a row leave all fields of a document but its samples. Where every sample has a
timestamp, windows leave exactly the samples in all of them; where one has none, every window with a
bound fails at the first such sample and takes nothing out. Of the tasks those are left whose
commands contain all names. The order of the cuts does not matter, and each tells how much it
takes out. -/
theorem document_after_cuts {v : Value} {d : Document} (accepted : Document.ofJson? v = some d) :
    ∃ fields : Object, v = .object fields ∧ fields.lookup samplesKey = some (.array d.samples)
      ∧ (d.Readable ∨ ∃ i, d.FirstUnread i)
      ∧ ∀ cuts, LeftAfter fields d cuts ∧ NextCut d cuts := by
  obtain ⟨fields, whole, inside, others⟩ := parts_of_ofJson? accepted
  exact ⟨fields, whole, inside, d.readable_or_firstUnread,
    fun cuts => ⟨leftAfter cuts inside others, nextCut d cuts⟩⟩

/-- The samples of two consecutive seconds with a shell and a process without a command. -/
def twoSeconds : List Value := ["2022-01-18T00:02:47", "2022-01-18T00:02:48"].map fun utc =>
  .object [("timestamp", .object [("UTC", .string utc)]),
    (tasksKey, .object [("1", .object [("cmd", .string "bash")]), ("2", .object [])])]

theorem twoSeconds_after_cuts : ∃ d fields : _,
    Document.ofJson? (.object [(samplesKey, .array twoSeconds), ("header", .null)]) = some d
    ∧ d.Readable
    ∧ LeftAfter fields d [.tasks "sh", .window (some ⟨19010, 168, 0, by decide⟩) none]
    ∧ NextCut d [.tasks "sh", .window (some ⟨19010, 168, 0, by decide⟩) none] := by
  have readable : Document.Readable ⟨[("header", .null)], twoSeconds⟩ := by
    unfold Readable
    decide +kernel
  obtain ⟨fields, -, -, -, cuts⟩ := document_after_cuts (d := ⟨[("header", .null)], twoSeconds⟩)
    (v := .object [(samplesKey, .array twoSeconds), ("header", .null)]) rfl
  exact ⟨_, fields, rfl, readable, cuts _⟩

end Document

end UsageReport.Capture
