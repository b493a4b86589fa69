import Mathlib
import UsageReport.Metric.TaskCharts

/-! Names of columns. The name of a CPU, of a task or of a device tells which one it is of, whatever
texts the commands and devices are, and it is the name of no other column. -/

namespace UsageReport.Metric

open UsageReport.Table (timestampName)

/-! ### Labels -/

theorem isDigit_of_mem_toString {n : Nat} : ∀ c ∈ (toString n).toList, c.isDigit = true := by
  intro c inside
  rw [Nat.toString_eq_ofList_toDigits, String.toList_ofList] at inside
  exact Nat.isDigit_of_mem_toDigits (by decide) (by decide) inside

theorem cpuLabel_injective : Function.Injective Account.cpuLabel := by
  intro cpu cpu' same
  have digits : toString cpu = toString cpu' := String.append_right_inj _ |>.1 same
  exact Nat.repr_inj.1 digits

theorem head?_cpuLabel (cpu : Capture.CpuIndex) :
    (Account.cpuLabel cpu).toList.head? = some 'C' := by
  rw [Account.cpuLabel, String.toList_append]
  rfl

/-- The number of a task stands between the last two parentheses of its label. -/
theorem digits_label (command : String) (id : TaskId) :
    ((Task.label command id).toList.reverse.tail.takeWhile Char.isDigit).reverse
      = (toString id.toNat).toList := by
  have digits : ∀ c ∈ (toString id.toNat).toList.reverse, c.isDigit = true :=
    fun c inside => isDigit_of_mem_toString c (List.mem_reverse.1 inside)
  have label : (Task.label command id).toList.reverse
      = ')' :: ((toString id.toNat).toList.reverse ++ '(' :: ' ' :: command.toList.reverse) := by
    simp [Task.label]
  rw [label, List.tail_cons, List.takeWhile_append_of_pos digits,
    List.takeWhile_cons_of_neg (by decide), List.append_nil, List.reverse_reverse]

theorem id_of_label {command command' : String} {id id' : TaskId}
    (same : Task.label command id = Task.label command' id') : id = id' := by
  have digits : (toString id.toNat).toList = (toString id'.toNat).toList := by
    rw [← digits_label command, same, digits_label]
  exact UInt64.toNat_inj.1 (Nat.repr_inj.1 (String.toList_inj.1 digits))

theorem getLast?_label (command : String) (id : TaskId) :
    (Task.label command id).toList.getLast? = some ')' := by
  rw [Task.label, String.toList_append]
  exact List.getLast?_concat

theorem nodup_labels {α : Type} {items : List α} (command : α → String) {id : α → TaskId}
    (distinct : (items.map id).Nodup) :
    (items.map fun item => Task.label (command item) (id item)).Nodup := by
  rw [List.Nodup, List.pairwise_map] at *
  exact distinct.imp fun other same => other (id_of_label same)

/-! ### Lists without repeats -/

section
variable {α : Type} [DecidableEq α]

theorem eraseDups_concat (items : List α) (item : α) : (items ++ [item]).eraseDups
    = if item ∈ items then items.eraseDups else items.eraseDups ++ [item] := by
  rw [List.eraseDups_append, List.removeAll, List.filter_singleton]
  by_cases inside : item ∈ items <;> simp [inside, List.eraseDups_cons]

/-- Without their repeats items stand in the order in which they came first. -/
theorem pairwise_eraseDups (items : List α) :
    items.eraseDups.Pairwise fun a b => items.idxOf a < items.idxOf b := by
  induction items using List.reverseRecOn with
  | nil => exact .nil
  | append_singleton items item ih =>
    -- An item that was there before is found where it was found without the last one.
    have found (a : α) (inside : a ∈ items) : (items ++ [item]).idxOf a = items.idxOf a := by
      rw [List.idxOf_append, if_pos inside]
    have before := ih.imp_of_mem fun {a b} inside inside' less => by
      rwa [← found a (List.mem_eraseDups.1 inside), ← found b (List.mem_eraseDups.1 inside')] at less
    rw [eraseDups_concat]
    split
    case isTrue => exact before
    case isFalse new =>
      refine List.pairwise_append.2 ⟨before, List.pairwise_singleton _ _, ?_⟩
      intro a inside b last
      rw [List.mem_eraseDups] at inside
      rw [List.mem_singleton.1 last, found a inside, List.idxOf_append, if_neg new]
      exact Nat.lt_add_left _ (List.idxOf_lt_length_iff.2 inside)

theorem nodup_eraseDups (items : List α) : items.eraseDups.Nodup :=
  (pairwise_eraseDups items).imp fun less same => by
    rw [same] at less
    exact Nat.lt_irrefl _ less

end

/-! ### Columns -/

/-- Columns with a mark and others without it are apart if each of them are. -/
theorem nodup_marked {marked others : List String} (distinct : marked.Nodup)
    (distinct' : (timestampName :: others).Nodup) {mark : String → Option Char} {c : Char}
    (here : ∀ name ∈ marked, mark name = some c)
    (nowhere : ∀ name ∈ timestampName :: others, mark name ≠ some c) :
    (timestampName :: (marked ++ others)).Nodup := by
  have apart : ∀ name ∈ timestampName :: others, name ∉ marked :=
    fun name other inside => nowhere name other (here name inside)
  obtain ⟨timeless, distinct'⟩ := List.nodup_cons.1 distinct'
  obtain ⟨apartTime, apart⟩ := List.forall_mem_cons.1 apart
  rw [List.nodup_cons, List.mem_append, not_or, List.nodup_append']
  refine ⟨⟨apartTime, timeless⟩, distinct, distinct', ?_⟩
  exact fun name inside other => apart name other inside

theorem nodup_cpuLabels {cpus : List Capture.CpuIndex} (distinct : cpus.Nodup)
    {others : List String} (distinct' : (timestampName :: others).Nodup)
    (nowhere : ∀ name ∈ timestampName :: others, name.toList.head? ≠ some 'C') :
    (timestampName :: (cpus.map Account.cpuLabel ++ others)).Nodup := by
  refine nodup_marked (distinct.map cpuLabel_injective) distinct' (fun name inside => ?_) nowhere
  obtain ⟨cpu, -, rfl⟩ := List.mem_map.1 inside
  exact head?_cpuLabel cpu

theorem nodup_taskLabels {α : Type} {items : List α} (command : α → String) {id : α → TaskId}
    (distinct : (items.map id).Nodup) {others : List String}
    (distinct' : (timestampName :: others).Nodup)
    (nowhere : ∀ name ∈ timestampName :: others, name.toList.getLast? ≠ some ')') :
    (timestampName :: ((items.map fun item => Task.label (command item) (id item)) ++ others)).Nodup
    := by
  refine nodup_marked (nodup_labels command distinct) distinct' (fun name inside => ?_) nowhere
  obtain ⟨item, -, rfl⟩ := List.mem_map.1 inside
  exact getLast?_label _ _

theorem ending_of_append_eq {name ending text : String} (same : name ++ ending = text) :
    ending.toList <:+ text.toList := by
  rw [← same, String.toList_append]
  exact List.suffix_append _ _

/-- Neither of two endings is the end of the other one or of the first column's name. -/
structure Endings (first second : String) : Prop where
  apart : ¬ first.toList <:+ second.toList
  apart' : ¬ second.toList <:+ first.toList
  timeless : ∀ ending ∈ [first, second], ¬ ending.toList <:+ timestampName.toList

/-- Names with one ending are not names with the other one. -/
theorem Endings.ne {first second : String} (endings : Endings first second) (a b : String) :
    a ++ first ≠ b ++ second := by
  intro same
  have ends : first.toList <:+ (b ++ second).toList := ending_of_append_eq same
  have ends' : second.toList <:+ (b ++ second).toList := ending_of_append_eq rfl
  -- Of two ends of one text the shorter one is an end of the other.
  rcases List.suffix_or_suffix_of_suffix ends ends' with short | short
  · exact endings.apart short
  · exact endings.apart' short

/-- Each device has two columns, whose endings keep them apart. -/
theorem Endings.nodup {first second : String} (endings : Endings first second)
    {devices : List String} (distinct : devices.Nodup) :
    (timestampName :: devices.flatMap fun device => [device ++ first, device ++ second]).Nodup := by
  rw [List.nodup_cons, List.nodup_flatMap]
  refine ⟨fun inside => ?_, fun device _ => ?_, distinct.imp fun {a b} other name inA inB => ?_⟩
  · obtain ⟨device, -, column⟩ := List.mem_flatMap.1 inside
    rcases List.mem_pair.1 column with same | same
    · exact endings.timeless first (by simp) (ending_of_append_eq same.symm)
    · exact endings.timeless second (by simp) (ending_of_append_eq same.symm)
  · rw [List.nodup_cons, List.mem_singleton]
    exact ⟨endings.ne device device, List.nodup_singleton _⟩
  · rcases List.mem_pair.1 inA with rfl | rfl <;> rcases List.mem_pair.1 inB with same | same
    · exact other (String.append_left_inj _ |>.1 same)
    · exact endings.ne a b same
    · exact endings.ne b a same.symm
    · exact other (String.append_left_inj _ |>.1 same)

end UsageReport.Metric
