import Mathlib
import UsageReport.Proofs.Decimal.Natural
import UsageReport.Proofs.Json.Fields
import UsageReport.Proofs.Metric.Addressed

/-! Which CPUs a section tells of. A CPU is found for every key that spells its number, with or
without a plus sign and zeros before it, while its counters are read under the plain key alone. So
the CPUs are those whose counters can be read, each of them once, exactly if all keys are plain. -/

namespace UsageReport

open UsageReport.Capture (CpuIndex cpuIndex?)
open UsageReport.Chart (Selector)

namespace Metric

/-! ### Keys -/

def SpellsCpu (key : String) (cpu : CpuIndex) : Prop :=
  cpu < UInt32.size ∧ ∃ text, key.toList = "cpu".toList ++ text ∧ Decimal.Spells text cpu

theorem spellsCpu_cpuKey {cpu : CpuIndex} (bound : cpu < UInt32.size) :
    SpellsCpu (Account.cpuKey cpu) cpu := by
  refine ⟨bound, (toString cpu).toList, ?_, [], by simp, 0, rfl⟩
  rw [Account.cpuKey, String.toList_append]

theorem spellsCpu_iff {key : String} {text : List Char} (named : key.toList = "cpu".toList ++ text)
    {cpu : CpuIndex} :
    SpellsCpu key cpu ↔ Decimal.natural? (UInt32.size - 1) text = some cpu := by
  have limit : cpu ≤ UInt32.size - 1 ↔ cpu < UInt32.size := Nat.le_sub_one_iff_lt (by decide)
  rw [Decimal.natural?_eq_some_iff, limit, SpellsCpu]
  refine and_congr_right fun _ => ⟨?_, fun spelled => ⟨text, named, spelled⟩⟩
  rintro ⟨text', named', spelled⟩
  obtain rfl := List.append_cancel_left (named.symm.trans named')
  exact spelled

theorem cpuIndex?_eq_some_iff {key : String} {cpu : CpuIndex} :
    cpuIndex? key = some cpu ↔ SpellsCpu key cpu := by
  unfold cpuIndex?
  split
  case isTrue total =>
    -- What a total has behind the name is no number, so that it spells no CPU.
    obtain ⟨text, named, none⟩ : ∃ text, key.toList = "cpu".toList ++ text
        ∧ Decimal.natural? (UInt32.size - 1) text = none := by
      rcases List.mem_pair.1 total with rfl | rfl
      · exact ⟨"_total".toList, rfl, rfl⟩
      · exact ⟨"_tot".toList, rfl, rfl⟩
    rw [spellsCpu_iff named, none]
  case isFalse =>
    split
    case h_1 text named => exact (spellsCpu_iff named).symm
    case h_2 other =>
      refine iff_of_false nofun ?_
      rintro ⟨-, text, named, -⟩
      exact other text named

/-- All keys of the template's section that spell a CPU do so as the counters are looked up. -/
def PlainKeys (c : Capture) (name : String) : Prop :=
  ∀ key ∈ c.sectionKeys name, ∀ cpu, SpellsCpu key cpu → key = Account.cpuKey cpu

instance (c : Capture) (name : String) : Decidable (PlainKeys c name) :=
  decidable_of_iff
    (∀ key ∈ c.sectionKeys name, ∀ cpu ∈ cpuIndex? key, key = Account.cpuKey cpu)
    (by simp only [PlainKeys, Option.mem_def, cpuIndex?_eq_some_iff])

/-! ### CPUs -/

variable {c : Capture} {name : String} {cpu : CpuIndex}

theorem mem_logicalCpus_iff :
    cpu ∈ c.logicalCpus name ↔ ∃ key ∈ c.sectionKeys name, SpellsCpu key cpu := by
  simp only [Capture.logicalCpus, List.mem_mergeSort, List.mem_filterMap, cpuIndex?_eq_some_iff]

theorem ascending_logicalCpus (c : Capture) (name : String) :
    (c.logicalCpus name).Pairwise (· ≤ ·) :=
  List.pairwise_mergeSort' (fun i j : CpuIndex => i ≤ j) _

/-- The keys that spell a CPU, next to the CPUs. -/
theorem forall₂_spells (keys : List String) :
    List.Forall₂ (flip SpellsCpu) (keys.filterMap cpuIndex?)
      (keys.filter fun key => (cpuIndex? key).isSome) := by
  induction keys with
  | nil => exact .nil
  | cons key keys ih =>
    cases read : cpuIndex? key with
    | none => simpa [read] using ih
    | some cpu => simpa [read] using ⟨cpuIndex?_eq_some_iff.1 read, ih⟩

/-- The CPUs stand in ascending order, one for each key that spells a CPU. -/
structure OnePerKey (c : Capture) (name : String) : Prop where
  ascending : (c.logicalCpus name).Pairwise (· ≤ ·)
  keys : ∃ keys, keys.Nodup
    ∧ (∀ key, key ∈ keys ↔ key ∈ c.sectionKeys name ∧ ∃ cpu, SpellsCpu key cpu)
    ∧ List.Forall₂ SpellsCpu keys (c.logicalCpus name)

theorem onePerKey (distinct : (c.sectionKeys name).Nodup) : OnePerKey c name where
  ascending := ascending_logicalCpus c name
  keys := by
    obtain ⟨keys, spelled, same⟩ := List.perm_comp_forall₂
      (List.mergeSort_perm ((c.sectionKeys name).filterMap cpuIndex?) fun i j => i ≤ j)
      (forall₂_spells (c.sectionKeys name))
    refine ⟨keys, same.nodup_iff.2 (distinct.filter _), fun key => ?_, spelled.flip⟩
    simp only [same.mem_iff, List.mem_filter, Option.isSome_iff_exists, cpuIndex?_eq_some_iff]

/-- The CPUs are those whose counters can be looked up, each of them once. -/
structure Discovered (c : Capture) (name : String) : Prop where
  ascending : (c.logicalCpus name).Pairwise (· < ·)
  keyed : ∀ cpu, cpu ∈ c.logicalCpus name ↔ cpu < UInt32.size
    ∧ ∃ fields, c.templateSection? name = some fields
      ∧ (fields.lookup (Account.cpuKey cpu)).isSome = true

theorem mem_sectionKeys_iff {key : String} : key ∈ c.sectionKeys name
    ↔ ∃ fields, c.templateSection? name = some fields ∧ (fields.lookup key).isSome = true := by
  rw [Capture.sectionKeys]
  cases c.templateSection? name with
  | none => simp
  | some fields =>
    have absent : fields.lookup key = none ↔ key ∉ fields.names :=
      Json.Fields.lookup_eq_none_iff_keys
    simp only [Option.map_some, Option.getD_some, Option.some.injEq, exists_eq_left',
      ← Option.ne_none_iff_isSome, ne_eq, absent, not_not]

theorem Discovered.of_plain (distinct : (c.sectionKeys name).Nodup) (plain : PlainKeys c name) :
    Discovered c name where
  ascending := by
    have apart : c.CpusApart name := by
      intro key inside key' inside' cpu read read'
      rw [plain key inside cpu (cpuIndex?_eq_some_iff.1 read),
        plain key' inside' cpu (cpuIndex?_eq_some_iff.1 read')]
    have once : (c.logicalCpus name).Nodup := Capture.nodup_logicalCpus distinct apart
    exact (ascending_logicalCpus c name).imp₂ (fun _ _ => lt_of_le_of_ne) once
  keyed cpu := by
    rw [mem_logicalCpus_iff, ← mem_sectionKeys_iff]
    constructor
    · rintro ⟨key, inside, spelled⟩
      exact ⟨spelled.1, plain key inside cpu spelled ▸ inside⟩
    · rintro ⟨bound, inside⟩
      exact ⟨Account.cpuKey cpu, inside, spellsCpu_cpuKey bound⟩

theorem cpusApart_of_nodup (once : (c.logicalCpus name).Nodup) : c.CpusApart name := by
  rw [Capture.logicalCpus, (List.mergeSort_perm _ _).nodup_iff, List.Nodup,
    List.pairwise_filterMap] at once
  have : Std.Symm fun key key' => ∀ cpu, cpuIndex? key = some cpu →
      ∀ cpu', cpuIndex? key' = some cpu' → cpu ≠ cpu' :=
    ⟨fun _ _ other cpu read cpu' read' => (other cpu' read' cpu read).symm⟩
  intro key inside key' inside' cpu read read'
  by_contra other
  exact once.forall inside inside' other cpu read cpu read' rfl

theorem plain_of_discovered (discovered : Discovered c name) : PlainKeys c name := by
  intro key inside cpu spelled
  -- The CPU was found, so that its plain key is there, and a second key would bring it twice.
  have found : cpu ∈ c.logicalCpus name := mem_logicalCpus_iff.2 ⟨key, inside, spelled⟩
  obtain ⟨bound, plain⟩ := (discovered.keyed cpu).1 found
  have apart : c.CpusApart name := cpusApart_of_nodup (discovered.ascending.imp ne_of_lt)
  exact apart key inside _ (mem_sectionKeys_iff.2 plain) cpu (cpuIndex?_eq_some_iff.2 spelled)
    (cpuIndex?_eq_some_iff.2 (spellsCpu_cpuKey bound))

theorem discovered_iff (distinct : (c.sectionKeys name).Nodup) :
    Discovered c name ↔ PlainKeys c name :=
  ⟨plain_of_discovered, Discovered.of_plain distinct⟩

/-! ### Charts -/

variable {context : Context} {a : Account} {charts : List Chart}

theorem Account.selectors_of_charts
    (counters : (Table.timestampName :: a.counters.map Counter.column).Nodup)
    {all : List CpuIndex → Except Fault Chart} (made : a.charts context all = .ok charts) :
    charts.dropLast.map Chart.selector = a.entries context.capture := by
  unfold Account.charts at made
  by_cases none : context.capture.logicalCpus a.sectionName = []
  · simp only [none, if_true] at made
    cases made
    rw [Account.entries, none]
    rfl
  · simp only [if_neg none] at made
    obtain ⟨each, drawn, made⟩ := bind_eq_ok_iff.1 made
    obtain ⟨last, -, made⟩ := bind_eq_ok_iff.1 made
    cases made
    rw [List.dropLast_concat, Account.entries]
    refine (map_eq_of_forall₂ ((mapM_eq_ok_iff.1 drawn).imp fun cpu chart made => ?_)).symm
    exact (congrArg Prod.snd (Account.cpuChart_at counters made).here).symm

/-- Every CPU of the section has one chart, and behind these stands the chart of all. -/
structure ChartedOnce (c : Capture) (a : Account) (charts : List Chart) : Prop where
  selectors : charts.dropLast.map Chart.selector = a.entries c
  distinct : (charts.dropLast.map Chart.selector).Nodup

theorem chartedOnce (counters : (Table.timestampName :: a.counters.map Counter.column).Nodup)
    {all : List CpuIndex → Except Fault Chart}
    (discovered : Discovered context.capture a.sectionName)
    (made : a.charts context all = .ok charts) : ChartedOnce context.capture a charts := by
  have selectors := Account.selectors_of_charts counters made
  have once : (context.capture.logicalCpus a.sectionName).Nodup :=
    discovered.ascending.imp ne_of_lt
  refine ⟨selectors, selectors ▸ once.map fun cpu cpu' same => ?_⟩
  exact cpuLabel_injective (Selector.comboEntry.inj same).2

/-- The CPUs of a section are those whose counters can be looked up, each of them once, exactly if
all keys that spell a CPU are plain. Every such CPU then has one chart. -/
theorem discovered_iff_plainKeys (c : Context) :
    (∀ least text, Capture.parse least text = .ok c.capture →
      ∀ name, (c.capture.sectionKeys name).Nodup)
    ∧ (∀ name, (c.capture.sectionKeys name).Nodup →
      OnePerKey c.capture name ∧ (Discovered c.capture name ↔ PlainKeys c.capture name))
    ∧ (Discovered c.capture statSection →
      ∃ charts, systemProcessor c = .ok charts ∧ ChartedOnce c.capture systemAccount charts)
    ∧ (Discovered c.capture accountingSection →
      ∃ charts, cgroupProcessor c = .ok charts ∧ ChartedOnce c.capture cgroupAccount charts) := by
  refine ⟨fun _ _ read => (Capture.distinct_of_parse read).nodup_sectionKeys,
    fun name distinct => ⟨onePerKey distinct, discovered_iff distinct⟩, ?_, ?_⟩
  · intro discovered
    obtain ⟨charts, made, -⟩ := systemAccount.charts_total (by decide) c
      fun cpus filled => systemBusyChart_total c filled
    exact ⟨charts, made, chartedOnce (by decide) discovered made⟩
  · intro discovered
    obtain ⟨charts, made, -⟩ := cgroupAccount.charts_total (by decide) c
      fun cpus _ => cgroupBusyChart_total c cpus
    exact ⟨charts, made, chartedOnce (by decide) discovered made⟩

/-- A capture with CPUs under the given keys. -/
def keyed (keys : List String) : Capture where
  header := {}
  samples := [⟨[]⟩, ⟨[("stat", .object (keys.map fun key => (key, .object [])))]⟩]

/-- Three CPUs among totals, numbers beyond 32 bits and other words. -/
def amongOthers : Capture :=
  keyed ["cpu_total", "cpu10", "cpu4294967296", "cpu0", "cpu-1", "cpus", "cpu", "cpu2"]

theorem discovered_amongOthers : (amongOthers.sectionKeys statSection).Nodup
    ∧ Discovered amongOthers statSection
    ∧ ∃ charts, systemProcessor { capture := amongOthers } = .ok charts
      ∧ charts.dropLast.map Chart.selector
        = ["CPU0", "CPU2", "CPU10"].map (.comboEntry "Logical CPUs (baremetal)") := by
  have distinct : (amongOthers.sectionKeys statSection).Nodup := by decide
  have plain : PlainKeys amongOthers statSection := by decide +kernel
  obtain ⟨-, exactly, system, -⟩ := discovered_iff_plainKeys { capture := amongOthers }
  have discovered : Discovered amongOthers statSection := (exactly statSection distinct).2.2 plain
  obtain ⟨charts, made, once⟩ := system discovered
  have read : (amongOthers.sectionKeys statSection).filterMap cpuIndex? = [10, 0, 2] := by
    decide +kernel
  have cpus : amongOthers.logicalCpus systemAccount.sectionName = [0, 2, 10] := by
    change (((amongOthers.sectionKeys statSection).filterMap cpuIndex?).mergeSort _) = _
    rw [read]
    simp [List.mergeSort, List.MergeSort.Internal.splitInTwo]
  refine ⟨distinct, discovered, charts, made, ?_⟩
  rw [once.selectors, Account.entries, cpus]
  rfl

/-- Two keys spell the same CPU, and a third one spells a CPU that has no plain key. -/
def spelledTwice : Capture := keyed ["cpu1", "cpu01", "cpu+7"]

theorem not_discovered_spelledTwice : (spelledTwice.sectionKeys statSection).Nodup
    ∧ spelledTwice.logicalCpus statSection = [1, 1, 7]
    ∧ Account.cpuKey 7 ∉ spelledTwice.sectionKeys statSection
    ∧ ¬ Discovered spelledTwice statSection := by
  have read : (spelledTwice.sectionKeys statSection).filterMap cpuIndex? = [1, 1, 7] := by
    decide +kernel
  have cpus : spelledTwice.logicalCpus statSection = [1, 1, 7] := by
    rw [Capture.logicalCpus, read]
    simp [List.mergeSort, List.MergeSort.Internal.splitInTwo]
  have mixed : ¬ PlainKeys spelledTwice statSection := by decide +kernel
  exact ⟨by decide, cpus, by decide +kernel, fun found => mixed (plain_of_discovered found)⟩

end Metric

end UsageReport
