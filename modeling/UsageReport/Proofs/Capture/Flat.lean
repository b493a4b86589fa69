import Mathlib
import UsageReport.Metric.Topic
import UsageReport.Proofs.Json.Flattened

/-! Captures whose counters are nested and captures whose counters are flat. The objects with
counters of a cgroup are flattened in every sample; all else of the samples stays as it is. -/

namespace UsageReport

open UsageReport.Capture (Sample)
open UsageReport.Json (Object Value Dotless flattened joined nested?)
open UsageReport.Metric (accountingSection cgroupMemorySection)

/-! ### Flat captures -/

/-- The names of the objects with counters in a section of the cgroup. -/
def nestedNames (sectionName : String) : List String :=
  if sectionName = accountingSection then ["throttling", "cpu_tot"]
  else if sectionName = cgroupMemorySection then ["stat", "events"]
  else []

def flatSection (name : String) : Value → Value
  | .object fields => .object (flattened (nestedNames name) fields)
  | v => v

def Capture.Sample.flat (s : Sample) : Sample :=
  ⟨s.fields.map fun (name, v) => (name, flatSection name v)⟩

/-- The capture with flat counters of the cgroup. -/
def Capture.flat (c : Capture) : Capture := { c with samples := c.samples.map Sample.flat }

/-- No field of the object has the name that a nested counter gets. -/
def Fresh (names : List String) (fields : Object) : Prop :=
  ∀ name ∈ names, ∀ key, (nested? fields name key).isSome → joined name key ∉ fields.names

/-- No counter of a section of the cgroup is there in both layouts. -/
def Capture.OneLayout (c : Capture) : Prop :=
  ∀ s ∈ c.samples, ∀ name fields, s.section? name = some fields → Fresh (nestedNames name) fields

/-- Names without points leave no doubt about the layout. -/
theorem Capture.oneLayout_of_dotless {c : Capture} (dotless : ∀ s ∈ c.samples, ∀ field ∈ s.fields,
    ∀ key ∈ ((field.2.object?.map Json.Fields.names).getD []), Dotless key) : c.OneLayout := by
  intro s inside name fields found name' _ key _ there
  obtain ⟨v, named, object⟩ := Option.bind_eq_some_iff.1 found
  obtain ⟨before, after, split, -⟩ := List.lookup_eq_some_iff.1 named
  have member : (name, v) ∈ s.fields := by
    rw [split]
    simp
  have plain := dotless s inside (name, v) member (joined name' key) (by
    rw [object]
    exact there)
  exact plain.ne_joined name' key rfl

theorem dotless_nestedNames {sectionName name : String} (moved : name ∈ nestedNames sectionName) :
    Dotless name := by
  unfold nestedNames at moved
  split_ifs at moved
  · revert name
    decide
  · revert name
    decide
  · cases moved

namespace Capture

variable {c : Capture}

theorem Sample.lookup_flat (s : Sample) (name : String) :
    s.flat.fields.lookup name = (s.fields.lookup name).map (flatSection name) :=
  Json.Fields.lookup_map_values flatSection

theorem Sample.section?_flat (s : Sample) (name : String) :
    s.flat.section? name = (s.section? name).map (flattened (nestedNames name)) := by
  rw [section?, section?, lookup_flat]
  cases s.fields.lookup name with
  | none => rfl
  | some v => cases v <;> rfl

/-- A section without nested counters stays as it is. -/
theorem Sample.section?_flat_of_nil (s : Sample) {name : String} (none : nestedNames name = []) :
    s.flat.section? name = s.section? name := by
  rw [section?_flat, none]
  cases s.section? name with
  | none => rfl
  | some fields => rw [Option.map_some, Json.flattened_nil]

theorem Sample.utc?_flat (s : Sample) : s.flat.utc? = s.utc? := by
  have none : nestedNames "timestamp" = [] := by decide
  rw [utc?, utc?, lookup_flat]
  cases s.fields.lookup "timestamp" with
  | none => rfl
  | some v =>
    cases v with
    | object fields =>
      rw [Option.map_some, flatSection, none, Json.flattened_nil]
    | _ => rfl

theorem template?_flat (c : Capture) : c.flat.template? = c.template?.map Sample.flat :=
  List.getElem?_map ..

theorem templateSection?_flat (c : Capture) (name : String) :
    c.flat.templateSection? name
      = (c.templateSection? name).map (flattened (nestedNames name)) := by
  rw [templateSection?, templateSection?, template?_flat]
  cases c.template? with
  | none => rfl
  | some s => exact s.section?_flat name

theorem hasSection_flat (c : Capture) (name : String) :
    c.flat.hasSection name = c.hasSection name := by
  rw [hasSection, hasSection, templateSection?_flat, Option.isSome_map]

theorem dataSamples_flat (c : Capture) : c.flat.dataSamples = c.dataSamples.map Sample.flat :=
  (List.map_drop ..).symm

theorem indexedSamples_flat (c : Capture) :
    c.flat.indexedSamples = c.indexedSamples.map fun (s, index) => (s.flat, index) := by
  rw [indexedSamples, indexedSamples, flat, List.zipIdx_map, List.map_drop]
  rfl

end Capture

end UsageReport
