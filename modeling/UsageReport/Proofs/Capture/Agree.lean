import Mathlib
import UsageReport.Proofs.Metric.Reading

/-! Captures that agree on some sections. Only the samples behind the first one count, and of them
only the given sections and, for readings, the timestamps; all else may differ. -/

namespace UsageReport.Capture

/-- Both captures have as many samples, and behind the first one the samples agree on the
sections. -/
structure AgreeOn (names : List String) (c c' : Capture) : Prop where
  count : c.samples.length = c'.samples.length
  sections : ∀ index, firstReading ≤ index → ∀ s s', c.samples[index]? = some s →
    c'.samples[index]? = some s' → ∀ name ∈ names, s.section? name = s'.section? name

/-- The captures agree on the sections, on the timestamps of the samples behind the first one, and
on the header. -/
structure ReadAlike (names : List String) (c c' : Capture) : Prop extends AgreeOn names c c' where
  header : c.header = c'.header
  times : ∀ index, firstReading ≤ index → ∀ s s', c.samples[index]? = some s →
    c'.samples[index]? = some s' → s.utc? = s'.utc?

variable {β : Type} {c c' : Capture} {names : List String} {name : String}

/-! ### Views of samples -/

/-- The samples with readings are related where those of the captures at each index are. -/
theorem forall₂_indexedSamples {R : Sample × Nat → Sample × Nat → Prop}
    (count : c.samples.length = c'.samples.length)
    (related : ∀ index, firstReading ≤ index → ∀ s s', c.samples[index]? = some s →
      c'.samples[index]? = some s' → R (s, index) (s', index)) :
    List.Forall₂ R c.indexedSamples c'.indexedSamples := by
  rw [List.forall₂_iff_get]
  constructor
  · rw [indexedSamples, indexedSamples, List.length_drop, List.length_drop, List.length_zipIdx,
      List.length_zipIdx, count]
  · intro k inside inside'
    have found := getElem?_indexedSamples c k
    have found' := getElem?_indexedSamples c' k
    rw [List.getElem?_eq_getElem inside] at found
    rw [List.getElem?_eq_getElem inside'] at found'
    obtain ⟨s, there, same⟩ := Option.map_eq_some_iff.1 found.symm
    obtain ⟨s', there', same'⟩ := Option.map_eq_some_iff.1 found'.symm
    rw [List.get_eq_getElem, List.get_eq_getElem, ← same, ← same']
    exact related _ (Nat.le_add_right _ _) s s' there there'

section
variable {view : Sample → β} (count : c.samples.length = c'.samples.length)
  (same : ∀ index, firstReading ≤ index → ∀ s s', c.samples[index]? = some s →
    c'.samples[index]? = some s' → view s = view s')
include count same

theorem view_getElem? {index : Nat} (late : firstReading ≤ index) :
    c.samples[index]?.map view = c'.samples[index]?.map view := by
  by_cases inside : index < c.samples.length
  · have inside' : index < c'.samples.length := count ▸ inside
    have found := List.getElem?_eq_getElem inside
    have found' := List.getElem?_eq_getElem inside'
    rw [found, found', Option.map_some, Option.map_some, same index late _ _ found found']
  · have outside' : c'.samples.length ≤ index := count ▸ Nat.le_of_not_lt inside
    rw [List.getElem?_eq_none (Nat.le_of_not_lt inside), List.getElem?_eq_none outside']

/-- The samples with readings look alike where the captures do. -/
theorem map_indexedSamples :
    c.indexedSamples.map (fun (s, index) => (view s, index))
      = c'.indexedSamples.map fun (s, index) => (view s, index) := by
  rw [← List.forall₂_eq_eq_eq, List.forall₂_map_left_iff, List.forall₂_map_right_iff]
  refine forall₂_indexedSamples count fun index late s s' there there' => ?_
  exact congrArg (·, index) (same index late s s' there there')

theorem map_dataSamples : c.dataSamples.map view = c'.dataSamples.map view := by
  have alike := congrArg (List.map Prod.fst) (map_indexedSamples count same)
  rw [List.map_map, List.map_map] at alike
  rw [← map_fst_indexedSamples, ← map_fst_indexedSamples, List.map_map, List.map_map]
  exact alike

end

/-! ### What follows for a capture -/

theorem AgreeOn.section_at (h : AgreeOn names c c') (inside : name ∈ names) {index : Nat}
    (late : firstReading ≤ index) :
    c.samples[index]?.bind (·.section? name) = c'.samples[index]?.bind (·.section? name) := by
  have alike := view_getElem? h.count
    (fun index late s s' found found' => h.sections index late s s' found found' name inside) late
  have joined := congrArg (·.bind id) alike
  rwa [Option.bind_map, Option.bind_map] at joined

theorem AgreeOn.templateSection? (h : AgreeOn names c c') (inside : name ∈ names) :
    c.templateSection? name = c'.templateSection? name :=
  h.section_at inside (Nat.le_refl firstReading)

theorem AgreeOn.hasSection (h : AgreeOn names c c') (inside : name ∈ names) :
    c.hasSection name = c'.hasSection name := by
  rw [Capture.hasSection, Capture.hasSection, h.templateSection? inside]

theorem AgreeOn.sectionKeys (h : AgreeOn names c c') (inside : name ∈ names) :
    c.sectionKeys name = c'.sectionKeys name := by
  rw [Capture.sectionKeys, Capture.sectionKeys, h.templateSection? inside]

theorem AgreeOn.logicalCpus (h : AgreeOn names c c') (inside : name ∈ names) :
    c.logicalCpus name = c'.logicalCpus name := by
  rw [Capture.logicalCpus, Capture.logicalCpus, h.sectionKeys inside]

theorem AgreeOn.map_section? (h : AgreeOn names c c') (inside : name ∈ names) :
    c.dataSamples.map (·.section? name) = c'.dataSamples.map (·.section? name) :=
  map_dataSamples h.count
    fun index late s s' found found' => h.sections index late s s' found found' name inside

/-- What is made from a section of the sample at an index is the same in both captures. -/
theorem AgreeOn.sampleAt_bind (h : AgreeOn names c c') (inside : name ∈ names) {index : Nat}
    (late : firstReading ≤ index) (make : Option Json.Object → Except Metric.Fault β) :
    (Metric.sampleAt c index >>= fun s => make (s.section? name))
      = Metric.sampleAt c' index >>= fun s => make (s.section? name) := by
  have alike := view_getElem? h.count
    (fun index late s s' found found' => h.sections index late s s' found found' name inside) late
  unfold Metric.sampleAt
  cases found : c.samples[index]? with
  | none =>
    cases found' : c'.samples[index]? with
    | none => rw [h.count]
    | some s' => rw [found, found'] at alike; cases alike
  | some s =>
    cases found' : c'.samples[index]? with
    | none => rw [found, found'] at alike; cases alike
    | some s' =>
      rw [found, found'] at alike
      exact congrArg make (Option.some.inj alike)

/-- The readings of a section are the same in both captures. -/
theorem ReadAlike.readings (h : ReadAlike names c c') (inside : name ∈ names) :
    Metric.readings c name = Metric.readings c' name := by
  have same : ∀ index, firstReading ≤ index → ∀ s s', c.samples[index]? = some s →
      c'.samples[index]? = some s' → (s.utc?, s.section? name) = (s'.utc?, s'.section? name) := by
    intro index late s s' found found'
    rw [h.times index late s s' found found', h.sections index late s s' found found' name inside]
  have alike := map_indexedSamples h.count same
  have viewed (c : Capture) : Metric.readings c name
      = (c.indexedSamples.map fun (s, index) => ((s.utc?, s.section? name), index)).filterMap
        fun ((utc, fields), index) => do
          let time ← (Time.Instant.parse (← utc)).toOption
          return ⟨index, time, ← fields⟩ := by
    rw [List.filterMap_map]
    rfl
  rw [viewed, viewed, alike]

end UsageReport.Capture
