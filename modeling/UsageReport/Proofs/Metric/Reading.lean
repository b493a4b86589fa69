import Mathlib
import UsageReport.Metric.Context
import UsageReport.Proofs.Steps

/-! The samples behind readings. Every reading knows the index of its sample, which the capture has,
so that other sections of the sample can be asked for. -/

namespace UsageReport

namespace Capture

theorem getElem?_indexedSamples (c : Capture) (k : Nat) :
    c.indexedSamples[k]? = (c.samples[firstReading + k]?).map (·, firstReading + k) := by
  rw [indexedSamples, List.getElem?_drop, List.getElem?_zipIdx, Nat.zero_add]

theorem map_fst_indexedSamples (c : Capture) : c.indexedSamples.map Prod.fst = c.dataSamples := by
  rw [indexedSamples, List.map_drop, List.zipIdx_map_fst]
  rfl

/-- The samples with readings are those behind the first one, each with its own index. -/
theorem mem_indexedSamples {c : Capture} {sample : Sample} {index : Nat} :
    (sample, index) ∈ c.indexedSamples
      ↔ firstReading ≤ index ∧ c.samples[index]? = some sample := by
  rw [List.mem_iff_getElem?]
  constructor
  · rintro ⟨k, found⟩
    rw [getElem?_indexedSamples, Option.map_eq_some_iff] at found
    obtain ⟨s, found, same⟩ := found
    obtain ⟨rfl, rfl⟩ := Prod.mk.inj same
    exact ⟨Nat.le_add_right _ _, found⟩
  · rintro ⟨late, found⟩
    obtain ⟨k, rfl⟩ := Nat.exists_eq_add_of_le late
    refine ⟨k, ?_⟩
    rw [getElem?_indexedSamples, found]
    rfl

end Capture

namespace Metric

open UsageReport.Capture (firstReading Sample)

theorem reading?_eq_some_iff {name : String} {sample : Sample} {index : Nat} {r : Reading} :
    reading? name sample index = some r
      ↔ r.index = index
        ∧ (sample.utc?.bind fun utc => (Time.Instant.parse utc).toOption) = some r.time
        ∧ sample.section? name = some r.fields := by
  obtain ⟨place, time, fields⟩ := r
  simp only [reading?, Option.bind_eq_bind, Option.bind_eq_some_iff, Option.pure_def,
    Option.some.injEq, Reading.mk.injEq]
  constructor
  · rintro ⟨utc, stamped, instant, parsed, found, named, rfl, rfl, rfl⟩
    exact ⟨rfl, ⟨utc, stamped, parsed⟩, named⟩
  · rintro ⟨rfl, ⟨utc, stamped, parsed⟩, named⟩
    exact ⟨utc, stamped, time, parsed, fields, named, rfl, rfl, rfl⟩

/-- A reading is of a sample that the capture has, behind the first one. -/
theorem reading?_of_mem_readings {c : Capture} {name : String} {r : Reading}
    (h : r ∈ readings c name) :
    ∃ sample, firstReading ≤ r.index ∧ c.samples[r.index]? = some sample
      ∧ reading? name sample r.index = some r := by
  obtain ⟨⟨sample, index⟩, member, found⟩ := List.mem_filterMap.1 h
  obtain ⟨rfl, -, -⟩ := reading?_eq_some_iff.1 found
  obtain ⟨late, there⟩ := Capture.mem_indexedSamples.1 member
  exact ⟨sample, late, there, found⟩

theorem sample_of_mem_readings {c : Capture} {name : String} {r : Reading}
    (h : r ∈ readings c name) :
    ∃ sample, firstReading ≤ r.index ∧ c.samples[r.index]? = some sample
      ∧ sample.section? name = some r.fields := by
  obtain ⟨sample, late, there, found⟩ := reading?_of_mem_readings h
  obtain ⟨-, -, named⟩ := reading?_eq_some_iff.1 found
  exact ⟨sample, late, there, named⟩

theorem sampleAt_eq_ok {c : Capture} {index : Nat} {sample : Sample}
    (h : c.samples[index]? = some sample) : sampleAt c index = .ok sample := by
  rw [sampleAt, h]

end Metric

end UsageReport
