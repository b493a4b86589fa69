import Mathlib
import UsageReport.Capture.Basic
import UsageReport.Proofs.Json.Distinct

/-! Captures that were read. A document is a capture if it has a header and a list of objects as its
samples. No section of a capture that was read has a key twice, and its CPUs are counted once each
where no two keys spell the same number. -/

namespace UsageReport.Capture

open UsageReport.Json (Value Object)

variable {c : Capture} {name : String}

/-! ### Parts -/

theorem parts_of_ofJson {least : Nat} {document : Value} {c : Capture}
    (accepted : ofJson least document = .ok c) :
    ∃ fields header samples, document = .object fields
      ∧ fields.lookup "header" = some header ∧ fields.lookup "samples" = some samples
      ∧ Header.ofJson? header = some c.header ∧ samples? samples = some c.samples := by
  unfold ofJson at accepted
  split at accepted
  case h_2 => cases accepted
  case h_1 header headerIs =>
    split at accepted
    case h_2 => cases accepted
    case h_1 samples samplesIs =>
      split at accepted
      case h_2 => cases accepted
      case h_1 h headerRead =>
        split at accepted
        case h_2 => cases accepted
        case h_1 s samplesRead =>
          split at accepted
          case isTrue => cases accepted
          case isFalse =>
            cases accepted
            cases document
            case object fields =>
              exact ⟨fields, header, samples, rfl, headerIs, samplesIs, headerRead, samplesRead⟩
            all_goals cases headerIs

/-- The samples are all items of an array, which are objects. -/
theorem samples?_eq_some_iff {v : Value} {samples : List Sample} :
    samples? v = some samples ↔ v = .array (samples.map fun s => .object s.fields) := by
  have items (items : List Value) (samples : List Sample) :
      items.mapM (fun item => item.object?.map Sample.mk) = some samples
        ↔ items = samples.map fun s => .object s.fields := by
    induction items generalizing samples with
    | nil =>
      rw [List.mapM_nil]
      constructor
      · rintro ⟨⟩
        rfl
      · intro none
        rw [List.map_eq_nil_iff.1 none.symm]
        rfl
    | cons item items ih =>
      rw [List.mapM_cons, Option.bind_eq_bind, Option.bind_eq_some_iff]
      constructor
      · rintro ⟨s, first, rest⟩
        obtain ⟨fields, object, rfl⟩ := Option.map_eq_some_iff.1 first
        obtain ⟨others, read, same⟩ := Option.bind_eq_some_iff.1 rest
        cases same
        rw [Value.object?_eq_some object, (ih others).1 read, List.map_cons]
      · intro same
        obtain ⟨s, others, rfl, rfl, rest⟩ := List.map_eq_cons_iff.1 same.symm
        exact ⟨s, rfl, Option.bind_eq_some_iff.2 ⟨others, (ih others).2 rest.symm, rfl⟩⟩
  constructor
  · intro read
    obtain ⟨listed, array, read⟩ := Option.bind_eq_some_iff.1 read
    rw [Value.array?_eq_some array, (items _ _).1 read]
  · rintro rfl
    exact (items _ _).2 rfl

/-- A document with a header and samples is a capture if there are enough of them. -/
theorem ofJson_eq {fields : Object} {header listed : Value} {h : Header} {samples : List Sample}
    (least : Nat) (header? : fields.lookup "header" = some header)
    (samples? : fields.lookup "samples" = some listed) (readHeader : Header.ofJson? header = some h)
    (readSamples : Capture.samples? listed = some samples) :
    ofJson least (.object fields)
      = if samples.length < least then .error (.tooFewSamples samples.length least)
        else .ok ⟨h, samples⟩ := by
  have header? : (Value.object fields).field? "header" = some header := header?
  have samples? : (Value.object fields).field? "samples" = some listed := samples?
  simp only [ofJson, header?, samples?, readHeader, readSamples]
  rfl

theorem ofJson_eq_ok {least : Nat} {fields : Object} {header samples : Value} {c : Capture}
    (header? : fields.lookup "header" = some header)
    (samples? : fields.lookup "samples" = some samples)
    (readHeader : Header.ofJson? header = some c.header)
    (readSamples : Capture.samples? samples = some c.samples) (enough : least ≤ c.samples.length) :
    ofJson least (.object fields) = .ok c := by
  rw [ofJson_eq least header? samples? readHeader readSamples, if_neg (Nat.not_lt.2 enough)]

/-! ### Keys -/

/-- No object in the samples has two fields of one name. -/
def Distinct (c : Capture) : Prop := ∀ s ∈ c.samples, (Value.object s.fields).Distinct

theorem distinct_of_ofJson {least : Nat} {v : Value} (distinct : v.Distinct)
    (read : ofJson least v = .ok c) : c.Distinct := by
  obtain ⟨fields, header, listed, rfl, -, inside, -, read⟩ := parts_of_ofJson read
  rw [samples?_eq_some_iff.1 read] at inside
  intro s member
  exact (distinct.field inside).item (List.mem_map_of_mem member)

theorem distinct_of_parse {least : Nat} {text : String} (read : parse least text = .ok c) :
    c.Distinct := by
  unfold parse at read
  split at read
  case h_1 v parsed => exact distinct_of_ofJson (Json.distinct_of_parse? parsed) read
  case h_2 => cases read

theorem Distinct.nodup_sectionKeys (distinct : c.Distinct) (name : String) :
    (c.sectionKeys name).Nodup := by
  rw [sectionKeys]
  cases found : c.templateSection? name with
  | none => exact .nil
  | some fields =>
    obtain ⟨s, template, there⟩ := Option.bind_eq_some_iff.1 found
    obtain ⟨v, inside, object⟩ := Option.bind_eq_some_iff.1 there
    obtain rfl := Value.object?_eq_some object
    have inSamples : s ∈ c.samples := List.mem_of_getElem? template
    exact ((distinct s inSamples).field inside).names

/-- No two keys of the template's section spell the number of the same CPU. -/
def CpusApart (c : Capture) (name : String) : Prop :=
  ∀ key ∈ c.sectionKeys name, ∀ key' ∈ c.sectionKeys name, ∀ cpu,
    cpuIndex? key = some cpu → cpuIndex? key' = some cpu → key = key'

theorem nodup_logicalCpus (keys : (c.sectionKeys name).Nodup) (apart : c.CpusApart name) :
    (c.logicalCpus name).Nodup := by
  rw [logicalCpus, (List.mergeSort_perm _ _).nodup_iff, List.Nodup, List.pairwise_filterMap]
  refine List.Pairwise.imp_of_mem ?_ keys
  rintro key key' inside inside' other cpu spelled cpu' spelled' rfl
  exact other (apart key inside key' inside' cpu spelled spelled')

end UsageReport.Capture
