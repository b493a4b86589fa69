import Mathlib
import UsageReport.Proofs.Capture.Cut
import UsageReport.Proofs.Capture.Loaded
import UsageReport.Proofs.Metric.Reading

/-! Captures cut down to a window of time. Where the window has the first two samples the header and
the template stay, and the readings of a section are those of the whole capture in the window. -/

namespace UsageReport.Capture

open UsageReport.Json (Fields Object Value)
open UsageReport.Time (Instant)

/-- The instant of a sample whose timestamp is there and can be read. -/
def Sample.instant? (s : Sample) : Option Instant :=
  s.utc?.bind fun utc => (Instant.parse utc).toOption

/-- The capture `part` has the first two samples of `whole` and of the others those at whose
instants `keep` holds. -/
structure Keeps (keep : Instant → Bool) (whole part : Capture) : Prop where
  header : part.header = whole.header
  samples : ∃ start template rest, whole.samples = start :: template :: rest
    ∧ part.samples = start :: template :: rest.filter (·.instant?.any keep)
    ∧ template.instant?.any keep

namespace Keeps

variable {keep : Instant → Bool} {whole part : Capture} (keeps : Keeps keep whole part)
  (name : String)
include keeps

theorem template? : part.template? = whole.template? := by
  obtain ⟨start, template, rest, samples, samples', -⟩ := keeps.samples
  rw [Capture.template?, samples', Capture.template?, samples]
  rfl

theorem templateSection? : part.templateSection? name = whole.templateSection? name := by
  rw [Capture.templateSection?, keeps.template?, Capture.templateSection?]

theorem hasSection : part.hasSection name = whole.hasSection name := by
  rw [Capture.hasSection, keeps.templateSection?, Capture.hasSection]

theorem sectionKeys : part.sectionKeys name = whole.sectionKeys name := by
  rw [Capture.sectionKeys, keeps.templateSection?, Capture.sectionKeys]

theorem logicalCpus : part.logicalCpus name = whole.logicalCpus name := by
  rw [Capture.logicalCpus, keeps.sectionKeys, Capture.logicalCpus]

theorem dataSamples : part.dataSamples = whole.dataSamples.filter (·.instant?.any keep) := by
  obtain ⟨start, template, rest, samples, samples', kept⟩ := keeps.samples
  have behind : whole.dataSamples = template :: rest := by rw [Capture.dataSamples, samples]; rfl
  have behind' : part.dataSamples = template :: rest.filter (·.instant?.any keep) := by
    rw [Capture.dataSamples, samples']
    rfl
  rw [behind, behind', List.filter_cons, if_pos kept]

end Keeps

/-! ### Readings -/

/-- What the samples with readings say about a section, each at its instant. -/
def seen (c : Capture) (name : String) : List (Instant × Object) :=
  c.dataSamples.filterMap fun s => s.instant?.bind fun t => (s.section? name).map (t, ·)

/-- A reading is of the section of a sample and at its instant. -/
theorem map_readings (c : Capture) (name : String) :
    (Metric.readings c name).map (fun r => (r.time, r.fields)) = c.seen name := by
  have each (s : Sample) (index : Nat) : (Metric.reading? name s index).map
      (fun r => (r.time, r.fields)) = s.instant?.bind fun t => (s.section? name).map (t, ·) := by
    rw [Metric.reading?, Sample.instant?]
    cases s.utc? with
    | none => rfl
    | some utc =>
      cases read : (Instant.parse utc).toOption with
      | none => simp [read]
      | some t => cases s.section? name <;> simp [read]
  rw [seen, ← map_fst_indexedSamples, List.filterMap_map, Metric.readings, List.map_filterMap]
  exact List.filterMap_congr fun entry _ => each entry.1 entry.2

theorem Keeps.seen {keep : Instant → Bool} {whole part : Capture} (keeps : Keeps keep whole part)
    (name : String) : part.seen name = (whole.seen name).filter (keep ·.1) := by
  rw [Capture.seen, keeps.dataSamples, Capture.seen, List.filterMap_filter, List.filter_filterMap]
  refine List.filterMap_congr fun s _ => ?_
  cases s.instant? with
  | none => simp
  | some t =>
    cases s.section? name with
    | none => simp
    | some fields => simp [Option.filter]

/-- Rows of readings that do not ask for the place of their sample are those of the whole capture
at whose instants `keep` holds. -/
theorem Keeps.rows {keep : Instant → Bool} {whole part : Capture} (keeps : Keeps keep whole part)
    (name : String) {row? : Metric.Reading → Option Table.Row}
    (blind : ∀ r, row? r = row? ⟨0, r.time, r.fields⟩)
    (timed : ∀ r row, row? r = some row → row.time = r.time) :
    (Metric.readings part name).filterMap row?
      = ((Metric.readings whole name).filterMap row?).filter (keep ·.time) := by
  have whole' (c : Capture) : (Metric.readings c name).filterMap row?
      = (c.seen name).filterMap fun (time, fields) => row? ⟨0, time, fields⟩ := by
    rw [← map_readings, List.filterMap_map]
    exact List.filterMap_congr fun r _ => blind r
  -- The two captures number their samples differently, so that their readings differ as well: only
  -- what is seen at each instant is the same.
  rw [whole', whole', keeps.seen, List.filterMap_filter, List.filter_filterMap]
  refine List.filterMap_congr fun entry _ => ?_
  obtain ⟨time, fields⟩ := entry
  cases made : row? ⟨0, time, fields⟩ with
  | none => simp [made]
  | some row => simp [made, Option.filter, timed _ _ made]

/-! ### Windows -/

open Document (InWindow inWindow samplesKey)

variable {c : Capture} {least : Nat} {fields : Object} {d : Document} {first last : Option Instant}

theorem inWindow_object (s : Sample) :
    decide (InWindow (first, last) (.object s.fields)) = s.instant?.any (inWindow first last) := by
  rw [Bool.eq_iff_iff, decide_eq_true_iff, ← Document.inWindow_iff]
  rfl

/-- A document whose samples are those of a capture. -/
theorem document_of_ofJson (read : ofJson least (.object fields) = .ok c) :
    Document.ofJson? (.object fields) = some
      ⟨Fields.swapRemove fields samplesKey, c.samples.map fun s => .object s.fields⟩ := by
  obtain ⟨_, header, listed, same, -, inside, -, read⟩ := parts_of_ofJson read
  cases same
  rw [samples?_eq_some_iff.1 read] at inside
  have inside : fields.lookup samplesKey
      = some (.array (c.samples.map fun s => .object s.fields)) := inside
  simp only [Document.ofJson?, Value.object?, Option.bind_eq_bind, Option.bind_some, inside,
    Value.array?]
  rfl

/-- A capture is read from the document that a window leaves. -/
theorem ofJson_cut (distinct : fields.names.Nodup) (read : ofJson least (.object fields) = .ok c)
    (kept : List Sample) {least' : Nat} (enough : least' ≤ kept.length) :
    ofJson least' (Document.json ⟨Fields.swapRemove fields samplesKey,
      kept.map fun s => .object s.fields⟩) = .ok ⟨c.header, kept⟩ := by
  obtain ⟨_, header, listed, same, header?, inside, readHeader, -⟩ := parts_of_ofJson read
  cases same
  have other : "header" ≠ samplesKey := by decide
  have header' := Fields.lookup_set_swapRemove distinct inside
    (.array (kept.map fun s => .object s.fields)) other
  refine ofJson_eq_ok (header'.trans header?) ?_ readHeader (samples?_eq_some_iff.2 rfl) enough
  rw [Fields.lookup_set]
  exact if_pos rfl

theorem keeps_window {start template : Sample} {rest : List Sample}
    (samples : c.samples = start :: template :: rest)
    (kept : start.instant?.any (inWindow first last))
    (kept' : template.instant?.any (inWindow first last)) :
    Keeps (inWindow first last) c
      ⟨c.header, c.samples.filter (·.instant?.any (inWindow first last))⟩ := by
  refine ⟨rfl, start, template, rest, samples, ?_, kept'⟩
  rw [samples, List.filter_cons, if_pos kept, List.filter_cons, if_pos kept']

end UsageReport.Capture
