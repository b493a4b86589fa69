import Mathlib
import UsageReport.Metric.Device
import UsageReport.Proofs.Metric.Curve
import UsageReport.Proofs.Number.Packing

/-! What the charts of devices show. Each device of the template has two columns, and no other
device has any. The two counters of an interface are read together, so that both cells are zero
where one of them is missing; those of a disk are read one by one. -/

namespace UsageReport.Metric

open UsageReport.Capture (number? fieldOrZero)
open UsageReport.Chart (Source)
open UsageReport.Json (Object Value)
open UsageReport.Table (Row)

/-! ### Cells -/

/-- A counter of a device, none where it is no number or the device is absent. -/
def counter? (devices : Object) (device key : String) : Option Number :=
  ((devices.lookup device).bind Value.object?).bind (number? · key)

/-- Cells of what flows in and out of a device, for two counters that are read together. -/
structure Paired (received sent : Option Number) (scale : Number) (cells : Number × Number) :
    Prop where
  both : ∀ a b, received = some a → sent = some b → cells = (a / scale, -b / scale)
  missing : received = none ∨ sent = none → cells = (0, 0)

/-- Cells of what flows in and out of a device, for two counters that are read one by one. -/
structure Separate (received sent : Option Number) (scale : Number) (cells : Number × Number) :
    Prop where
  first : ∀ a, received = some a → cells.1 = a / scale
  second : ∀ b, sent = some b → cells.2 = -b / scale
  firstMissing : received = none → cells.1 = 0
  secondMissing : sent = none → cells.2 = -0

def Traffic.cells (t : Traffic) (interfaces : Object) (device : String) : Number × Number :=
  match counter? interfaces device t.inKey, counter? interfaces device t.outKey with
  | some received, some sent => (received / t.scale, -sent / t.scale)
  | _, _ => (0, 0)

theorem Traffic.flow_eq (t : Traffic) (interfaces : Object) (device : String) :
    t.flow interfaces device
      = [(t.cells interfaces device).1, (t.cells interfaces device).2] := by
  unfold Traffic.flow Traffic.cells counter?
  cases (interfaces.lookup device).bind Value.object? with
  | none => rfl
  | some stats =>
    simp only [Option.bind_some]
    cases number? stats t.inKey with
    | none => rfl
    | some received => cases number? stats t.outKey <;> rfl

theorem Traffic.paired (t : Traffic) (interfaces : Object) (device : String) :
    Paired (counter? interfaces device t.inKey) (counter? interfaces device t.outKey) t.scale
      (t.cells interfaces device) where
  both a b known known' := by rw [Traffic.cells, known, known']
  missing := by
    unfold Traffic.cells
    rintro (none | none)
    · rw [none]
    · rw [none]
      cases counter? interfaces device t.inKey <;> rfl

def diskCells (disks : Object) (device : String) : Number × Number :=
  (megabytesOfKilo (fieldOrZero disks device "rkb"),
    megabytesOfKilo (-fieldOrZero disks device "wkb"))

theorem diskCells_separate (disks : Object) (device : String) :
    Separate (counter? disks device "rkb") (counter? disks device "wkb") 1000
      (diskCells disks device) := by
  have field (key : String) : fieldOrZero disks device key = (counter? disks device key).getD 0 :=
    rfl
  have zero : (0 : Number) / 1000 = 0 := Number.ext (by decide +kernel)
  have negativeZero : (-0 : Number) / 1000 = -0 := Number.ext (by decide +kernel)
  constructor
  case first =>
    intro a known
    rw [diskCells, field, known]
    rfl
  case second =>
    intro b known
    rw [diskCells, field "wkb", known]
    rfl
  case firstMissing =>
    intro none
    rw [diskCells, field, none]
    exact zero
  case secondMissing =>
    intro none
    rw [diskCells, field "wkb", none]
    exact negativeZero

/-! ### Columns -/

/-- The curves of a device: what flows in, then what flows out. -/
def pairCurves (labels : String × String) (unit : String)
    (cells : Object → String → Number × Number) (device : String) : List (Curve Reading) :=
  [⟨device ++ labels.1, unit, fun r => (cells r.fields device).1⟩,
    ⟨device ++ labels.2, unit, fun r => (cells r.fields device).2⟩]

variable {labels : String × String} {unit : String} {cells : Object → String → Number × Number}
  {flow : Object → String → List Number} {devices : List String}

theorem pairRows_eq (two : ∀ o device, flow o device = [(cells o device).1, (cells o device).2])
    (labels : String × String) (unit : String) (devices : List String) (readings : List Reading) :
    (readings.map fun r => Row.mk r.time (devices.flatMap (flow r.fields)))
      = rowsOf Reading.time readings (devices.flatMap (pairCurves labels unit cells)) := by
  refine List.map_congr_left fun r _ => ?_
  rw [List.map_flatMap]
  exact congrArg (Row.mk r.time) (List.flatMap_congr fun device _ => two r.fields device)

theorem pairColumns_eq (labels : String × String) (unit : String) (devices : List String)
    (cells : Object → String → Number × Number) :
    (devices.flatMap fun device => [device ++ labels.1, device ++ labels.2]).map (·, unit)
      = (devices.flatMap (pairCurves labels unit cells)).map Curve.column := by
  rw [List.map_flatMap, List.map_flatMap]
  rfl

theorem pairCurves_ne_nil (filled : devices ≠ []) :
    devices.flatMap (pairCurves labels unit cells) ≠ [] := by
  cases devices with
  | nil => exact absurd rfl filled
  | cons device devices => exact List.cons_ne_nil _ _

/-- The chart has two columns for each device of the template and no other ones, and a row for each
reading. -/
structure ShowsDevices (c : Capture) (name : String) (labels : String × String) (unit : String)
    (cells : Object → String → Number × Number) (chart : Chart) : Prop where
  times : chart.times = (readings c name).map Reading.time
  columns : chart.columns = (c.sectionKeys name).flatMap fun device =>
    [(⟨device ++ labels.1, unit⟩, (readings c name).map fun r => (cells r.fields device).1),
      (⟨device ++ labels.2, unit⟩, (readings c name).map fun r => (cells r.fields device).2)]

theorem showsDevices_of_traces {c : Capture} {name : String} {chart : Chart}
    (traces : Traces chart Reading.time (readings c name)
      ((c.sectionKeys name).flatMap (pairCurves labels unit cells))) :
    ShowsDevices c name labels unit cells chart where
  times := traces.times
  columns := by
    rw [traces.columns, List.map_flatMap]
    rfl

/-! ### Charts -/

def flowLabels : String × String := ("+in", "-out")

def diskLabels : String × String := (" Read MB", " Write MB")

theorem trafficChart_eq_ok (c : Context) (name : String) (source : Source) (origin : String)
    (filled : c.capture.sectionKeys name ≠ []) (t : Traffic) :
    ∃ chart, trafficChart c name source origin (c.capture.sectionKeys name) t = .ok chart
      ∧ ShowsDevices c.capture name flowLabels t.unit t.cells chart := by
  have columns : ((c.capture.sectionKeys name).flatMap fun device =>
      [device ++ "+in", device ++ "-out"]).map (·, t.unit) = _ :=
    pairColumns_eq flowLabels t.unit (c.capture.sectionKeys name) t.cells
  have rows := pairRows_eq t.flow_eq flowLabels t.unit (c.capture.sectionKeys name)
    (readings c.capture name)
  obtain ⟨chart, made, traces, -⟩ :
      ∃ chart, trafficChart c name source origin (c.capture.sectionKeys name) t = .ok chart
        ∧ Traces chart Reading.time (readings c.capture name)
          ((c.capture.sectionKeys name).flatMap (pairCurves flowLabels t.unit t.cells))
        ∧ chart.secondaryCaps = [] := by
    unfold trafficChart
    simp only [columns, rows]
    exact trace_single (pairCurves_ne_nil filled) fun t => ⟨rfl, rfl, rfl, rfl⟩
  exact ⟨chart, made, showsDevices_of_traces traces⟩

/-- The traffic of a section's interfaces has one chart for each way to count it. -/
theorem network_shows (c : Context) (name : String) (source : Source) (origin : String) :
    ∃ charts, network c name source origin = .ok charts
      ∧ List.Forall₂ (fun (t : Traffic) => ShowsDevices c.capture name flowLabels t.unit t.cells)
        (if c.capture.sectionKeys name = [] then [] else [Traffic.bytes, Traffic.packets])
        charts := by
  unfold network
  by_cases none : c.capture.sectionKeys name = []
  · refine ⟨[], by simp only [none, if_true]; rfl, ?_⟩
    rw [if_pos none]
    exact .nil
  · obtain ⟨bytes, madeBytes, showsBytes⟩ :=
      trafficChart_eq_ok c name source origin none Traffic.bytes
    obtain ⟨packets, madePackets, showsPackets⟩ :=
      trafficChart_eq_ok c name source origin none Traffic.packets
    refine ⟨[bytes, packets], ?_, ?_⟩
    · simp only [if_neg none, List.mapM_cons, List.mapM_nil, madeBytes, madePackets]
      rfl
    · rw [if_neg none]
      exact .cons showsBytes (.cons showsPackets .nil)

theorem disks_shows (c : Context) : ∃ charts, disks c = .ok charts
    ∧ charts.length = (if c.capture.sectionKeys disksSection = [] then 0 else 1)
    ∧ ∀ chart ∈ charts,
      ShowsDevices c.capture disksSection diskLabels megabytes diskCells chart := by
  by_cases none : c.capture.sectionKeys disksSection = []
  · refine ⟨[], ?_, ?_, by simp⟩
    · unfold disks
      simp only [none, if_true]
      rfl
    · rw [if_pos none]
      rfl
  · have columns : ((c.capture.sectionKeys disksSection).flatMap fun device =>
        [device ++ " Read MB", device ++ " Write MB"]).map (·, megabytes) = _ :=
      pairColumns_eq diskLabels megabytes (c.capture.sectionKeys disksSection) diskCells
    have two (o : Object) (device : String) :
        diskFlow o device = [(diskCells o device).1, (diskCells o device).2] := rfl
    have rows := pairRows_eq two diskLabels megabytes (c.capture.sectionKeys disksSection)
      (readings c.capture disksSection)
    obtain ⟨chart, made, traces, -⟩ : ∃ chart, disks c = .ok [chart]
        ∧ Traces chart Reading.time (readings c.capture disksSection)
          ((c.capture.sectionKeys disksSection).flatMap
            (pairCurves diskLabels megabytes diskCells))
        ∧ chart.secondaryCaps = [] := by
      unfold disks
      simp only [if_neg none, columns, rows]
      exact plot_alone (trace_single (pairCurves_ne_nil none) fun t => ⟨rfl, rfl, rfl, rfl⟩)
    refine ⟨[chart], made, ?_, ?_⟩
    · rw [if_neg none]
      rfl
    · intro chart' inside
      rw [List.mem_singleton.1 inside]
      exact showsDevices_of_traces traces

/-- Every device of the template has two cells in every row. The counters of interfaces are read
together, those of disks one by one. -/
theorem devices_of_template (c : Context) :
    (∀ name source origin, ∃ charts, network c name source origin = .ok charts
      ∧ List.Forall₂ (fun (t : Traffic) => ShowsDevices c.capture name flowLabels t.unit t.cells)
        (if c.capture.sectionKeys name = [] then [] else [Traffic.bytes, Traffic.packets]) charts)
    ∧ (∃ charts, disks c = .ok charts
      ∧ charts.length = (if c.capture.sectionKeys disksSection = [] then 0 else 1)
      ∧ ∀ chart ∈ charts,
        ShowsDevices c.capture disksSection diskLabels megabytes diskCells chart)
    ∧ (∀ (t : Traffic) (interfaces : Object) (device : String),
      Paired (counter? interfaces device t.inKey) (counter? interfaces device t.outKey) t.scale
        (t.cells interfaces device))
    ∧ ∀ (disks : Object) (device : String),
      Separate (counter? disks device "rkb") (counter? disks device "wkb") 1000
        (diskCells disks device) :=
  ⟨network_shows c, disks_shows c, Traffic.paired, diskCells_separate⟩

/-- A capture of a disk that has no count of what was written to it. -/
def readOnly : Capture where
  header := {}
  samples := [⟨[]⟩,
    ⟨[("timestamp", .object [("UTC", .string "2022-01-18T00:02:48")]),
      ("disks", .object [("sda", .object [("rkb", .integer 2000)])])]⟩]

/-- Where one counter of a disk is missing, the cell of the other one is not zero. -/
theorem disks_readOnly : ∃ chart, disks ⟨readOnly, {}, 20⟩ = .ok [chart]
    ∧ (readings readOnly disksSection).map (fun r => counter? r.fields "sda" "wkb") = [none]
    ∧ chart.columns
      = [(⟨"sda Read MB", megabytes⟩, [2]), (⟨"sda Write MB", megabytes⟩, [-0])]
    ∧ ((2 : Number) == 0) = false := by
  obtain ⟨charts, made, count, shows⟩ := disks_shows ⟨readOnly, {}, 20⟩
  obtain ⟨chart, rfl⟩ := List.length_eq_one_iff.1 count
  have read : (readings readOnly disksSection).map (fun r => (diskCells r.fields "sda").1) = [2] :=
    Number.eq_of_bits (by decide +kernel)
  have written : (readings readOnly disksSection).map (fun r => (diskCells r.fields "sda").2)
      = [-0] := Number.eq_of_bits (by decide +kernel)
  refine ⟨chart, made, rfl, ?_, by decide +kernel⟩
  rw [(shows chart (List.mem_singleton_self chart)).columns, ← read, ← written]
  rfl

end UsageReport.Metric
