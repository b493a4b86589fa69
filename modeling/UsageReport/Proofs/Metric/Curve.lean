import Mathlib
import UsageReport.Proofs.Metric.Plot

/-! Curves: series that are known by their cell at every moment. A chart that traces curves has one
column for each of them, and the cap of its secondary axis follows from the cells of one curve. -/

namespace UsageReport

open UsageReport.Chart (AxisMax Axis Request MarginPolicy)
open UsageReport.Number (largest?)
open UsageReport.Table (TimeSeries Series Row Categorical Cell)
open UsageReport.Time (Instant)

/-! ### What a chart shows -/

def Table.TimeSeries.columns (t : TimeSeries) : List (Series × List Number) :=
  t.series.zipIdx.map fun (series, index) => (series, t.column index)

def Chart.columns (chart : Chart) : List (Series × List Number) :=
  (chart.timeSeries?.map TimeSeries.columns).getD []

def Chart.times (chart : Chart) : List Instant :=
  (chart.timeSeries?.map fun t => t.rows.map Row.time).getD []

def Chart.items (chart : Chart) : List (List Cell) :=
  (chart.categorical?.map Categorical.rows).getD []

def Chart.secondaryCaps (chart : Chart) : List (Option Float) := chart.axes.tail.map Axis.cap

namespace Metric

/-- A series of a chart: its name and unit, and its cell at every moment. -/
structure Curve (μ : Type) where
  name : String
  unit : String
  cell : μ → Number

variable {μ : Type}

def Curve.column (curve : Curve μ) : String × String := (curve.name, curve.unit)

/-- The column that a curve has in a table with a row for each of the moments. -/
def Curve.shown (moments : List μ) (curve : Curve μ) : Series × List Number :=
  (⟨curve.name, curve.unit⟩, moments.map curve.cell)

def rowsOf (time : μ → Instant) (moments : List μ) (curves : List (Curve μ)) : List Row :=
  moments.map fun m => ⟨time m, curves.map (·.cell m)⟩

/-- The chart shows the curves at the moments. -/
def Traces (chart : Chart) (time : μ → Instant) (moments : List μ) (curves : List (Curve μ)) : Prop :=
  Shows chart (curves.map Curve.column) (rowsOf time moments curves)

/-- The cap of an axis that measures cells of the given values, with a margin. -/
def cap (margin : MarginPolicy) (values : List Number) : Option Float :=
  some (margin.cap ((largest? values).getD 0).value)

variable {time : μ → Instant} {moments : List μ} {curves : List (Curve μ)}

theorem rowsFit_rowsOf : RowsFit (curves.map Curve.column) (rowsOf time moments curves) := by
  intro row inside
  obtain ⟨m, -, rfl⟩ := List.mem_map.1 inside
  rw [List.length_map, List.length_map]

/-- A column holds the cells of its curve. -/
theorem column_rowsOf {t : TimeSeries} (rows : t.rows = rowsOf time moments curves) {index : Nat}
    {curve : Curve μ} (there : curves[index]? = some curve) :
    t.column index = moments.map curve.cell := by
  have each : (fun row : Row => row.values[index]?)
      ∘ (fun m => ⟨time m, curves.map (·.cell m)⟩) = some ∘ curve.cell := by
    funext m
    rw [Function.comp_apply, List.getElem?_map, there]
    rfl
  rw [TimeSeries.column, rows, rowsOf, List.filterMap_map, each, List.filterMap_eq_map]

/-- A chart that traces curves has their names, units and cells as its columns. -/
theorem Traces.columns {chart : Chart} (h : Traces chart time moments curves) :
    chart.columns = curves.map (Curve.shown moments) := by
  obtain ⟨t, data, -, series, rows⟩ := h
  have shown : chart.columns = t.columns := by rw [Chart.columns, Chart.timeSeries?, data]; rfl
  rw [shown]
  apply List.ext_getElem?
  intro index
  rw [TimeSeries.columns, series, List.getElem?_map, List.getElem?_zipIdx, List.map_map,
    List.getElem?_map, List.getElem?_map]
  cases there : curves[index]? with
  | none => rfl
  | some curve =>
    simp only [Option.map_some, Nat.zero_add, column_rowsOf rows there]
    rfl

theorem Traces.times {chart : Chart} (h : Traces chart time moments curves) :
    chart.times = moments.map time := by
  obtain ⟨t, data, -, -, rows⟩ := h
  have shown : chart.times = t.rows.map Row.time := by rw [Chart.times, Chart.timeSeries?, data]; rfl
  rw [shown, rows, rowsOf, List.map_map]
  rfl

/-! ### Charts that trace curves -/

/-- A request with one axis for the curves is granted. -/
theorem trace_single (filled : curves ≠ []) {request : TimeSeries → Request}
    {selector : Chart.Selector} {axis : String × AxisMax}
    (shape : ∀ t, (request t).data = .timeSeries t ∧ (request t).selector = .ok selector
      ∧ (request t).axes = [axis] ∧ (request t).secondary = []) :
    ∃ chart, (tabulate (curves.map Curve.column) (rowsOf time moments curves)
        >>= fun t => granted (request t)) = .ok chart
      ∧ Traces chart time moments curves ∧ chart.secondaryCaps = [] := by
  have columns : curves.map Curve.column ≠ [] := by simpa using filled
  obtain ⟨chart, made, shows, axes⟩ := plot_single columns rowsFit_rowsOf shape
  exact ⟨chart, made, shows, by rw [Chart.secondaryCaps, axes]; rfl⟩

/-- A request with a second axis for the last curve, which shares its name with no other, is
granted. The cap of that axis follows from the cells of the curve. -/
theorem trace_double {before : List (Curve μ)} {last : Curve μ}
    (fresh : ∀ curve ∈ before, curve.name ≠ last.name) {request : TimeSeries → Request}
    {selector : Chart.Selector} {first : String × AxisMax} {title : String} {margin : MarginPolicy}
    (shape : ∀ t, (request t).data = .timeSeries t ∧ (request t).selector = .ok selector
      ∧ (request t).axes = [first, (title, .withMargin)] ∧ (request t).secondary = [last.name])
    (policy : ∀ t, (request t).margin = margin) :
    ∃ chart, (tabulate ((before ++ [last]).map Curve.column) (rowsOf time moments (before ++ [last]))
        >>= fun t => granted (request t)) = .ok chart
      ∧ Traces chart time moments (before ++ [last])
      ∧ chart.secondaryCaps = [cap margin (moments.map last.cell)] := by
  have absent : (before.map Curve.column).findIdx? (·.1 = last.name) = none := by
    rw [List.findIdx?_eq_none_iff]
    intro column inside
    obtain ⟨curve, member, rfl⟩ := List.mem_map.1 inside
    exact decide_eq_false (fresh curve member)
  have found : ((before ++ [last]).map Curve.column).findIdx? (·.1 = last.name)
      = some before.length := by
    rw [List.map_append, List.findIdx?_append, absent]
    simp [Curve.column]
  obtain ⟨chart, made, shows, axes⟩ := plot_double rowsFit_rowsOf shape found
  refine ⟨chart, made, shows, ?_⟩
  obtain ⟨t, data, -, -, rows⟩ := shows
  have there : (before ++ [last])[before.length]? = some last := by simp
  have largest : t.maxOf before.length = (largest? (moments.map last.cell)).getD 0 := by
    rw [TimeSeries.maxOf, column_rowsOf rows there]
  rw [Chart.secondaryCaps, axes t data]
  simp only [List.map_cons, List.map_nil, Request.cap, largest, policy]
  rfl

end Metric

end UsageReport
