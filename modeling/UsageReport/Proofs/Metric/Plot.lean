import Mathlib
import UsageReport.Metric.Context
import UsageReport.Proofs.Chart.Granted
import UsageReport.Proofs.Chart.Request
import UsageReport.Proofs.Table.Build

/-! Charts over time from columns and rows. Rows of the columns' width make a table, and a request
that has one axis for it, or two and a column for the second one, is granted. -/

namespace UsageReport.Metric

open UsageReport.Chart (AxisMax Request)
open UsageReport.Table (TimeSeries Series Row)

/-- The chart shows a table over time with the given columns, each with its unit, and rows. -/
def Shows (chart : Chart) (columns : List (String × String)) (rows : List Row) : Prop :=
  ∃ t : TimeSeries, chart.data = .timeSeries t ∧ t.timeUnit = ""
    ∧ t.series = columns.map (fun (name, unit) => ⟨name, unit⟩) ∧ t.rows = rows

def RowsFit (columns : List (String × String)) (rows : List Row) : Prop :=
  ∀ row ∈ rows, row.values.length = columns.length

/-- Requests for charts of tables over time that differ by their tables alone. -/
def Uniform (request : TimeSeries → Request) : Prop :=
  ∀ t u, request u = { request t with data := .timeSeries u }

theorem map_fst_pair {α : Type} (names : List String) (x : α) :
    (names.map (·, x)).map Prod.fst = names := by
  rw [List.map_map]
  exact List.map_id _

variable {columns : List (String × String)} {rows : List Row}

theorem tabulate_eq_ok (filled : columns ≠ []) (fit : RowsFit columns rows) :
    ∃ t, tabulate columns rows = .ok t ∧ t.timeUnit = ""
      ∧ t.series = columns.map (fun (name, unit) => ⟨name, unit⟩) ∧ t.rows = rows := by
  have some : columns.map (fun (name, unit) => Series.mk name unit) ≠ [] := by simpa using filled
  obtain ⟨empty, created, timeUnit, series, none⟩ := TimeSeries.create_eq_ok some ""
  have names : (columns.map fun (name, unit) => Series.mk name unit).map Series.name
      = columns.map Prod.fst := by
    rw [List.map_map]
    rfl
  have units : (columns.map fun (name, unit) => Series.mk name unit).map Series.unit
      = columns.map Prod.snd := by
    rw [List.map_map]
    rfl
  rw [names, units] at created
  have width : ∀ row ∈ rows, row.values.length = empty.series.length := by
    intro row inside
    rw [fit row inside, series, List.length_map]
  obtain ⟨t, extended, timeUnit', series', same⟩ := TimeSeries.extend_eq_ok width
  refine ⟨t, ?_, timeUnit'.trans timeUnit, series'.trans series, ?_⟩
  · rw [tabulate, created]
    simp only [Except.mapError, bind, Except.bind, extended]
  · rw [same, none, List.nil_append]

/-- A table that is made has the given columns and rows. -/
theorem parts_of_tabulate {t : TimeSeries} (made : tabulate columns rows = .ok t) :
    t.timeUnit = "" ∧ t.series = columns.map (fun (name, unit) => ⟨name, unit⟩)
      ∧ t.rows = rows := by
  obtain ⟨empty, created, extended⟩ := bind_eq_ok_iff.1 made
  obtain ⟨⟨wide, -⟩, named, -⟩ := TimeSeries.create_eq_ok_iff.1 (mapError_eq_ok_iff.1 created)
  obtain ⟨fit, -⟩ := TimeSeries.extend_eq_ok_iff.1 (mapError_eq_ok_iff.1 extended)
  rw [List.length_cons, List.length_map] at wide
  have filled : columns ≠ [] := List.length_pos_iff.1 (by omega)
  have count : empty.series.length = columns.length := by
    have same := congrArg List.length named
    rw [TimeSeries.length_columnNames, List.length_cons, List.length_map] at same
    omega
  have fit' : RowsFit columns rows := fun row inside => (fit row inside).trans count
  obtain ⟨u, made', parts⟩ := tabulate_eq_ok filled fit'
  obtain rfl : t = u := Except.ok.inj (made.symm.trans made')
  exact parts

theorem granted_eq_ok {request : Request} {chart : Chart} (h : request.build = .ok chart) :
    granted request = .ok chart := by
  rw [granted, h]
  rfl

/-- A chart that is granted shows the table that was asked for. -/
theorem shows_of_plot {request : TimeSeries → Request} {chart : Chart}
    (data : ∀ t, (request t).data = .timeSeries t)
    (made : (tabulate columns rows >>= fun t => granted (request t)) = .ok chart) :
    Shows chart columns rows := by
  obtain ⟨t, tabulated, made⟩ := bind_eq_ok_iff.1 made
  refine ⟨t, ?_, parts_of_tabulate tabulated⟩
  rw [Request.data_of_build (mapError_eq_ok_iff.1 made), data]

/-- A request with one axis and no secondary column is granted. -/
theorem plot_single (filled : columns ≠ []) (fit : RowsFit columns rows)
    {request : TimeSeries → Request} {selector : Chart.Selector} {axis : String × AxisMax}
    (shape : ∀ t, (request t).data = .timeSeries t ∧ (request t).selector = .ok selector
      ∧ (request t).axes = [axis] ∧ (request t).secondary = []) :
    ∃ chart, (tabulate columns rows >>= fun t => granted (request t)) = .ok chart
      ∧ Shows chart columns rows ∧ chart.axes.tail = [] := by
  obtain ⟨t, made, timeUnit, series, same⟩ := tabulate_eq_ok filled fit
  obtain ⟨data, chosen, axes, secondary⟩ := shape t
  have granted := granted_eq_ok (Request.build_single data chosen axes secondary)
  rw [made]
  exact ⟨_, granted, ⟨t, rfl, timeUnit, series, same⟩, rfl⟩

/-- A request with two axes and one secondary column, which exists, is granted. The second axis
measures the first column of that name. -/
theorem plot_double (fit : RowsFit columns rows) {request : TimeSeries → Request}
    {selector : Chart.Selector} {first second : String × AxisMax} {column : String} {index : Nat}
    (shape : ∀ t, (request t).data = .timeSeries t ∧ (request t).selector = .ok selector
      ∧ (request t).axes = [first, second] ∧ (request t).secondary = [column])
    (found : columns.findIdx? (·.1 = column) = some index) :
    ∃ chart, (tabulate columns rows >>= fun t => granted (request t)) = .ok chart
      ∧ Shows chart columns rows
      ∧ ∀ t, chart.data = .timeSeries t →
        chart.axes.tail = [⟨second.1, (request t).cap t [index] second.2, [index]⟩] := by
  have filled : columns ≠ [] := by
    rintro rfl
    simp at found
  obtain ⟨t, made, timeUnit, series, same⟩ := tabulate_eq_ok filled fit
  obtain ⟨data, chosen, axes, secondary⟩ := shape t
  have there : t.indexOf? column = some index := by
    rw [TimeSeries.indexOf?, series, List.findIdx?_map]
    exact found
  have granted := granted_eq_ok (Request.build_double data chosen axes secondary there)
  rw [made]
  refine ⟨_, granted, ⟨t, rfl, timeUnit, series, same⟩, ?_⟩
  rintro u ⟨⟩
  rfl

/-- A chart that is made is the only one of its topic. -/
theorem plot_alone {α : Type} {table : Except Fault α} {plot : α → Except Fault Chart}
    {shows : Chart → Prop} (drawn : ∃ chart, (table >>= plot) = .ok chart ∧ shows chart) :
    ∃ chart, (table >>= fun t => plot t >>= fun chart => pure [chart]) = .ok [chart]
      ∧ shows chart := by
  obtain ⟨chart, made, shown⟩ := drawn
  refine ⟨chart, ?_, shown⟩
  rw [← bind_assoc, made]
  rfl

/-- Conversely, the charts of a topic that has one are that chart. -/
theorem alone_of_ok {α : Type} {table : Except Fault α} {plot : α → Except Fault Chart}
    {charts : List Chart}
    (made : (table >>= fun t => plot t >>= fun chart => pure [chart]) = .ok charts) :
    ∃ chart, (table >>= plot) = .ok chart ∧ charts = [chart] := by
  rw [← bind_assoc] at made
  obtain ⟨chart, drawn, same⟩ := bind_eq_ok_iff.1 made
  exact ⟨chart, drawn, (Except.ok.inj same).symm⟩

theorem plot_single_total (filled : columns ≠ []) (fit : RowsFit columns rows)
    {request : TimeSeries → Request} {selector : Chart.Selector} {axis : String × AxisMax}
    (shape : ∀ t, (request t).data = .timeSeries t ∧ (request t).selector = .ok selector
      ∧ (request t).axes = [axis] ∧ (request t).secondary = []) :
    ∃ chart, (tabulate columns rows >>= fun t => granted (request t)) = .ok chart := by
  obtain ⟨chart, made, -⟩ := plot_single filled fit shape
  exact ⟨chart, made⟩

theorem plot_double_total (fit : RowsFit columns rows) {request : TimeSeries → Request}
    {selector : Chart.Selector} {first second : String × AxisMax} {column : String}
    (shape : ∀ t, (request t).data = .timeSeries t ∧ (request t).selector = .ok selector
      ∧ (request t).axes = [first, second] ∧ (request t).secondary = [column])
    (there : column ∈ columns.map Prod.fst) :
    ∃ chart, (tabulate columns rows >>= fun t => granted (request t)) = .ok chart := by
  obtain ⟨entry, inside, rfl⟩ := List.mem_map.1 there
  have some : (columns.findIdx? (·.1 = entry.1)).isSome := by
    rw [List.findIdx?_isSome, List.any_eq_true]
    exact ⟨entry, inside, decide_eq_true rfl⟩
  obtain ⟨index, found⟩ := Option.isSome_iff_exists.1 some
  obtain ⟨chart, made, -⟩ := plot_double fit shape found
  exact ⟨chart, made⟩

end UsageReport.Metric
