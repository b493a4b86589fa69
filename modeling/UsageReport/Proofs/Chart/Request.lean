import Mathlib
import UsageReport.Chart.Request

/-! What a granted request draws over time: all series on one axis, or one column on the secondary
axis and all other series on the primary one. -/

namespace UsageReport.Chart.Request

open UsageReport.Table (Categorical TimeSeries)

variable {r : Request} {table : TimeSeries} {selector : Selector}

/-- A request without secondary columns is granted with one axis, which measures all series. -/
theorem build_single {title : String} {max : AxisMax} (data : r.data = .timeSeries table)
    (chosen : r.selector = .ok selector) (axes : r.axes = [(title, max)])
    (secondary : r.secondary = []) :
    r.build = .ok {
      title := r.title, selector, source := r.source, stacked := r.stacked
      axes := [⟨title, r.cap table (List.range table.series.length) max,
        List.range table.series.length⟩]
      data := .timeSeries table } := by
  have none : (List.range table.series.length).filter ([] : List Nat).contains = [] := by simp
  have all : (List.range table.series.length).filter (not ∘ ([] : List Nat).contains)
      = List.range table.series.length := List.filter_eq_self.2 fun _ _ => rfl
  have measured : r.timeSeriesAxes table = .ok [⟨title,
      r.cap table (List.range table.series.length) max, List.range table.series.length⟩] := by
    simp only [timeSeriesAxes, secondary, axes, List.mapM_nil, List.partition_eq_filter_filter,
      bind, Except.bind, pure, Except.pure, none, all, if_true]
    rfl
  simp only [build, chosen, data, measured, bind, Except.bind, pure, Except.pure]

/-- A request with one secondary column, which exists, is granted with two axes. -/
theorem build_double {first second : String × AxisMax} {column : String} {index : Nat}
    (data : r.data = .timeSeries table) (chosen : r.selector = .ok selector)
    (axes : r.axes = [first, second]) (secondary : r.secondary = [column])
    (found : table.indexOf? column = some index) :
    r.build = .ok {
      title := r.title, selector, source := r.source, stacked := r.stacked
      axes := [⟨first.1, r.cap table ((List.range table.series.length).filter (· ≠ index)) first.2,
          (List.range table.series.length).filter (· ≠ index)⟩,
        ⟨second.1, r.cap table [index] second.2, [index]⟩]
      data := .timeSeries table } := by
  have inside : index < table.series.length := by
    unfold TimeSeries.indexOf? at found
    exact (List.findIdx?_eq_some_iff_getElem.1 found).1
  have routed : (List.range table.series.length).filter [index].contains = [index] := by
    have single : ∀ i ∈ List.range table.series.length, [index].contains i = (i == index) := by
      intro i _
      rw [List.contains_cons, List.contains_nil, Bool.or_false]
    rw [List.filter_congr single, List.filter_beq, List.nodup_range.count,
      if_pos (List.mem_range.2 inside)]
    rfl
  have others : (List.range table.series.length).filter (not ∘ [index].contains)
      = (List.range table.series.length).filter (· ≠ index) := by
    apply List.filter_congr
    intro i _
    by_cases same : i = index <;> simp [same]
  have measured : r.timeSeriesAxes table = .ok [
      ⟨first.1, r.cap table ((List.range table.series.length).filter (· ≠ index)) first.2,
        (List.range table.series.length).filter (· ≠ index)⟩,
      ⟨second.1, r.cap table [index] second.2, [index]⟩] := by
    have known : r.secondary.mapM (r.indexOf table) = .ok [index] := by
      rw [secondary, List.mapM_cons, List.mapM_nil, indexOf, found]
      rfl
    simp only [timeSeriesAxes, known, axes, List.partition_eq_filter_filter, bind, Except.bind, pure,
      Except.pure, routed, others]
    rfl
  simp only [build, chosen, data, measured, bind, Except.bind, pure, Except.pure]

/-- A request for a table of items with two axes and no secondary column is granted. -/
theorem build_categorical {items : Categorical} (data : r.data = .categorical items)
    (chosen : r.selector = .ok selector) (axes : r.axes.length = 2) (secondary : r.secondary = []) :
    ∃ chart, r.build = .ok chart ∧ chart.data = .categorical items ∧ chart.selector = selector
      ∧ chart.source = r.source := by
  obtain ⟨listed, measured⟩ : ∃ listed, r.categoricalAxes = .ok listed := by
    unfold categoricalAxes
    rw [secondary]
    exact ⟨_, if_pos (.inr axes)⟩
  simp only [build, chosen, data, measured, bind, Except.bind, pure, Except.pure]
  exact ⟨_, rfl, rfl, rfl, rfl⟩

end UsageReport.Chart.Request
