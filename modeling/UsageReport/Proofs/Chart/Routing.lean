import Mathlib
import UsageReport.Chart.Request
import UsageReport.Proofs.Steps

/-! Which axis measures which series. An axis that is the only one to measure a series is the axis
found for it, and which series the axes measure follows from the columns of the table. -/

namespace UsageReport.Chart

open UsageReport.Table (TimeSeries)

/-- The axis with index `k` measures a series. -/
def Measures (c : Chart) (k series : Nat) : Prop :=
  ∃ axis, c.axes[k]? = some axis ∧ series ∈ axis.series

theorem exists_measures_of_axisOf? {c : Chart} {series : Nat}
    (once : ∃! k, c.Measures k series) :
    ∃ k, c.axisOf? series = some k ∧ c.Measures k series ∧ ∀ k', c.Measures k' series → k' = k := by
  obtain ⟨k, ⟨axis, found, inside⟩, only⟩ := once
  have small : k < c.axes.length := (List.getElem?_eq_some_iff.1 found).1
  have this : c.axes[k] = axis := (List.getElem?_eq_some_iff.1 found).2
  refine ⟨k, ?_, ⟨axis, found, inside⟩, only⟩
  rw [axisOf?, List.findIdx?_eq_some_iff_getElem]
  refine ⟨small, ?_, fun j before => ?_⟩
  · rw [this]
    exact List.contains_iff_mem.2 inside
  · intro measured
    have inAxes : j < c.axes.length := Nat.lt_trans before small
    have same : j = k :=
      only j ⟨c.axes[j], List.getElem?_eq_getElem inAxes, List.contains_iff_mem.1 measured⟩
    omega

namespace Request

variable {r : Request}

/-- The titles of the axes and their series follow from the columns of a table; only the caps read
its rows. -/
theorem timeSeriesAxes_of_same_series {r' : Request} {t u : TimeSeries} {axes : List Axis}
    (series : u.series = t.series) (titles : r'.axes = r.axes)
    (secondary : r'.secondary = r.secondary) (measured : r.timeSeriesAxes t = .ok axes) :
    ∃ axes', r'.timeSeriesAxes u = .ok axes' ∧ axes'.map Axis.title = axes.map Axis.title
      ∧ axes'.map Axis.series = axes.map Axis.series := by
  unfold timeSeriesAxes at measured
  obtain ⟨found, known, measured⟩ := bind_eq_ok_iff.1 measured
  have known' : r'.secondary.mapM (r'.indexOf u) = .ok found := by
    rw [secondary]
    refine mapM_eq_ok_iff.2 ((mapM_eq_ok_iff.1 known).imp fun column index there => ?_)
    unfold indexOf TimeSeries.indexOf? at there ⊢
    rw [series]
    split at there
    next => exact there
    next => cases there
  unfold timeSeriesAxes
  rw [known', series, titles, ok_bind]
  by_cases count : r.axes.length
      ≠ if ((List.range t.series.length).partition found.contains).1 = [] then 1 else 2
  · simp only [if_pos count] at measured
    cases measured
  · simp only [if_neg count] at measured ⊢
    cases measured
    refine ⟨_, rfl, ?_, ?_⟩
    · rw [List.map_zipWith, List.map_zipWith]
    · rw [List.map_zipWith, List.map_zipWith]

end Request

end UsageReport.Chart
