import Mathlib
import UsageReport.Proofs.Steps
import UsageReport.Table.Categorical
import UsageReport.Table.TimeSeries

/-! A table is known by its columns and rows. Columns that fit together make an empty table, and rows
of its width are put at its end. -/

namespace UsageReport.Table

namespace TimeSeries

theorem eq_of_parts {t u : TimeSeries} (timeUnit : t.timeUnit = u.timeUnit)
    (series : t.series = u.series) (rows : t.rows = u.rows) : t = u := by
  cases t
  cases u
  cases timeUnit
  cases series
  cases rows
  rfl

/-- Columns with names and units, of which there is one at least, make a table without rows. -/
theorem create_eq_ok {series : List Series} (filled : series ≠ []) (timeUnit : String) :
    ∃ t, create (timestampName :: series.map Series.name) (some (timeUnit :: series.map Series.unit))
        = .ok t
      ∧ t.timeUnit = timeUnit ∧ t.series = series ∧ t.rows = [] := by
  have count : 0 < series.length := List.length_pos_iff.2 filled
  have wide : ¬ (timestampName :: series.map Series.name).length < 2 := by
    rw [List.length_cons, List.length_map]
    omega
  have first : ¬ (timestampName :: series.map Series.name).headD "" ≠ timestampName :=
    not_not_intro rfl
  have fit : ¬ (((some (timeUnit :: series.map Series.unit)).getD
      ((timestampName :: series.map Series.name).map fun _ => "")).length
        ≠ (timestampName :: series.map Series.name).length) := by
    simp
  have paired : List.zipWith Series.mk (series.map Series.name) (series.map Series.unit)
      = series := by
    rw [List.zipWith_map, List.zipWith_self]
    exact List.map_id _
  simp only [create]
  rw [dif_neg wide, if_neg first, dif_neg fit]
  exact ⟨_, rfl, rfl, paired, rfl⟩

/-- Rows of the table's width are put at its end. -/
theorem extend_eq_ok {t : TimeSeries} {rows : List Row}
    (fit : ∀ row ∈ rows, row.values.length = t.series.length) :
    ∃ u, t.extend rows = .ok u ∧ u.timeUnit = t.timeUnit ∧ u.series = t.series
      ∧ u.rows = t.rows ++ rows := by
  have none : rows.find? (·.values.length ≠ t.series.length) = none := by
    rw [List.find?_eq_none]
    intro row inside
    simp [fit row inside]
  unfold extend
  split
  next row found => rw [none] at found; cases found
  next => exact ⟨_, rfl, rfl, rfl, rfl⟩

/-- The first row of another width is reported. -/
theorem extend_eq_error {t : TimeSeries} {rows : List Row} {row : Row}
    (found : rows.find? (·.values.length ≠ t.series.length) = some row) :
    t.extend rows = .error (t.widthFault row.values.length) := by
  unfold extend
  split
  next r first =>
    rw [found] at first
    cases first
    rfl
  next none => rw [found] at none; cases none

theorem create_getD (names : List String) (units : Option (List String)) :
    create names units = create names (some (units.getD (names.map fun _ => ""))) := by
  cases units <;> rfl

theorem names_zipWith {names units : List String} (same : names.length = units.length) :
    (List.zipWith Series.mk names units).map Series.name = names := by
  rw [← List.map_uncurry_zip_eq_zipWith, List.map_map]
  exact List.map_fst_zip same.le

theorem units_zipWith {names units : List String} (same : names.length = units.length) :
    (List.zipWith Series.mk names units).map Series.unit = units := by
  rw [← List.map_uncurry_zip_eq_zipWith, List.map_map]
  exact List.map_snd_zip same.ge

theorem parts_of_create {names units : List String} {t : TimeSeries}
    (made : create names (some units) = .ok t) :
    2 ≤ names.length ∧ names.head? = some timestampName ∧ units.length = names.length
      ∧ t.columnNames = names ∧ t.columnUnits = units ∧ t.rows = [] := by
  unfold create at made
  simp only [Option.getD_some] at made
  split at made
  case isTrue => cases made
  case isFalse wide =>
    split at made
    case isTrue => cases made
    case isFalse first =>
      split at made
      case isTrue => cases made
      case isFalse fit =>
        cases made
        obtain ⟨name, names, rfl⟩ := List.exists_cons_of_length_pos (show 0 < names.length by omega)
        rw [not_ne_iff] at first fit
        obtain ⟨unit, units, rfl⟩ := List.exists_cons_of_length_pos (show 0 < units.length by omega)
        obtain rfl : name = timestampName := first
        have same : names.length = units.length := by simpa using fit.symm
        refine ⟨by omega, rfl, fit, ?_, ?_, rfl⟩
        · exact congrArg (timestampName :: ·) (names_zipWith same)
        · exact congrArg (unit :: ·) (units_zipWith same)

/-- What columns make a table, and which one they make. -/
theorem create_eq_ok_iff {names : List String} {units : Option (List String)} {t : TimeSeries} :
    create names units = .ok t
      ↔ (2 ≤ names.length ∧ names.head? = some timestampName
          ∧ ∀ given ∈ units, given.length = names.length)
        ∧ t.columnNames = names ∧ t.columnUnits = units.getD (names.map fun _ => "")
        ∧ t.rows = [] := by
  constructor
  · intro made
    rw [create_getD] at made
    obtain ⟨wide, first, fit, named, measured, none⟩ := parts_of_create made
    refine ⟨⟨wide, first, ?_⟩, named, measured, none⟩
    rintro given rfl
    exact fit
  · rintro ⟨-, rfl, measured, none⟩
    obtain ⟨u, made, timeUnit, series, none'⟩ := create_eq_ok t.series_ne t.timeUnit
    rw [create_getD, ← measured]
    exact made.trans (congrArg _ (eq_of_parts timeUnit series (none'.trans none.symm)))

/-- Rows are put at the end of a table, all of them or none. -/
theorem extend_eq_ok_iff {t u : TimeSeries} {rows : List Row} :
    t.extend rows = .ok u
      ↔ (∀ row ∈ rows, row.values.length = t.series.length)
        ∧ u.timeUnit = t.timeUnit ∧ u.series = t.series ∧ u.rows = t.rows ++ rows := by
  constructor
  · intro made
    unfold extend at made
    split at made
    next => cases made
    next none =>
      cases made
      refine ⟨fun row inside => ?_, rfl, rfl, rfl⟩
      simpa using List.find?_eq_none.1 none row inside
  · rintro ⟨fit, timeUnit, series, same⟩
    obtain ⟨v, made, timeUnit', series', same'⟩ := extend_eq_ok fit
    rw [made, eq_of_parts (timeUnit'.trans timeUnit.symm) (series'.trans series.symm)
      (same'.trans same.symm)]

end TimeSeries

namespace Categorical

theorem create_eq_ok {columns : List String} (filled : columns ≠ []) :
    ∃ t, create columns = .ok t ∧ t.columns = columns ∧ t.rows = [] := by
  unfold create
  rw [dif_neg filled]
  exact ⟨_, rfl, rfl, rfl⟩

/-- Rows of the table's width are put at its end. -/
theorem extend_eq_ok {t : Categorical} {rows : List (List Cell)}
    (fit : ∀ row ∈ rows, row.length = t.columns.length) :
    ∃ u, t.extend rows = .ok u ∧ u.columns = t.columns ∧ u.rows = t.rows ++ rows := by
  have none : rows.find? (·.length ≠ t.columns.length) = none := by
    rw [List.find?_eq_none]
    intro row inside
    simp [fit row inside]
  unfold extend
  split
  next row found => rw [none] at found; cases found
  next => exact ⟨_, rfl, rfl, rfl⟩

theorem columns_of_extend {t u : Categorical} {rows : List (List Cell)}
    (made : t.extend rows = .ok u) : u.columns = t.columns := by
  unfold extend at made
  split at made
  next => cases made
  next =>
    cases made
    rfl

end Categorical

end UsageReport.Table
