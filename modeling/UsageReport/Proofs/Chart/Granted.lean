import Mathlib
import UsageReport.Proofs.Chart.Routing

/-! Which requests for charts are granted and which fault is reported for each of the others. The
selector is looked at first, then the secondary columns from the front, then the number of axes. The
axes of a granted request share out the series of its table. -/

namespace UsageReport.Chart.Request

open UsageReport.Table (TimeSeries)

/-! ### Requests and their faults -/

def OneSelector (r : Request) : Prop := r.button.isSome ≠ r.combo.isSome

/-- A series of the table has the name. The timestamps are no series, and a table of items has
none. -/
def HasSeries (r : Request) (column : String) : Prop :=
  match r.data with
  | .timeSeries table => ∃ series ∈ table.series, series.name = column
  | .categorical _ => False

/-- A chart over time has a second axis if and only if it has secondary columns. -/
def expectedAxes (r : Request) : Nat :=
  match r.data with
  | .timeSeries _ => if r.secondary = [] then 1 else 2
  | .categorical _ => 2

def AxesFit (r : Request) : Prop :=
  match r.data with
  | .timeSeries _ => r.axes.length = if r.secondary = [] then 1 else 2
  | .categorical _ => r.axes.length = 1 ∨ r.axes.length = 2

structure WellFormed (r : Request) : Prop where
  selector : r.OneSelector
  columns : ∀ column ∈ r.secondary, r.HasSeries column
  axes : r.AxesFit

/-- The fault that is reported for a request. -/
inductive Refused (r : Request) : Fault → Prop where
  | both {label : String} {entry : String × String} (button : r.button = some label)
      (combo : r.combo = some entry) : Refused r (.selector r.title .both)
  | neither (button : r.button = none) (combo : r.combo = none) :
    Refused r (.selector r.title .neither)
  | unknownColumn {front behind : List String} {column : String} (selector : r.OneSelector)
      (split : r.secondary = front ++ column :: behind)
      (known : ∀ column ∈ front, r.HasSeries column) (unknown : ¬ r.HasSeries column) :
    Refused r (.unknownColumn r.title column)
  | axisCount (selector : r.OneSelector) (known : ∀ column ∈ r.secondary, r.HasSeries column)
      (count : ¬ r.AxesFit) :
    Refused r (.axisCount r.title r.expectedAxes r.axes.length)

variable {r : Request} {table : TimeSeries} {selector : Selector}

theorem exists_first {α : Type} {p : α → Prop} {items : List α} (other : ¬ ∀ a ∈ items, p a) :
    ∃ front a behind, items = front ++ a :: behind ∧ (∀ b ∈ front, p b) ∧ ¬ p a := by
  induction items with
  | nil => simp at other
  | cons a items ih =>
    by_cases first : p a
    · rw [List.forall_mem_cons, not_and] at other
      obtain ⟨front, b, behind, rfl, before, fails⟩ := ih (other first)
      exact ⟨a :: front, b, behind, rfl, List.forall_mem_cons.2 ⟨first, before⟩, fails⟩
    · exact ⟨[], a, items, rfl, List.forall_mem_nil p, first⟩

theorem wellFormed_or_refused (r : Request) : r.WellFormed ∨ ∃ fault, r.Refused fault := by
  by_cases one : r.OneSelector
  · by_cases known : ∀ column ∈ r.secondary, r.HasSeries column
    · by_cases count : r.AxesFit
      · exact .inl ⟨one, known, count⟩
      · exact .inr ⟨_, .axisCount one known count⟩
    · obtain ⟨front, column, behind, split, before, unknown⟩ := exists_first known
      exact .inr ⟨_, .unknownColumn one split before unknown⟩
  · right
    unfold OneSelector at one
    cases button : r.button with
    | none =>
      cases combo : r.combo with
      | none => exact ⟨_, .neither button combo⟩
      | some entry => simp [button, combo] at one
    | some label =>
      cases combo : r.combo with
      | none => simp [button, combo] at one
      | some entry => exact ⟨_, .both button combo⟩

/-! ### The selector -/

theorem exists_selector (one : r.OneSelector) : ∃ selector, r.selector = .ok selector := by
  unfold OneSelector at one
  unfold selector
  cases button : r.button with
  | none =>
    cases combo : r.combo with
    | none => simp [button, combo] at one
    | some entry => exact ⟨.comboEntry entry.1 entry.2, rfl⟩
  | some label =>
    cases combo : r.combo with
    | none => exact ⟨.button label, rfl⟩
    | some entry => simp [button, combo] at one

theorem build_of_selector {fault : Fault} (refused : r.selector = .error fault) :
    r.build = .error fault := by
  rw [build, refused]
  rfl

/-! ### The secondary columns -/

/-- The series at the index is the first one with the name. -/
def FirstNamed (table : TimeSeries) (column : String) (index : Nat) : Prop :=
  ∃ inside : index < table.series.length, table.series[index].name = column
    ∧ ∀ j (before : j < index), table.series[j].name ≠ column

theorem indexOf_eq_ok_iff {column : String} {index : Nat} :
    r.indexOf table column = .ok index ↔ FirstNamed table column index := by
  have found : table.indexOf? column = some index ↔ FirstNamed table column index := by
    simp only [TimeSeries.indexOf?, List.findIdx?_eq_some_iff_getElem, decide_eq_true_eq,
      FirstNamed, ne_eq]
  rw [← found]
  unfold indexOf
  cases table.indexOf? column <;> simp

theorem exists_indexOf (data : r.data = .timeSeries table) {column : String}
    (known : r.HasSeries column) : ∃ index, r.indexOf table column = .ok index := by
  rw [HasSeries, data] at known
  obtain ⟨series, inside, rfl⟩ := known
  have found : (table.indexOf? series.name).isSome := by
    rw [TimeSeries.indexOf?, List.findIdx?_isSome, List.any_eq_true]
    exact ⟨series, inside, decide_eq_true rfl⟩
  obtain ⟨index, found⟩ := Option.isSome_iff_exists.1 found
  exact ⟨index, by rw [indexOf, found]⟩

theorem indexOf_unknown (data : r.data = .timeSeries table) {column : String}
    (unknown : ¬ r.HasSeries column) :
    r.indexOf table column = .error (.unknownColumn r.title column) := by
  rw [HasSeries, data] at unknown
  have none : table.indexOf? column = none := by
    rw [TimeSeries.indexOf?, List.findIdx?_eq_none_iff]
    intro series inside
    exact decide_eq_false fun same => unknown ⟨series, inside, same⟩
  rw [indexOf, none]

theorem FirstNamed.unique {column : String} {i j : Nat} (first : FirstNamed table column i)
    (first' : FirstNamed table column j) : i = j := by
  obtain ⟨_, named, before⟩ := first
  obtain ⟨_, named', before'⟩ := first'
  rcases Nat.lt_trichotomy i j with less | same | more
  · exact absurd named (before' i less)
  · exact same
  · exact absurd named' (before j more)

/-- The indexes found for columns are those of the first series with their names. -/
theorem mem_iff_firstNamed {columns : List String} {found : List Nat}
    (each : List.Forall₂ (FirstNamed table) columns found) (i : Nat) :
    i ∈ found ↔ ∃ column ∈ columns, FirstNamed table column i := by
  induction each with
  | nil => simp
  | cons first _ ih =>
    rw [List.mem_cons, List.exists_mem_cons_iff, ih]
    apply or_congr_left
    constructor
    · rintro rfl
      exact first
    · exact fun there => there.unique first

/-! ### The axes -/

def secondSeries (table : TimeSeries) (found : List Nat) : List Nat :=
  (List.range table.series.length).filter found.contains

/-- The series that no secondary column names. -/
def firstSeries (table : TimeSeries) (found : List Nat) : List Nat :=
  (List.range table.series.length).filter fun i => !found.contains i

theorem mem_secondSeries_iff {columns : List String} {found : List Nat}
    (each : List.Forall₂ (FirstNamed table) columns found) (i : Nat) :
    i ∈ secondSeries table found ↔ ∃ column ∈ columns, FirstNamed table column i := by
  rw [secondSeries, List.mem_filter, List.mem_range, List.contains_iff_mem,
    mem_iff_firstNamed each]
  apply and_iff_right_of_imp
  rintro ⟨column, -, inside, -⟩
  exact inside

theorem secondSeries_eq_nil_iff {columns : List String} {found : List Nat}
    (each : List.Forall₂ (FirstNamed table) columns found) :
    secondSeries table found = [] ↔ columns = [] := by
  cases each with
  | nil => simp [secondSeries]
  | @cons column index columns found first rest =>
    have inside : index ∈ secondSeries table (index :: found) := by
      rw [mem_secondSeries_iff (.cons first rest)]
      exact ⟨column, List.mem_cons_self, first⟩
    simp [List.ne_nil_of_mem inside]

theorem forall₂_firstNamed {found : List Nat}
    (known : r.secondary.mapM (r.indexOf table) = .ok found) :
    List.Forall₂ (FirstNamed table) r.secondary found :=
  (mapM_eq_ok_iff.1 known).imp fun _ _ there => indexOf_eq_ok_iff.1 there

theorem timeSeriesAxes_eq {found : List Nat}
    (known : r.secondary.mapM (r.indexOf table) = .ok found) :
    r.timeSeriesAxes table = if r.axes.length = if r.secondary = [] then 1 else 2
      then .ok (List.zipWith (fun (title, max) series => ⟨title, r.cap table series max, series⟩)
        r.axes [firstSeries table found, secondSeries table found])
      else .error (.axisCount r.title (if r.secondary = [] then 1 else 2) r.axes.length) := by
  have expected : (if secondSeries table found = [] then 1 else 2)
      = if r.secondary = [] then 1 else 2 :=
    if_congr (secondSeries_eq_nil_iff (forall₂_firstNamed known)) rfl rfl
  have routed : (List.range table.series.length).partition found.contains
      = (secondSeries table found, firstSeries table found) := List.partition_eq_filter_filter
  unfold timeSeriesAxes
  rw [known, ok_bind, routed]
  simp only [expected]
  by_cases fit : r.axes.length = if r.secondary = [] then 1 else 2
  · rw [if_pos fit, if_neg (not_not.2 fit)]
    rfl
  · rw [if_neg fit, if_pos fit]
    rfl

/-! ### Granted and refused -/

theorem build_of_timeSeries (chosen : r.selector = .ok selector)
    (data : r.data = .timeSeries table) : r.build = (r.timeSeriesAxes table).map fun axes =>
      { title := r.title, selector, source := r.source, stacked := r.stacked, axes,
        data := .timeSeries table } := by
  simp only [build, chosen, data, ok_bind]
  cases r.timeSeriesAxes table <;> rfl

theorem build_of_categorical (chosen : r.selector = .ok selector) {items : Table.Categorical}
    (data : r.data = .categorical items) :
    r.build = r.categoricalAxes.map fun axes =>
      { title := r.title, selector, source := r.source, stacked := r.stacked, axes,
        data := .categorical items } := by
  simp only [build, chosen, data, ok_bind]
  cases r.categoricalAxes <;> rfl

theorem eq_nil_of_categorical {items : Table.Categorical} (data : r.data = .categorical items)
    {columns : List String} (known : ∀ column ∈ columns, r.HasSeries column) : columns = [] := by
  rw [List.eq_nil_iff_forall_not_mem]
  intro column inside
  have series := known column inside
  rwa [HasSeries, data] at series

theorem exists_found (data : r.data = .timeSeries table)
    (known : ∀ column ∈ r.secondary, r.HasSeries column) :
    ∃ found, r.secondary.mapM (r.indexOf table) = .ok found := by
  obtain ⟨found, all, -⟩ :=
    length_mapM fun column inside => exists_indexOf data (known column inside)
  exact ⟨found, all⟩

theorem build_of_wellFormed (fits : r.WellFormed) : ∃ chart, r.build = .ok chart := by
  obtain ⟨one, known, count⟩ := fits
  obtain ⟨selector, chosen⟩ := exists_selector one
  unfold AxesFit at count
  cases data : r.data with
  | timeSeries table =>
    rw [data] at count
    obtain ⟨found, all⟩ := exists_found data known
    rw [build_of_timeSeries chosen data, timeSeriesAxes_eq all, if_pos count]
    exact ⟨_, rfl⟩
  | categorical items =>
    rw [data] at count
    rw [build_of_categorical chosen data, categoricalAxes, eq_nil_of_categorical data known]
    exact ⟨_, congrArg _ (if_pos count)⟩

theorem build_of_refused {fault : Fault} (refused : r.Refused fault) : r.build = .error fault := by
  cases refused with
  | both button combo => exact build_of_selector (by rw [selector, button, combo])
  | neither button combo => exact build_of_selector (by rw [selector, button, combo])
  | @unknownColumn front behind column one split known unknown =>
    obtain ⟨selector, chosen⟩ := exists_selector one
    cases data : r.data with
    | timeSeries table =>
      have missing :
          r.secondary.mapM (r.indexOf table) = .error (.unknownColumn r.title column) := by
        obtain ⟨found, before, -⟩ :=
          length_mapM fun column inside => exists_indexOf data (known column inside)
        rw [split, List.mapM_append, before, ok_bind, List.mapM_cons, indexOf_unknown data unknown]
        rfl
      rw [build_of_timeSeries chosen data, timeSeriesAxes, missing]
      rfl
    | categorical items =>
      rw [build_of_categorical chosen data, categoricalAxes, split,
        eq_nil_of_categorical data known]
      rfl
  | axisCount one known count =>
    obtain ⟨selector, chosen⟩ := exists_selector one
    unfold AxesFit at count
    cases data : r.data with
    | timeSeries table =>
      rw [data] at count
      obtain ⟨found, all⟩ := exists_found data known
      rw [build_of_timeSeries chosen data, timeSeriesAxes_eq all, if_neg count, expectedAxes, data]
      rfl
    | categorical items =>
      rw [data] at count
      rw [build_of_categorical chosen data, categoricalAxes, eq_nil_of_categorical data known,
        expectedAxes, data]
      exact congrArg _ (if_neg count)

theorem build_eq_ok_iff : (∃ chart, r.build = .ok chart) ↔ r.WellFormed := by
  constructor
  · rintro ⟨chart, built⟩
    refine (wellFormed_or_refused r).resolve_right ?_
    rintro ⟨fault, refused⟩
    rw [build_of_refused refused] at built
    cases built
  · exact build_of_wellFormed

theorem build_eq_error_iff {fault : Fault} : r.build = .error fault ↔ r.Refused fault := by
  constructor
  · intro failed
    rcases wellFormed_or_refused r with fits | ⟨fault', refused⟩
    · obtain ⟨chart, built⟩ := build_of_wellFormed fits
      rw [built] at failed
      cases failed
    · rw [build_of_refused refused] at failed
      cases failed
      exact refused
  · exact build_of_refused

/-! ### The axes of a granted request -/

/-- The axes have the titles of the request and share out the series of the table, each axis in
ascending order. The second one measures the series that the secondary columns name. -/
structure Shares (r : Request) (table : TimeSeries) (axes : List Axis) : Prop where
  titles : axes.map Axis.title = r.axes.map Prod.fst
  ascending : ∀ axis ∈ axes, axis.series.Pairwise (· < ·)
  apart : axes.Pairwise fun a b => a.series.Disjoint b.series
  together : ∀ i, (∃ axis ∈ axes, i ∈ axis.series) ↔ i < table.series.length
  second : ∀ axis, axes[1]? = some axis →
    ∀ i, i ∈ axis.series ↔ ∃ column ∈ r.secondary, FirstNamed table column i

theorem mem_firstSeries_iff {found : List Nat} {i : Nat} :
    i ∈ firstSeries table found ↔ i < table.series.length ∧ i ∉ secondSeries table found := by
  simp [firstSeries, secondSeries]
  tauto

theorem ascending_filter (p : Nat → Bool) (count : Nat) :
    ((List.range count).filter p).Pairwise (· < ·) := List.pairwise_lt_range.filter p

theorem shares_single {found : List Nat} (each : List.Forall₂ (FirstNamed table) r.secondary found)
    (none : r.secondary = []) {axis : Axis} {given : String × AxisMax} (axes : r.axes = [given])
    (title : axis.title = given.1) (series : axis.series = firstSeries table found) :
    r.Shares table [axis] := by
  have empty := (secondSeries_eq_nil_iff each).2 none
  constructor
  case titles => rw [axes, List.map_singleton, List.map_singleton, title]
  case ascending =>
    rw [List.forall_mem_singleton, series]
    exact ascending_filter _ _
  case apart => exact List.pairwise_singleton _ _
  case together =>
    intro i
    simp [series, mem_firstSeries_iff, empty]
  case second =>
    intro axis there
    simp at there

theorem shares_double {found : List Nat} (each : List.Forall₂ (FirstNamed table) r.secondary found)
    {first second : Axis} {given given' : String × AxisMax} (axes : r.axes = [given, given'])
    (title : first.title = given.1) (title' : second.title = given'.1)
    (series : first.series = firstSeries table found)
    (series' : second.series = secondSeries table found) : r.Shares table [first, second] := by
  constructor
  case titles => rw [axes, List.map_cons, List.map_singleton, title, title']; rfl
  case ascending =>
    rw [List.forall_mem_cons, List.forall_mem_singleton, series, series']
    exact ⟨ascending_filter _ _, ascending_filter _ _⟩
  case apart =>
    rw [List.pairwise_pair, series, series']
    intro i inside
    exact (mem_firstSeries_iff.1 inside).2
  case together =>
    intro i
    have small : i ∈ secondSeries table found → i < table.series.length := by
      rw [mem_secondSeries_iff each]
      rintro ⟨column, -, inside, -⟩
      exact inside
    simp only [List.exists_mem_cons_iff, List.not_mem_nil, false_and, exists_false, or_false,
      series, series', mem_firstSeries_iff]
    tauto
  case second =>
    rintro axis there i
    cases there
    rw [series', mem_secondSeries_iff each]

theorem shares_of_build {chart : Chart} (built : r.build = .ok chart)
    (data : r.data = .timeSeries table) : r.Shares table chart.axes := by
  obtain ⟨one, known, count⟩ := build_eq_ok_iff.1 ⟨chart, built⟩
  obtain ⟨selector, chosen⟩ := exists_selector one
  obtain ⟨found, all⟩ := exists_found data known
  have each := forall₂_firstNamed all
  rw [AxesFit, data] at count
  rw [build_of_timeSeries chosen data, timeSeriesAxes_eq all, if_pos count] at built
  cases built
  by_cases none : r.secondary = []
  · rw [if_pos none] at count
    obtain ⟨given, axes⟩ := List.length_eq_one_iff.1 count
    simp only [axes, List.zipWith_cons_cons, List.zipWith_nil_left]
    exact shares_single each none axes rfl rfl
  · rw [if_neg none] at count
    obtain ⟨given, given', axes⟩ := List.length_eq_two.1 count
    simp only [axes, List.zipWith_cons_cons, List.zipWith_nil_left]
    exact shares_double each axes rfl rfl rfl rfl

/-- Axes that share the series of a table measure each of them once. -/
theorem Shares.measured_once {chart : Chart} (shares : r.Shares table chart.axes) {series : Nat}
    (inside : series < table.series.length) : ∃! k, chart.Measures k series := by
  obtain ⟨axis, member, there⟩ := (shares.together series).2 inside
  obtain ⟨k, small, rfl⟩ := List.mem_iff_getElem.1 member
  refine ⟨k, ⟨_, List.getElem?_eq_getElem small, there⟩, ?_⟩
  rintro j ⟨axis', found, there'⟩
  obtain ⟨small', rfl⟩ := List.getElem?_eq_some_iff.1 found
  have apart := List.pairwise_iff_getElem.1 shares.apart
  rcases Nat.lt_trichotomy j k with less | same | more
  · exact absurd there (apart j k small' small less there')
  · exact same
  · exact absurd there' (apart k j small small' more there)

theorem data_of_build {chart : Chart} (built : r.build = .ok chart) : chart.data = r.data := by
  obtain ⟨selector, chosen, -⟩ := bind_eq_ok_iff.1 built
  cases data : r.data with
  | timeSeries table =>
    rw [build_of_timeSeries chosen data] at built
    cases axes : r.timeSeriesAxes table <;> rw [axes] at built <;> cases built
    rfl
  | categorical items =>
    rw [build_of_categorical chosen data] at built
    cases axes : r.categoricalAxes <;> rw [axes] at built <;> cases built
    rfl

/-- An axis of a granted request has the title and the cap that were asked for. -/
theorem axis_of_build {chart : Chart} (built : r.build = .ok chart)
    (data : r.data = .timeSeries table) {k : Nat} {title : String} {max : AxisMax} (asked : r.axes[k]? = some (title, max)) :
    ∃ axis, chart.axes[k]? = some axis ∧ axis.title = title
      ∧ axis.cap = r.cap table axis.series max := by
  obtain ⟨one, known, count⟩ := build_eq_ok_iff.1 ⟨chart, built⟩
  obtain ⟨selector, chosen⟩ := exists_selector one
  obtain ⟨found, all⟩ := exists_found data known
  have titles := (shares_of_build built data).titles
  have small : k < chart.axes.length := by
    have same := congrArg List.length titles
    rw [List.length_map, List.length_map] at same
    exact same ▸ (List.getElem?_eq_some_iff.1 asked).1
  have there := List.getElem?_eq_getElem small
  rw [AxesFit, data] at count
  rw [build_of_timeSeries chosen data, timeSeriesAxes_eq all, if_pos count] at built
  obtain rfl := Except.ok.inj built
  obtain ⟨given, series, asked', -, made⟩ := List.getElem?_zipWith_eq_some.1 there
  obtain rfl := Option.some.inj (asked.symm.trans asked')
  refine ⟨_, there, ?_, ?_⟩
  · rw [← made]
  · rw [← made]

/-- Every series of a granted chart is measured by exactly one axis. -/
theorem measures_once {chart : Chart} (built : r.build = .ok chart)
    (data : chart.data = .timeSeries table) {series : Nat} (inside : series < table.series.length) :
    ∃! k, chart.Measures k series :=
  (shares_of_build built (data_of_build built ▸ data)).measured_once inside

/-- A request is granted if and only if it is well-formed. For any other the first fault is
reported: that of the selector, then that of the first secondary column that is no series, then that
of the number of axes. A chart over time has an axis for all series, or two that share them. -/
theorem build_exactly (r : Request) :
    ((∃ chart, r.build = .ok chart) ↔ r.WellFormed)
    ∧ (∀ fault, r.build = .error fault ↔ r.Refused fault)
    ∧ ∀ chart table, r.build = .ok chart → r.data = .timeSeries table → r.Shares table chart.axes :=
  ⟨build_eq_ok_iff, fun _ => build_eq_error_iff, fun _ _ built data => shares_of_build built data⟩

/-- Three series, two of them of one name. -/
def repeatedNames : TimeSeries where
  timeUnit := ""
  series := [⟨"a", ""⟩, ⟨"b", ""⟩, ⟨"a", ""⟩]
  rows := []
  series_ne := by simp
  widths := by simp

def repeatedRequest : Request where
  title := "Load"
  source := .baremetal
  data := .timeSeries repeatedNames
  button := some "Load"
  axes := [("%", .auto), ("", .auto)]
  secondary := ["b", "a", "b"]

/-- The secondary columns are asked for in another order and one of them twice. The later series of
the common name stays on the first axis. -/
theorem build_exactly_repeated : ∃ chart first second, repeatedRequest.build = .ok chart
    ∧ chart.axes = [first, second] ∧ 2 ∈ first.series ∧ ∀ i, i ∈ second.series ↔ i = 0 ∨ i = 1 := by
  have fits : repeatedRequest.WellFormed := by
    constructor
    · simp [OneSelector, repeatedRequest]
    · simp [HasSeries, repeatedRequest, repeatedNames]
    · simp [AxesFit, repeatedRequest]
  obtain ⟨granted, -, shares⟩ := build_exactly repeatedRequest
  obtain ⟨chart, built⟩ := granted.2 fits
  have shares := shares chart repeatedNames built rfl
  obtain ⟨first, second, axes⟩ : ∃ first second, chart.axes = [first, second] := by
    have count := congrArg List.length shares.titles
    rw [List.length_map] at count
    exact List.length_eq_two.1 count
  have a : FirstNamed repeatedNames "a" 0 := ⟨by decide, rfl, by decide⟩
  have b : FirstNamed repeatedNames "b" 1 := ⟨by decide, rfl, by decide⟩
  have named : ∀ i, i ∈ second.series ↔ i = 0 ∨ i = 1 := by
    intro i
    rw [shares.second second (by rw [axes]; rfl)]
    constructor
    · rintro ⟨column, inside, there⟩
      simp only [repeatedRequest, List.mem_cons, List.not_mem_nil, or_false] at inside
      rcases inside with rfl | rfl | rfl
      · exact .inr (there.unique b)
      · exact .inl (there.unique a)
      · exact .inr (there.unique b)
    · rintro (rfl | rfl)
      · exact ⟨"a", by simp [repeatedRequest], a⟩
      · exact ⟨"b", by simp [repeatedRequest], b⟩
  refine ⟨chart, first, second, built, axes, ?_, named⟩
  have measured := (shares.together 2).2 (by decide)
  simpa [axes, named] using measured

end UsageReport.Chart.Request
