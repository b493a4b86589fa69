import Mathlib
import UsageReport.Proofs.Chart.Granted
import UsageReport.Proofs.Table.Compact
import UsageReport.Report.Basic

/-! A report as JSON tells one story. The charts stand in it in the order and under the numbers in
which they were added. Of a chart over time the columns, the axes and the encoded table agree with
each other and with the table itself; of any other chart all rows are there in their order. -/

namespace UsageReport.Report

open UsageReport.Json (Value)
open UsageReport.Chart (Request)
open UsageReport.Codec (textBytes)
open UsageReport.Table (TimeSeries Categorical Cell Columnar)

/-! ### Adding charts -/

/-- A text that holds the bytes of a table, compressed in whatever way. -/
def Holds (text : String) (t : TimeSeries) : Prop :=
  ∃ compressed, Codec.Base64.decode (textBytes (String.ofList (Text.trim text.toList)))
      = .ok compressed
    ∧ Codec.Zlib.decompress? compressed = some t.columnar.blob

theorem decodeCompact_of_holds {text : String} {t : TimeSeries} (holds : Holds text t)
    (fits : t.columnar.WithinLimit) : TimeSeries.decodeCompact text = .ok t := by
  obtain ⟨compressed, symbols, bytes⟩ := holds
  rw [TimeSeries.decodeCompact, Columnar.decode_eq_ok fits symbols bytes]
  exact Columnar.table_columnar t

/-- Every table becomes a text that holds its bytes. -/
def Spelling.Faithful (spell : Spelling) : Prop := ∀ t, ∃ text, spell t = .ok text ∧ Holds text t

theorem faithful_compactSpelling : compactSpelling.Faithful := fun t =>
  ⟨t.encodeCompact, rfl, _, Columnar.symbols_encode _, Columnar.decompress?_compress _⟩

/-- The charts as a report holds them, the first one under the number after `count`. -/
def enteredFrom (text : TimeSeries → String) (count : Nat) : List Chart → List Entered
  | [] => []
  | chart :: charts =>
    ⟨count + 1, chart, chart.timeSeries?.map text⟩ :: enteredFrom text (count + 1) charts

theorem length_enteredFrom (text : TimeSeries → String) (count : Nat) (charts : List Chart) :
    (enteredFrom text count charts).length = charts.length := by
  induction charts generalizing count with
  | nil => rfl
  | cons chart charts ih => rw [enteredFrom, List.length_cons, List.length_cons, ih]

theorem getElem?_enteredFrom (text : TimeSeries → String) (count : Nat) (charts : List Chart)
    (index : Nat) : (enteredFrom text count charts)[index]?
      = charts[index]?.map fun chart =>
        ⟨count + index + 1, chart, chart.timeSeries?.map text⟩ := by
  induction charts generalizing count index with
  | nil => rfl
  | cons chart charts ih =>
    cases index with
    | zero => rfl
    | succ index =>
      rw [enteredFrom, List.getElem?_cons_succ, ih, List.getElem?_cons_succ]
      simp only [Nat.add_assoc, Nat.add_comm 1 index]

variable {spell : Spelling} {text : TimeSeries → String}

theorem push_eq_ok (spelled : ∀ t, spell t = .ok (text t)) (b : Builder) (chart : Chart) :
    b.push spell chart = .ok (b.charts.length + 1,
      ⟨b.charts ++ enteredFrom text b.charts.length [chart]⟩) := by
  unfold Builder.push
  cases data : chart.data with
  | timeSeries t =>
    simp only [spelled t, enteredFrom, Chart.timeSeries?, data]
    rfl
  | categorical t =>
    simp only [enteredFrom, Chart.timeSeries?, data]
    rfl

theorem pushAll_entered (spelled : ∀ t, spell t = .ok (text t)) (b : Builder)
    (charts : List Chart) :
    b.pushAll spell charts = .ok ⟨b.charts ++ enteredFrom text b.charts.length charts⟩ := by
  induction charts generalizing b with
  | nil =>
    rw [enteredFrom, List.append_nil]
    rfl
  | cons chart charts ih =>
    rw [Builder.pushAll, List.foldlM_cons, push_eq_ok spelled]
    refine (ih _).trans ?_
    simp [enteredFrom]

/-! ### Charts as JSON -/

/-- The items of the list under a name. -/
def itemsAt (v : Value) (name : String) : List Value := ((v.field? name).bind Value.array?).getD []

section

variable (name unit : String) (axis : Option Nat) (stacked : Bool)

theorem columnJson_name : (columnJson name unit axis stacked).field? "name" = some (.string name) :=
  rfl

theorem columnJson_unit :
    ((columnJson name unit axis stacked).field? "unit").getD (.string "") = .string unit := by
  by_cases empty : unit = ""
  · rw [columnJson, if_pos empty, empty]
    rfl
  · rw [columnJson, if_neg empty]
    rfl

theorem columnJson_other {key : String} (other : key ≠ "unit") :
    (columnJson name unit axis stacked).field? key
      = (columnJson name "" axis stacked).field? key := by
  by_cases empty : unit = ""
  · rw [empty]
  · have missed : (key == "unit") = false := beq_false_of_ne other
    simp [columnJson, empty, Value.field?, Value.object?, List.lookup_cons, missed]

theorem columnJson_axis :
    (columnJson name unit axis stacked).field? "axis" = some (indexJson axis) :=
  columnJson_other name unit axis stacked (by decide)

theorem columnJson_stacked :
    (columnJson name unit axis stacked).field? "stacked" = some (.bool stacked) :=
  columnJson_other name unit axis stacked (by decide)

end

/-- The JSON of a chart `c` over time, whose table is `t`. The columns are those of the table, and
the axis of each is the only one that lists its series. The encoded text is that of the table. -/
structure ShowsSeries (item : Value) (c : Chart) (t : TimeSeries) : Prop where
  names : (itemsAt item "columns").map (·.field? "name")
    = t.columnNames.map fun s => some (.string s)
  units : (itemsAt item "columns").map (fun column => (column.field? "unit").getD (.string ""))
    = t.columnUnits.map .string
  timestamps : ∃ column, (itemsAt item "columns")[0]? = some column
    ∧ column.field? "axis" = some .null
  stacked : item.field? "stacked" = some (.bool c.stacked)
  routed : ∀ j column, 1 ≤ j → (itemsAt item "columns")[j]? = some column → ∃ k : Nat,
    (∀ k', (∃ axis, (itemsAt item "axes")[k']? = some axis
      ∧ .integer (j - 1 : Nat) ∈ itemsAt axis "series") ↔ k' = k)
    ∧ column.field? "axis" = some (.integer k)
    ∧ column.field? "stacked" = some (.bool (c.stacked && k == 0))
  decoded : t.columnar.WithinLimit → ∃ data encoded u, item.field? "data" = some data
    ∧ data.field? "encoded" = some (.string encoded) ∧ TimeSeries.decodeCompact encoded = .ok u
    ∧ data.field? "rows" = some (.integer u.rows.length) ∧ u = t

/-- The JSON of a cell. Texts are strings, and numbers are reals. -/
inductive ShowsCell : Cell → Value → Prop
  | text {s : String} : ShowsCell (.text s) (.string s)
  | number {x : Number} : ShowsCell (.number x) (.real x.value)

def ShowsRow (row : List Cell) (v : Value) : Prop :=
  ∃ cells, v = .array cells ∧ List.Forall₂ ShowsCell row cells

/-- The JSON of a chart of items, whose table is `t`. The rows are all that were added to the table,
the first one first. -/
structure ShowsItems (item : Value) (t : Categorical) : Prop where
  columns : (itemsAt item "columns").map (fun column =>
      (column.field? "name", column.field? "axis", column.field? "stacked"))
    = t.columns.map fun name => (some (.string name), some .null, some (.bool false))
  rows : ∃ data shown, item.field? "data" = some data ∧ data.field? "rows" = some (.array shown)
    ∧ List.Forall₂ ShowsRow t.rows shown
    ∧ ∀ names empty (rows : List (List Cell)), Categorical.create names = .ok empty →
      rows.foldlM Categorical.addRow empty = .ok t → List.Forall₂ ShowsRow rows shown

theorem mem_axisJson {a : Chart.Axis} {index : Nat} :
    .integer index ∈ itemsAt (axisJson a) "series" ↔ index ∈ a.series := by
  have listed : itemsAt (axisJson a) "series" = a.series.map fun (n : Nat) => .integer n := rfl
  simp [listed]

theorem measures_json {e : Entered} {k index : Nat} :
    (∃ axis, (itemsAt e.json "axes")[k]? = some axis ∧ .integer index ∈ itemsAt axis "series")
      ↔ e.chart.Measures k index := by
  have listed : itemsAt e.json "axes" = e.chart.axes.map axisJson := rfl
  simp only [listed, List.getElem?_map, Option.map_eq_some_iff]
  constructor
  · rintro ⟨_, ⟨a, found, rfl⟩, inside⟩
    exact ⟨a, found, mem_axisJson.1 inside⟩
  · rintro ⟨a, found, inside⟩
    exact ⟨_, ⟨a, found, rfl⟩, mem_axisJson.2 inside⟩

theorem showsSeries_json {e : Entered} {t : TimeSeries} {encoded : String}
    (data : e.chart.data = .timeSeries t)
    (once : ∀ series < t.series.length, ∃! k, e.chart.Measures k series)
    (spelled : e.encoded = some encoded) (holds : Holds encoded t) :
    ShowsSeries e.json e.chart t := by
  have columns : itemsAt e.json "columns"
      = columnJson Table.timestampName t.timeUnit none false
        :: t.series.zipIdx.map fun entry => seriesJson e.chart entry.1 entry.2 := by
    show columnsJson e.chart = _
    rw [columnsJson, data]
  have series {β : Type} (view : Table.Series → β) :
      t.series.zipIdx.map (view ∘ Prod.fst) = t.series.map view := by
    rw [← List.map_map, List.zipIdx_map_fst]
  constructor
  case names =>
    simp only [columns, List.map_cons, List.map_map, columnJson_name, TimeSeries.columnNames]
    exact congrArg _ (series fun s => some (Value.string s.name))
  case units =>
    simp only [columns, List.map_cons, List.map_map, columnJson_unit, TimeSeries.columnUnits]
    refine congrArg _ (Eq.trans ?_ (series fun s => Value.string s.unit))
    exact List.map_congr_left fun _ _ => columnJson_unit ..
  case timestamps =>
    rw [columns]
    exact ⟨_, rfl, columnJson_axis ..⟩
  case stacked => rfl
  case routed =>
    intro j column late found
    -- The timestamps stand in front of the series, so a column is one place behind its series.
    obtain ⟨index, rfl⟩ : ∃ index, j = index + 1 := ⟨j - 1, by omega⟩
    rw [columns, List.getElem?_cons_succ, List.getElem?_map, List.getElem?_zipIdx, Option.map_map,
      Option.map_eq_some_iff] at found
    obtain ⟨s, found, rfl⟩ := found
    obtain ⟨k, axis, measured, only⟩ :=
      Chart.exists_measures_of_axisOf? (once index (List.getElem?_eq_some_iff.1 found).1)
    simp only [measures_json, Nat.add_sub_cancel, Function.comp_apply, Nat.zero_add, seriesJson,
      columnJson_axis, columnJson_stacked, axis]
    exact ⟨k, fun k' => ⟨only k', fun same => same ▸ measured⟩, rfl, rfl⟩
  case decoded =>
    intro fits
    refine ⟨dataJson e.encoded e.chart.data, encoded, t, rfl, ?_,
      decodeCompact_of_holds holds fits, ?_, rfl⟩
    · rw [data, spelled]
      rfl
    · rw [data]
      rfl

theorem rows_of_addRow {t u : Categorical} {row : List Cell} (added : t.addRow row = .ok u) :
    u.rows = t.rows ++ [row] := by
  unfold Categorical.addRow Categorical.extend at added
  split at added
  · cases added
  · cases added
    rfl

theorem rows_of_foldlM_addRow {t u : Categorical} {rows : List (List Cell)}
    (added : rows.foldlM Categorical.addRow t = .ok u) : u.rows = t.rows ++ rows := by
  induction rows generalizing t with
  | nil =>
    cases added
    exact (List.append_nil _).symm
  | cons row rows ih =>
    rw [List.foldlM_cons] at added
    obtain ⟨t', first, others⟩ := bind_eq_ok_iff.1 added
    rw [ih others, rows_of_addRow first, List.append_assoc, List.singleton_append]

theorem showsCell_json (cell : Cell) : ShowsCell cell cell.json := by
  cases cell with
  | text s => exact .text
  | number x => exact .number

theorem showsRow_json (row : List Cell) : ShowsRow row (.array (row.map Cell.json)) := by
  refine ⟨_, rfl, ?_⟩
  rw [List.forall₂_map_right_iff, List.forall₂_same]
  exact fun cell _ => showsCell_json cell

theorem showsItems_json {e : Entered} {t : Categorical} (data : e.chart.data = .categorical t) :
    ShowsItems e.json t := by
  have columns : itemsAt e.json "columns"
      = t.columns.map fun name => columnJson name "" none false := by
    show columnsJson e.chart = _
    rw [columnsJson, data]
  have shown (rows : List (List Cell)) :
      List.Forall₂ ShowsRow rows (rows.map fun row => .array (row.map Cell.json)) := by
    rw [List.forall₂_map_right_iff, List.forall₂_same]
    exact fun row _ => showsRow_json row
  constructor
  case columns =>
    rw [columns, List.map_map]
    exact List.map_congr_left fun name _ => rfl
  case rows =>
    refine ⟨dataJson e.encoded e.chart.data, _, rfl, ?_, shown t.rows,
      fun names empty added created filled => ?_⟩
    · rw [data]
      rfl
    · have none : empty.rows = [] := by
        unfold Categorical.create at created
        split at created
        · cases created
        · cases created
          rfl
      rw [rows_of_foldlM_addRow filled, none, List.nil_append]
      exact shown added

/-! ### Reports as JSON -/

/-- Charts that were granted are numbered from one as they are added, and the finished report shows
each of them under its number with its whole table. -/
theorem shows_charts (faithful : spell.Faithful) {charts : List Chart}
    (granted : ∀ chart ∈ charts, ∃ r : Request, r.build = .ok chart) (capture : Capture) :
    (∀ front chart behind, charts = front ++ chart :: behind → ∃ before after,
      Builder.pushAll spell {} front = .ok before
        ∧ before.push spell chart = .ok (front.length + 1, after))
    ∧ ∃ b, Builder.pushAll spell {} charts = .ok b
      ∧ (itemsAt (b.finish capture).json "charts").length = charts.length
      ∧ ∀ i chart, charts[i]? = some chart → ∃ item,
        (itemsAt (b.finish capture).json "charts")[i]? = some item
        ∧ item.field? "id" = some (.integer (i + 1 : Nat))
        ∧ (∀ t, chart.data = .timeSeries t → ShowsSeries item chart t)
        ∧ ∀ t, chart.data = .categorical t → ShowsItems item t := by
  choose text spelled holds using faithful
  have items : itemsAt (Builder.finish ⟨enteredFrom text 0 charts⟩ capture).json "charts"
      = (enteredFrom text 0 charts).map Entered.json := rfl
  refine ⟨fun front chart behind _ => ?_, ⟨enteredFrom text 0 charts⟩, ?_, ?_, ?_⟩
  · have pushed := push_eq_ok spelled ⟨enteredFrom text 0 front⟩ chart
    rw [length_enteredFrom] at pushed
    exact ⟨_, _, pushAll_entered spelled {} front, pushed⟩
  · exact pushAll_entered spelled {} charts
  · rw [items, List.length_map, length_enteredFrom]
  · intro i chart found
    obtain ⟨r, built⟩ := granted chart (List.mem_of_getElem? found)
    refine ⟨Entered.json ⟨0 + i + 1, chart, chart.timeSeries?.map text⟩, ?_, ?_, ?_, ?_⟩
    · rw [items, List.getElem?_map, getElem?_enteredFrom, found]
      rfl
    · rw [Nat.zero_add]
      rfl
    · intro t data
      refine showsSeries_json data (fun series inside => r.measures_once built data inside)
        ?_ (holds t)
      simp only [Chart.timeSeries?, data, Option.map_some]
    · exact fun t data => showsItems_json (e := ⟨0 + i + 1, chart, _⟩) data

/-- A chart of two series of one name, of which the secondary axis gets the first. -/
def twins : Request where
  title := "Load"
  source := .baremetal
  data := .timeSeries {
    timeUnit := "", series := [⟨"CPU", "%"⟩, ⟨"CPU", ""⟩],
    rows := [⟨⟨-1, 86399, 1500000000, by decide⟩, [⟨1⟩, ⟨0x7FF8000000000000⟩]⟩]
    series_ne := by simp, widths := by decide }
  button := some "Load"
  stacked := true
  axes := [("%", .auto), ("", .fixed 100)]
  secondary := ["CPU"]

/-- A chart of two tasks. -/
def listing : Request where
  title := "Tasks"
  source := .cgroupPerTask
  data := .categorical {
    columns := ["Command", "CPU time"]
    rows := [[.text "sh", .number 3], [.text "null", .number ⟨0x7FF8000000000000⟩]]
    columns_ne := by simp, widths := by decide }
  button := some "Tasks"
  stacked := true
  axes := [("CPU time", .auto)]

theorem shows_twins_and_listing : ∃ chart chart' t, twins.build = .ok chart
    ∧ listing.build = .ok chart' ∧ chart.data = .timeSeries t
    ∧ t.columnar.WithinLimit ∧ compactSpelling.Faithful
    ∧ ∃ b, Builder.pushAll compactSpelling {} [chart, chart'] = .ok b
      ∧ ∃ item item' data', (itemsAt (b.finish ⟨{}, []⟩).json "charts")[0]? = some item
        ∧ (itemsAt (b.finish ⟨{}, []⟩).json "charts")[1]? = some item'
        ∧ ShowsSeries item chart t
        ∧ item'.field? "id" = some (.integer 2) ∧ item'.field? "data" = some data'
        ∧ data'.field? "rows" = some (.array [
          .array [.string "sh", .real (Number.value 3)],
          .array [.string "null", .real (Number.value ⟨0x7FF8000000000000⟩)]]) := by
  refine ⟨_, _, _, rfl, rfl, rfl, ?_, faithful_compactSpelling, ?_⟩
  · constructor <;> decide
  · obtain ⟨-, b, pushed, -, shown⟩ := shows_charts faithful_compactSpelling
      (List.forall_mem_cons.2 ⟨⟨twins, rfl⟩, List.forall_mem_singleton.2 ⟨listing, rfl⟩⟩) ⟨{}, []⟩
    obtain ⟨item, there, -, series, -⟩ := shown 0 _ rfl
    obtain ⟨item', there', id', -, items⟩ := shown 1 _ rfl
    obtain ⟨data', rows, found, listed, cells, -⟩ := (items _ rfl).rows
    refine ⟨b, pushed, item, item', data', there, there', series _ rfl, id', found, ?_⟩
    obtain _ | ⟨⟨first, rfl, one⟩, _ | ⟨⟨second, rfl, two⟩, _ | _⟩⟩ := cells
    obtain _ | ⟨⟨⟩, _ | ⟨⟨⟩, _ | _⟩⟩ := one
    obtain _ | ⟨⟨⟩, _ | ⟨⟨⟩, _ | _⟩⟩ := two
    exact listed

end UsageReport.Report
