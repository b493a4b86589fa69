import Mathlib
import UsageReport.Proofs.Table.Compact

/-! The shape of a table, however it came about: a column of timestamps and at least one series, a
unit for each column, and rows as wide as there are series. A row is put at the end of a table or
refused, and a refused one changes nothing. The vectors of a compact form may have any lengths: none
of them is read where it has ended. -/

namespace UsageReport.Table

open UsageReport.Time (Instant)

namespace TimeSeries

variable {t u v : TimeSeries} {row : Row} {rows more : List Row}

/-! ### Shapes -/

/-- The number of series, all columns but that of the timestamps. -/
def seriesCount (t : TimeSeries) : Nat := t.columnNames.length - 1

theorem seriesCount_eq (t : TimeSeries) : t.seriesCount = t.series.length := by
  rw [seriesCount, length_columnNames, Nat.add_sub_cancel]

/-- The columns and rows of the table fit together. -/
structure Shaped (t : TimeSeries) : Prop where
  wide : 2 ≤ t.columnNames.length
  first : t.columnNames.head? = some timestampName
  units : t.columnUnits.length = t.columnNames.length
  rows : ∀ row ∈ t.rows, row.values.length = t.seriesCount

theorem shaped (t : TimeSeries) : t.Shaped := by
  have filled : 0 < t.series.length := List.length_pos_iff.2 t.series_ne
  constructor
  case wide =>
    rw [length_columnNames]
    omega
  case first => rfl
  case units => rw [length_columnUnits, length_columnNames]
  case rows =>
    rw [seriesCount_eq]
    exact t.widths

/-- The table `u` is `t` with more rows at its end. -/
structure Grown (t : TimeSeries) (rows : List Row) (u : TimeSeries) : Prop where
  names : u.columnNames = t.columnNames
  units : u.columnUnits = t.columnUnits
  rows : u.rows = t.rows ++ rows

theorem Grown.refl (t : TimeSeries) : t.Grown [] t := ⟨rfl, rfl, (List.append_nil _).symm⟩

theorem Grown.trans (first : t.Grown rows u) (second : u.Grown more v) :
    t.Grown (rows ++ more) v :=
  ⟨second.names.trans first.names, second.units.trans first.units, by
    rw [second.rows, first.rows, List.append_assoc]⟩

theorem Grown.seriesCount (grown : t.Grown rows u) : u.seriesCount = t.seriesCount := by
  rw [TimeSeries.seriesCount, grown.names, TimeSeries.seriesCount]

/-! ### One row -/

theorem push_of_fit (fit : row.values.length = t.seriesCount) :
    ∃ u, t.push row = .ok u ∧ t.Grown [row] u := by
  have fits : ∀ r ∈ [row], r.values.length = t.series.length := by
    simpa [seriesCount_eq] using fit
  obtain ⟨u, made, timeUnit, series, added⟩ := extend_eq_ok fits
  refine ⟨u, made, ?_, ?_, added⟩
  · rw [columnNames, series, columnNames]
  · rw [columnUnits, timeUnit, series, columnUnits]

theorem push_of_other (other : row.values.length ≠ t.seriesCount) :
    t.push row = .error (t.widthFault row.values.length) := by
  rw [seriesCount_eq] at other
  exact extend_eq_error (List.find?_cons_of_pos (decide_eq_true other))

theorem addRow_of_other {timestamp : String} {values : List Number}
    (other : values.length ≠ t.seriesCount) :
    t.addRow timestamp values = .error (t.widthFault values.length) := by
  rw [seriesCount_eq] at other
  exact if_pos other

theorem addRow_of_fit {timestamp : String} {values : List Number}
    (fit : values.length = t.seriesCount) : t.addRow timestamp values
      = ((Instant.parse timestamp).mapError .timestamp >>= fun time => t.push ⟨time, values⟩) := by
  rw [seriesCount_eq] at fit
  rw [addRow, if_neg (not_not_intro fit)]

/-! ### Entries -/

/-- What may be put at the end of a table. -/
inductive Entry where
  /-- A row whose timestamp is text. -/
  | text (timestamp : String) (values : List Number)
  /-- A row whose timestamp is known. -/
  | row (row : Row)

namespace Entry

def values : Entry → List Number
  | .text _ values => values
  | .row row => row.values

def time : Entry → Except Fault Instant
  | .text timestamp _ => (Instant.parse timestamp).mapError .timestamp
  | .row row => .ok row.time

end Entry

/-- Makes an entry. A refused one leaves the table as it is. -/
def enter (t : TimeSeries) (e : Entry) : Except Fault Unit × TimeSeries :=
  let made := match e with
    | .text timestamp values => t.addRow timestamp values
    | .row row => t.push row
  match made with
  | .ok u => (.ok (), u)
  | .error fault => (.error fault, t)

/-- What an entry does to a table: the width of the row is checked first, then its timestamp. -/
structure Enters (t : TimeSeries) (e : Entry) : Prop where
  width : e.values.length ≠ t.seriesCount → t.enter e
    = (.error (.shape (.rowWidth (e.values.length + 1) t.columnNames.length)), t)
  time : e.values.length = t.seriesCount → ∀ fault, e.time = .error fault →
    t.enter e = (.error fault, t)
  fit : e.values.length = t.seriesCount → ∀ time, e.time = .ok time →
    ∃ u, t.enter e = (.ok (), u) ∧ t.Grown [⟨time, e.values⟩] u

theorem enters (t : TimeSeries) (e : Entry) : Enters t e := by
  have fault (width : Nat) :
      t.widthFault width = .shape (.rowWidth (width + 1) t.columnNames.length) := by
    rw [widthFault, length_columnNames]
  cases e with
  | row row =>
    constructor
    case width =>
      intro other
      simp only [enter, push_of_other other, fault, Entry.values]
    case time => exact fun _ _ unread => nomatch unread
    case fit =>
      rintro fit _ ⟨⟩
      obtain ⟨u, made, grown⟩ := push_of_fit fit
      exact ⟨u, by simp only [enter, made], grown⟩
  | text timestamp values =>
    constructor
    case width =>
      intro other
      have refused : t.addRow timestamp values = .error (t.widthFault values.length) :=
        addRow_of_other other
      simp only [enter, refused, fault, Entry.values]
    case time =>
      intro fit fault unread
      have fit : values.length = t.seriesCount := fit
      have refused : t.addRow timestamp values = .error fault := by
        rw [addRow_of_fit fit]
        exact congrArg (· >>= fun time => t.push ⟨time, values⟩) unread
      simp only [enter, refused]
    case fit =>
      intro fit time read
      have fit : values.length = t.seriesCount := fit
      have fit' : (Row.mk time values).values.length = t.seriesCount := fit
      obtain ⟨u, made, grown⟩ := push_of_fit fit'
      have added : t.addRow timestamp values = .ok u := by
        rw [addRow_of_fit fit]
        exact (congrArg (· >>= fun time => t.push ⟨time, values⟩) read).trans made
      exact ⟨u, by simp only [enter, added], grown⟩

/-! ### Entries in a row -/

/-- The row that an entry adds to a table, none where it is refused. -/
def accepted (t : TimeSeries) (e : Entry) : Option Row :=
  if e.values.length = t.seriesCount then e.time.toOption.map (⟨·, e.values⟩) else none

/-- The table after entries in a row. -/
def after (t : TimeSeries) (entries : List Entry) : TimeSeries :=
  entries.foldl (fun t e => (t.enter e).2) t

theorem accepted_of_grown (grown : t.Grown rows u) : u.accepted = t.accepted := by
  funext e
  rw [accepted, grown.seriesCount, accepted]

theorem grown_enter (t : TimeSeries) (e : Entry) :
    t.Grown (t.accepted e).toList (t.enter e).2 := by
  by_cases fit : e.values.length = t.seriesCount
  · cases time : e.time with
    | ok time' =>
      obtain ⟨u, made, grown⟩ := (enters t e).fit fit time' time
      rw [made, accepted, if_pos fit, time]
      exact grown
    | error fault =>
      rw [(enters t e).time fit fault time, accepted, if_pos fit, time]
      exact .refl t
  · rw [(enters t e).width fit, accepted, if_neg fit]
    exact .refl t

/-- Entries in a row add the rows of those that are accepted, in their order. -/
theorem grown_after (t : TimeSeries) (entries : List Entry) :
    t.Grown (entries.filterMap t.accepted) (t.after entries) := by
  induction entries generalizing t with
  | nil => exact .refl t
  | cons e entries ih =>
    have first := grown_enter t e
    have rest := ih (t.enter e).2
    rw [accepted_of_grown first] at rest
    have all := first.trans rest
    rw [List.filterMap_cons]
    cases added : t.accepted e <;> rwa [added] at all

/-! ### Rows one by one -/

theorem extend_cons (t : TimeSeries) (row : Row) (rows : List Row) :
    t.extend (row :: rows) = t.push row >>= fun u => u.extend rows := by
  by_cases fit : row.values.length = t.seriesCount
  · obtain ⟨u, pushed, grown⟩ := push_of_fit fit
    obtain ⟨-, timeUnit, series, added⟩ := extend_eq_ok_iff.1 pushed
    rw [seriesCount_eq] at fit
    -- The first row of another width is the fault, and it is the same one behind a row that fits.
    have later : (row :: rows).find? (·.values.length ≠ t.series.length)
        = rows.find? (·.values.length ≠ u.series.length) := by
      rw [series, List.find?_cons_of_neg (by simpa using fit)]
    rw [pushed]
    change t.extend (row :: rows) = u.extend rows
    cases found : rows.find? (·.values.length ≠ u.series.length) with
    | some other =>
      rw [extend_eq_error (later.trans found), extend_eq_error found, widthFault, widthFault,
        series]
    | none =>
      have fits : ∀ row ∈ rows, row.values.length = u.series.length := by
        simpa using List.find?_eq_none.1 found
      obtain ⟨v, made, timeUnit', series', rows'⟩ := extend_eq_ok fits
      rw [made, extend_eq_ok_iff, timeUnit', series', rows', timeUnit, series, added]
      refine ⟨List.forall_mem_cons.2 ⟨fit, fun row inside => ?_⟩, rfl, rfl, ?_⟩
      · rw [fits row inside, series]
      · rw [List.append_assoc, List.singleton_append]
  · have first : (row :: rows).find? (·.values.length ≠ t.series.length) = some row := by
      rw [← seriesCount_eq]
      exact List.find?_cons_of_pos (decide_eq_true fit)
    rw [extend_eq_error first, push_of_other fit]
    rfl

/-- Rows that are put at the end of a table together are put there one by one. -/
theorem extend_eq_foldlM (t : TimeSeries) (rows : List Row) :
    t.extend rows = rows.foldlM push t := by
  induction rows generalizing t with
  | nil =>
    rw [List.foldlM_nil]
    refine extend_eq_ok_iff.2 ?_
    exact ⟨fun _ none => (List.not_mem_nil none).elim, rfl, rfl, (List.append_nil _).symm⟩
  | cons row rows ih =>
    rw [extend_cons, List.foldlM_cons]
    exact congrArg _ (funext ih)

end TimeSeries

namespace Columnar

/-! ### Vectors by place

The row at a place takes one value of every vector. There is none where a vector has ended. -/

def rowAt (c : Columnar) (i : Nat) : Option (Except CompactFault Row) := do
  let seconds ← c.seconds[i]?
  let nanos ← c.nanos[i]?
  match Instant.ofEpoch? seconds.toInt nanos.toNat with
  | none => some (.error (.timestamp seconds nanos))
  | some time =>
    let values ← c.series.mapM (·[i]?)
    some (.ok ⟨time, values⟩)

/-- The rows at the given places, read until a timestamp does not exist. -/
def rowsAt (c : Columnar) : List Nat → Option (Except CompactFault (List Row))
  | [] => some (.ok [])
  | i :: places => do
    match ← c.rowAt i with
    | .error fault => some (.error fault)
    | .ok row =>
      let rows ← c.rowsAt places
      some (rows.map (row :: ·))

/-- The table of the vectors, read by place and filled row by row. There is none where a vector is
read behind its end. -/
def indexed (c : Columnar) : Option (Except CompactFault TimeSeries) :=
  let count := c.seconds.length
  if c.nanos.length ≠ count ∨ c.series.any (·.length ≠ count) then
    some (.error (.table (.shape .unequalVectors)))
  else do
    let rows ← c.rowsAt (List.range count)
    some do
      let rows ← rows
      let empty ← (TimeSeries.create c.columnNames (some c.columnUnits)).mapError .table
      (rows.foldlM TimeSeries.push empty).mapError .table

theorem mapM_getElem? {vectors : List (List Number)} {k : Nat}
    (long : ∀ vector ∈ vectors, k < vector.length) :
    vectors.mapM (·[k]?) = some ((vectors.map (List.drop k)).filterMap List.head?) := by
  induction vectors with
  | nil => rfl
  | cons vector vectors ih =>
    obtain ⟨first, rest⟩ := List.forall_mem_cons.1 long
    have head : (vector.drop k).head? = some vector[k] := by
      rw [List.head?_drop, List.getElem?_eq_getElem first]
    rw [List.mapM_cons, ih rest, List.map_cons, List.filterMap_cons_some head,
      List.getElem?_eq_getElem first]
    rfl

/-- From any place on, vectors of one length are read by place as they are read from the front. -/
theorem rowsAt_range' {c : Columnar} (nanos : c.nanos.length = c.seconds.length)
    (series : ∀ vector ∈ c.series, vector.length = c.seconds.length) (k count : Nat)
    (rest : k + count = c.seconds.length) :
    c.rowsAt (List.range' k count)
      = some ((instants ((c.seconds.zip c.nanos).drop k)).map fun times =>
          rowsOf times (c.series.map (List.drop k))) := by
  -- By induction on the number of places that are left, whatever the first of them is.
  induction count generalizing k with
  | zero =>
    have ended : (c.seconds.zip c.nanos).drop k = [] := by
      rw [List.drop_eq_nil_iff, List.length_zip]
      omega
    rw [ended]
    rfl
  | succ count ih =>
    have inside : k < c.seconds.length := by omega
    have inside' : k < c.nanos.length := by omega
    have next : (c.seconds.zip c.nanos).drop k
        = (c.seconds[k], c.nanos[k]) :: (c.seconds.zip c.nanos).drop (k + 1) := by
      rw [List.drop_eq_getElem_cons (by rw [List.length_zip]; omega), List.getElem_zip]
    have values : c.series.mapM (·[k]?)
        = some ((c.series.map (List.drop k)).filterMap List.head?) :=
      mapM_getElem? fun vector member => by rw [series vector member]; exact inside
    have tails : (c.series.map (List.drop k)).map List.tail = c.series.map (List.drop (k + 1)) := by
      rw [List.map_map]
      exact List.map_congr_left fun vector _ => List.tail_drop
    rw [List.range'_succ, rowsAt, rowAt, List.getElem?_eq_getElem inside,
      List.getElem?_eq_getElem inside', next, instants]
    cases exists? : Instant.ofEpoch? c.seconds[k].toInt c.nanos[k].toNat with
    | none => simp only [Option.bind_eq_bind, Option.bind_some, exists?, Except.map]
    | some time =>
      simp only [Option.bind_eq_bind, Option.bind_some, exists?, values, ih (k + 1) (by omega)]
      cases instants ((c.seconds.zip c.nanos).drop (k + 1)) with
      | error fault => rfl
      | ok times => simp only [Except.map, rowsOf, tails]

/-- The vectors have one length. -/
structure Even (c : Columnar) : Prop where
  nanos : c.nanos.length = c.seconds.length
  series : ∀ vector ∈ c.series, vector.length = c.seconds.length

theorem even_iff (c : Columnar) : c.Even
    ↔ ¬ (c.nanos.length ≠ c.seconds.length ∨ c.series.any (·.length ≠ c.seconds.length)) := by
  rw [not_or, not_ne_iff, Bool.not_eq_true, List.any_eq_false]
  constructor
  · exact fun even => ⟨even.nanos, fun vector inside => by simpa using even.series vector inside⟩
  · exact fun ⟨nanos, series⟩ => ⟨nanos, fun vector inside => by simpa using series vector inside⟩

theorem table_of_even {c : Columnar} (even : c.Even) : c.table
    = (instants (c.seconds.zip c.nanos) >>= fun times =>
        (TimeSeries.create c.columnNames (some c.columnUnits)).mapError .table >>= fun empty =>
          (empty.extend (rowsOf times c.series)).mapError .table) := by
  rw [even_iff] at even
  exact if_neg even

/-- Whatever the lengths of the vectors, none is read behind its end, and reading them by place
gives their table. -/
theorem indexed_eq (c : Columnar) : c.indexed = some c.table := by
  by_cases even : c.Even
  · have read := rowsAt_range' even.nanos even.series 0 c.seconds.length (Nat.zero_add _)
    have first : c.series.map (List.drop 0) = c.series := List.map_id _
    rw [table_of_even even, indexed, if_neg (c.even_iff.1 even), List.range_eq_range', read,
      List.drop_zero, first]
    cases instants (c.seconds.zip c.nanos) with
    | error fault => rfl
    | ok times =>
      simp only [Except.map, Option.bind_eq_bind, Option.bind_some, TimeSeries.extend_eq_foldlM]
      rfl
  · have ragged := not_not.1 (mt c.even_iff.2 even)
    rw [indexed, if_pos ragged]
    exact congrArg some (if_pos ragged).symm

theorem length_rowsOf (times : List Instant) (vectors : List (List Number)) :
    (rowsOf times vectors).length = times.length := by
  induction times generalizing vectors with
  | nil => rfl
  | cons t times ih => rw [rowsOf, List.length_cons, ih, List.length_cons]

theorem length_of_instants {stamps : List (Int64 × UInt32)} {times : List Instant}
    (read : instants stamps = .ok times) : times.length = stamps.length := by
  induction stamps generalizing times with
  | nil =>
    cases read
    rfl
  | cons stamp stamps ih =>
    obtain ⟨seconds, nanos⟩ := stamp
    rw [instants] at read
    split at read
    next => cases read
    next t _ =>
      cases rest : instants stamps with
      | error fault => rw [rest] at read; cases read
      | ok later =>
        rw [rest] at read
        cases read
        rw [List.length_cons, List.length_cons, ih rest]

theorem rows_of_table {c : Columnar} {t : TimeSeries} (made : c.table = .ok t) :
    c.Even ∧ t.columnNames = c.columnNames ∧ t.columnUnits = c.columnUnits
      ∧ ∃ times, instants (c.seconds.zip c.nanos) = .ok times ∧ t.rows = rowsOf times c.series := by
  by_cases even : c.Even
  · rw [table_of_even even] at made
    obtain ⟨times, read, made⟩ := bind_eq_ok_iff.1 made
    obtain ⟨empty, created, made⟩ := bind_eq_ok_iff.1 made
    obtain ⟨-, -, -, named, measured, none⟩ :=
      TimeSeries.parts_of_create (mapError_eq_ok_iff.1 created)
    obtain ⟨-, timeUnit, series, added⟩ :=
      TimeSeries.extend_eq_ok_iff.1 (mapError_eq_ok_iff.1 made)
    refine ⟨even, ?_, ?_, times, read, ?_⟩
    · rw [← named, TimeSeries.columnNames, series, TimeSeries.columnNames]
    · rw [← measured, TimeSeries.columnUnits, timeUnit, series, TimeSeries.columnUnits]
    · rw [added, none, List.nil_append]
  · have refused : c.table = .error (.table (.shape .unequalVectors)) :=
      if_pos (not_not.1 (mt c.even_iff.2 even))
    rw [refused] at made
    cases made

/-- A table of vectors has their names and units, and a row for each timestamp. -/
theorem parts_of_table {c : Columnar} {t : TimeSeries} (made : c.table = .ok t) :
    t.columnNames = c.columnNames ∧ t.columnUnits = c.columnUnits
      ∧ t.rows.length = c.seconds.length := by
  obtain ⟨even, names, units, times, read, rows⟩ := rows_of_table made
  refine ⟨names, units, ?_⟩
  rw [rows, length_rowsOf, length_of_instants read, List.length_zip, even.nanos, Nat.min_self]

end Columnar

namespace TimeSeries

/-! ### Where tables come from -/

/-- What a table can be made of. -/
inductive Origin where
  | columns (names : List String) (units : Option (List String))
  | series (names : List String) (unit : String)
  | vectors (c : Columnar)
  | text (s : String)

def Origin.table : Origin → Except CompactFault TimeSeries
  | .columns names units => (create names units).mapError .table
  | .series names unit => (ofSeries names unit).mapError .table
  | .vectors c => c.table
  | .text s => decodeCompact s

/-- Columns that fit together make an empty table and no others do; vectors make a table with their
columns. Whatever a table was made of and whatever is entered after that, its columns and rows fit
together and its rows are those of the accepted entries, in their order. A row is accepted if it is
as wide as the table and its timestamp can be read. No vector is read behind its end. -/
theorem tables_obtained :
    (∀ names units t, create names units = .ok t
      ↔ (2 ≤ names.length ∧ names.head? = some timestampName
          ∧ ∀ given ∈ units, given.length = names.length)
        ∧ t.columnNames = names ∧ t.columnUnits = units.getD (names.map fun _ => "")
        ∧ t.rows = [])
    ∧ (∀ (c : Columnar) (t : TimeSeries), c.table = .ok t →
        t.columnNames = c.columnNames ∧ t.columnUnits = c.columnUnits
          ∧ t.rows.length = c.seconds.length)
    ∧ (∀ (origin : Origin) (t : TimeSeries), origin.table = .ok t → ∀ entries,
        (t.after entries).Shaped ∧ t.Grown (entries.filterMap t.accepted) (t.after entries))
    ∧ (∀ (t : TimeSeries) (row : Row),
        (∃ u, t.push row = .ok u) ↔ row.values.length = t.seriesCount)
    ∧ (∀ (t : TimeSeries) (timestamp : String) (values : List Number),
        (∃ u, t.addRow timestamp values = .ok u)
          ↔ values.length = t.seriesCount ∧ ∃ time, Instant.parse timestamp = .ok time)
    ∧ (∀ (t : TimeSeries) (e : Entry), Enters t e)
    ∧ ∀ c : Columnar, c.indexed = some c.table := by
  refine ⟨fun _ _ _ => create_eq_ok_iff, fun _ _ => Columnar.parts_of_table,
    fun _ t _ entries => ⟨shaped _, grown_after t entries⟩, fun t row => ⟨?_, ?_⟩,
    fun t timestamp values => ⟨?_, ?_⟩, enters, Columnar.indexed_eq⟩
  · rintro ⟨u, made⟩
    by_contra other
    rw [push_of_other other] at made
    cases made
  · intro fit
    obtain ⟨u, made, -⟩ := push_of_fit fit
    exact ⟨u, made⟩
  · rintro ⟨u, made⟩
    by_cases fit : values.length = t.seriesCount
    · rw [addRow_of_fit fit] at made
      refine ⟨fit, ?_⟩
      cases read : Instant.parse timestamp with
      | error fault => rw [read] at made; cases made
      | ok time => exact ⟨time, rfl⟩
    · rw [addRow_of_other fit] at made
      cases made
  · rintro ⟨fit, time, read⟩
    have fit' : (Row.mk time values).values.length = t.seriesCount := fit
    obtain ⟨u, made, -⟩ := push_of_fit fit'
    refine ⟨u, ?_⟩
    rw [addRow_of_fit fit, read]
    exact made

/-- Two rows are refused, for their width and for their timestamps, and a third is accepted. -/
theorem extremes_obtained :
    (Origin.vectors extremes.columnar).table = .ok extremes
      ∧ ∀ time, (extremes.after [.text "never" [0], .text "never" [0, 0],
          .row ⟨time, [0, 0]⟩]).rows = extremes.rows ++ [⟨time, [0, 0]⟩] := by
  have made : (Origin.vectors extremes.columnar).table = .ok extremes :=
    Columnar.table_columnar extremes
  refine ⟨made, fun time => ?_⟩
  obtain ⟨-, grown⟩ := tables_obtained.2.2.1 _ _ made
    [.text "never" [0], .text "never" [0, 0], .row ⟨time, [0, 0]⟩]
  exact grown.rows

end TimeSeries

end UsageReport.Table
