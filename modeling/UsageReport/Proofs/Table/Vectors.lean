import Mathlib
import UsageReport.Proofs.Table.Shape

/-! Which vectors make a table, and which vectors that table has. The table gives back the vectors it
was made of, all but one part of them: without a row the number of its series follows from its
columns alone. -/

namespace UsageReport.Table

open UsageReport.Time (Instant)

/-! ### Timestamps -/

theorem parts_of_ofEpoch? {seconds : Int} {nanos : Nat} {t : Instant}
    (read : Instant.ofEpoch? seconds nanos = some t) :
    t.epochSeconds = seconds ∧ t.nanos = nanos := by
  unfold Instant.ofEpoch? Instant.ofParts? at read
  split at read
  next =>
    cases read
    refine ⟨?_, rfl⟩
    show 86400 * (seconds / 86400) + (seconds % 86400).toNat = seconds
    omega
  next => cases read

namespace Columnar

theorem stamps_of_instants {stamps : List (Int64 × UInt32)} {times : List Instant}
    (read : instants stamps = .ok times) :
    (times.map fun t => Int64.ofInt t.epochSeconds) = stamps.map Prod.fst
      ∧ (times.map fun t => UInt32.ofNat t.nanos) = stamps.map Prod.snd := by
  induction stamps generalizing times with
  | nil =>
    cases read
    exact ⟨rfl, rfl⟩
  | cons stamp stamps ih =>
    obtain ⟨seconds, nanos⟩ := stamp
    rw [instants] at read
    split at read
    next => cases read
    next t first =>
      cases rest : instants stamps with
      | error fault =>
        rw [rest] at read
        cases read
      | ok later =>
        rw [rest] at read
        cases read
        obtain ⟨seconds', nanos'⟩ := parts_of_ofEpoch? first
        obtain ⟨ih, ih'⟩ := ih rest
        simp only [List.map_cons, seconds', nanos', ih, ih', Int64.ofInt_toInt, UInt32.ofNat_toNat,
          and_self]

/-! ### Vectors as rows -/

theorem map_time_rowsOf {α : Type} (part : Instant → α) (times : List Instant)
    (vectors : List (List Number)) :
    ((rowsOf times vectors).map fun row => part row.time) = times.map part := by
  induction times generalizing vectors with
  | nil => rfl
  | cons t times ih => rw [rowsOf, List.map_cons, ih, List.map_cons]

theorem getElem?_heads {vectors : List (List Number)} (filled : ∀ vector ∈ vectors, vector ≠ [])
    (index : Nat) : (vectors.filterMap List.head?)[index]? = vectors[index]?.bind List.head? := by
  induction vectors generalizing index with
  | nil => rfl
  | cons vector vectors ih =>
    obtain ⟨first, rest⟩ := List.forall_mem_cons.1 filled
    rw [List.filterMap_cons_some (List.head?_eq_some_head first)]
    cases index with
    | zero => simp [List.head?_eq_some_head first]
    | succ index => simpa using ih rest index

/-- A column of the rows of vectors is the vector at its place. -/
theorem column_rowsOf {times : List Instant} {vectors : List (List Number)}
    (even : ∀ vector ∈ vectors, vector.length = times.length) {index : Nat} {vector : List Number}
    (there : vectors[index]? = some vector) :
    (rowsOf times vectors).filterMap (·.values[index]?) = vector := by
  induction times generalizing vectors vector with
  | nil =>
    have none := even vector (List.mem_of_getElem? there)
    exact (List.length_eq_zero_iff.1 none).symm
  | cons t times ih =>
    have filled : ∀ vector ∈ vectors, vector ≠ [] := by
      intro vector inside none
      have := even vector inside
      simp [none] at this
    obtain ⟨head, tail, rfl⟩ := List.exists_cons_of_ne_nil (filled _ (List.mem_of_getElem? there))
    have first : (vectors.filterMap List.head?)[index]? = some head := by
      rw [getElem?_heads filled, there]
      rfl
    have tails : ∀ vector ∈ vectors.map List.tail, vector.length = times.length := by
      intro vector inside
      obtain ⟨whole, inside', rfl⟩ := List.mem_map.1 inside
      rw [List.length_tail, even whole inside', List.length_cons, Nat.add_sub_cancel]
    have rest : (vectors.map List.tail)[index]? = some tail := by
      rw [List.getElem?_map, there]
      rfl
    simp only [rowsOf, List.filterMap_cons, first, ih tails rest]

theorem columns_rowsOf {times : List Instant} {vectors : List (List Number)}
    (even : ∀ vector ∈ vectors, vector.length = times.length) :
    ((List.range vectors.length).map fun index =>
      (rowsOf times vectors).filterMap (·.values[index]?)) = vectors := by
  apply List.ext_getElem?
  intro index
  rw [List.getElem?_map]
  cases there : vectors[index]? with
  | none =>
    rw [List.getElem?_eq_none_iff] at there
    rw [List.getElem?_eq_none (by simpa using there)]
    rfl
  | some vector =>
    have small := (List.getElem?_eq_some_iff.1 there).1
    rw [List.getElem?_range small, Option.map_some, column_rowsOf even there]

/-! ### Vectors and their table -/

variable {c : Columnar} {t : TimeSeries}

/-- Without a row there is one empty vector for each series, whatever the vectors were. -/
def settled (c : Columnar) : Columnar :=
  if c.seconds = [] then { c with series := List.replicate (c.columnNames.length - 1) [] } else c

theorem settled_of_no_rows (none : c.seconds = []) :
    c.settled = { c with series := List.replicate (c.columnNames.length - 1) [] } := if_pos none

theorem settled_eq (c : Columnar) : c.settled = { c with series := c.settled.series } := by
  unfold settled
  split <;> rfl

theorem settled_of_rows (some : c.seconds ≠ []) : c.settled = c := if_neg some

theorem length_series (names : t.columnNames = c.columnNames) :
    t.series.length = c.columnNames.length - 1 := by
  rw [← names, TimeSeries.length_columnNames, Nat.add_sub_cancel]

/-- With a row there are as many series as there are columns for. -/
theorem width_of_rows {times : List Instant} (some : times ≠ [])
    (even : ∀ vector ∈ c.series, vector.length = times.length)
    (rows : t.rows = rowsOf times c.series) : t.series.length = c.series.length := by
  obtain ⟨time, times, rfl⟩ := List.exists_cons_of_ne_nil some
  have filled : ∀ vector ∈ c.series, vector.head?.isSome := by
    intro vector inside
    rw [List.isSome_head?, ← List.length_pos_iff, even vector inside]
    exact Nat.succ_pos _
  have first := t.widths ⟨time, c.series.filterMap List.head?⟩ (by rw [rows, rowsOf]; simp)
  rw [← first, List.filterMap_length_eq_length]
  exact filled

theorem columnar_of_table (made : c.table = .ok t) : t.columnar = c.settled := by
  obtain ⟨even, names, units, times, read, rows⟩ := rows_of_table made
  have count : times.length = c.seconds.length := by
    rw [length_of_instants read, List.length_zip, even.nanos, Nat.min_self]
  have fits : ∀ vector ∈ c.series, vector.length = times.length := by
    intro vector inside
    rw [even.series vector inside, count]
  obtain ⟨seconds, nanos⟩ := stamps_of_instants read
  rw [List.map_fst_zip even.nanos.ge] at seconds
  rw [List.map_snd_zip even.nanos.le] at nanos
  have series : (List.range t.series.length).map t.column = c.settled.series := by
    unfold TimeSeries.column
    rw [rows]
    by_cases none : c.seconds = []
    · rw [none, List.length_nil, List.length_eq_zero_iff] at count
      simp [settled_of_no_rows none, count, rowsOf, length_series names]
    · have some : times ≠ [] := by
        rintro rfl
        exact none (List.length_eq_zero_iff.1 count.symm)
      rw [settled_of_rows none, width_of_rows some fits rows, columns_rowsOf fits]
  rw [settled_eq, ← series, ← names, ← units, ← seconds, ← nanos,
    ← map_time_rowsOf _ times c.series, ← map_time_rowsOf _ times c.series, ← rows]
  rfl

theorem even_of_columnar (columnar : t.columnar = c.settled)
    (series : ∀ vector ∈ c.series, vector.length = c.seconds.length) : c.Even := by
  have even : t.columnar.nanos.length = t.columnar.seconds.length := by
    rw [TimeSeries.columnar, List.length_map, List.length_map]
  rw [columnar, settled_eq] at even
  exact ⟨even, series⟩

theorem table_eq_ok_iff : c.table = .ok t
    ↔ t.columnar = c.settled ∧ ∀ vector ∈ c.series, vector.length = c.seconds.length := by
  constructor
  · intro made
    exact ⟨columnar_of_table made, (rows_of_table made).1.series⟩
  · rintro ⟨columnar, series⟩
    have made := table_columnar t
    have even := even_of_columnar columnar series
    rw [columnar] at made
    by_cases none : c.seconds = []
    · have even' : c.settled.Even := by
        rw [settled_of_no_rows none]
        exact ⟨even.nanos, by simp [none]⟩
      rw [table_of_even even'] at made
      rw [table_of_even even, ← made, settled_eq]
      simp only [none, List.zip_nil_left, instants, ok_bind, rowsOf]
    · rwa [settled_of_rows none] at made

theorem settled_of_count (series : ∀ vector ∈ c.series, vector.length = c.seconds.length)
    (count : c.series.length + 1 = c.columnNames.length) : c.settled = c := by
  by_cases none : c.seconds = []
  · have idle : c.series = List.replicate (c.columnNames.length - 1) [] := by
      rw [List.eq_replicate_iff]
      refine ⟨by omega, fun vector inside => ?_⟩
      rw [← List.length_eq_zero_iff, series vector inside, none, List.length_nil]
    rw [settled_of_no_rows none, ← idle]
  · exact settled_of_rows none

theorem length_series_columnar (t : TimeSeries) :
    t.columnar.series.length + 1 = t.columnar.columnNames.length := by
  rw [TimeSeries.columnar, List.length_map, List.length_range, TimeSeries.length_columnNames]

/-- Vectors make the table whose vectors they are, and give it with every cell. Only where there is
no row may the number of series be any: then the table has one for each of the columns, and the
vectors are its own if and only if they had as many. -/
theorem vectors_of_table (c : Columnar) (t : TimeSeries) :
    (c.table = .ok t
      ↔ t.columnar = c.settled ∧ ∀ vector ∈ c.series, vector.length = c.seconds.length)
    ∧ (c.table = .ok t → (c.seconds ≠ [] → t.columnar = c)
      ∧ (t.columnar = c ↔ c.series.length + 1 = c.columnNames.length)) := by
  refine ⟨table_eq_ok_iff, fun made => ?_⟩
  obtain ⟨columnar, series⟩ := table_eq_ok_iff.1 made
  refine ⟨fun some => columnar.trans (settled_of_rows some), ?_, fun count => ?_⟩
  · rintro rfl
    exact length_series_columnar t
  · exact columnar.trans (settled_of_count series count)

/-- Two columns, three empty series and no row. -/
def idleVectors : Columnar := ⟨["Timestamp", "a"], ["", ""], [], [], [[], [], []]⟩

/-- The table of these vectors has one series, and so have its vectors. -/
theorem vectors_of_table_idle : ∃ t, idleVectors.table = .ok t
    ∧ t.columnar = { idleVectors with series := [[]] } := by
  obtain ⟨t, one⟩ : ∃ t : TimeSeries, t.columnar = { idleVectors with series := [[]] } :=
    ⟨⟨"", [⟨"a", ""⟩], [], by simp, by simp⟩, rfl⟩
  exact ⟨t, (vectors_of_table idleVectors t).1.2 ⟨one, by decide⟩, one⟩

theorem table_of_idleVectors : ∃ t, idleVectors.table = .ok t ∧ t.columnar ≠ idleVectors := by
  refine ⟨⟨"", [⟨"a", ""⟩], [], by simp, by simp⟩, rfl, fun same => ?_⟩
  have count := congrArg (fun c : Columnar => c.series.length) same
  simp [idleVectors, TimeSeries.columnar] at count

end Columnar

end UsageReport.Table
