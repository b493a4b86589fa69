import Mathlib
import UsageReport.Proofs.Codec.Base64
import UsageReport.Proofs.Codec.Container
import UsageReport.Proofs.Codec.Wire
import UsageReport.Proofs.Table.Build
import UsageReport.Table.Columnar

/-! The compact form of a table holds all of it: reading the form gives the table back with its
names, units, timestamps and cells. Each layer of the form is read back on its own, the text, the
bytes, the vectors and the rows. -/

namespace UsageReport.Table

open UsageReport.Codec (Format memoryLimit textBytes)
open UsageReport.Time (Instant firstDay lastDay)

/-! ### Bytes as text -/

theorem utf8Encode_ascii (bytes : List UInt8) (ascii : ∀ b ∈ bytes, b.toNat < 128) :
    (bytes.map fun b => Char.ofNat b.toNat).utf8Encode = ⟨bytes.toArray⟩ := by
  induction bytes with
  | nil => rfl
  | cons b bytes ih =>
    have small : b.toNat < 128 := ascii b (by simp)
    have valid : b.toNat.isValidChar := .inl (by omega)
    have value : (Char.ofNat b.toNat).val.toNat = b.toNat := by
      rw [Char.ofNat, dif_pos valid]
      rfl
    have single : (Char.ofNat b.toNat).utf8Size = 1 := by
      rw [Char.utf8Size_eq_one_iff, UInt32.le_iff_toNat_le, value]
      exact Nat.le_of_lt_succ small
    have byte : (Char.ofNat b.toNat).val.toUInt8 = b := by
      rw [← UInt8.toNat_inj, UInt32.toNat_toUInt8, value]
      exact Nat.mod_eq_of_lt b.toNat_lt
    rw [List.map_cons, List.utf8Encode_cons, ih fun b inside => ascii b (List.mem_cons_of_mem _ inside),
      List.utf8Encode_singleton, String.utf8EncodeChar_eq_singleton single, byte]
    apply ByteArray.ext
    simp

theorem textBytes_ascii (bytes : List UInt8) (ascii : ∀ b ∈ bytes, b.toNat < 128) :
    textBytes (String.ofList (bytes.map fun b => Char.ofNat b.toNat)) = bytes := by
  rw [textBytes, String.toUTF8_eq_toByteArray, String.toByteArray_ofList,
    utf8Encode_ascii bytes ascii]

theorem dropWhile_isBlank {chars : List Char} (visible : ∀ c ∈ chars, Text.isBlank c = false) :
    chars.dropWhile Text.isBlank = chars := by
  cases chars with
  | nil => rfl
  | cons c chars => rw [List.dropWhile_cons, visible c (by simp), if_neg (by simp)]

/-- A text without blanks has none at its ends. -/
theorem trim_eq_self {chars : List Char} (visible : ∀ c ∈ chars, Text.isBlank c = false) :
    Text.trim chars = chars := by
  have backward : ∀ c ∈ chars.reverse, Text.isBlank c = false :=
    fun c inside => visible c (List.mem_reverse.1 inside)
  rw [Text.trim, Text.trimStart, dropWhile_isBlank visible, Text.trimEnd,
    dropWhile_isBlank backward, List.reverse_reverse]

theorem isBlank_visible : ∀ {n : Nat}, n < 127 → 33 ≤ n → Text.isBlank (Char.ofNat n) = false := by
  decide

/-! ### Vectors as bytes -/

/-- The texts take no more memory than a reader grants, together and each. -/
def TextsFit (texts : List String) : Prop :=
  texts.length * Format.containerFootprint ≤ memoryLimit
    ∧ ∀ s ∈ texts, (textBytes s).length ≤ memoryLimit

instance (texts : List String) : Decidable (TextsFit texts) := by unfold TextsFit; infer_instance

/-- No vector with a length before it takes more memory than a reader grants. -/
structure Columnar.WithinLimit (c : Columnar) : Prop where
  names : TextsFit c.columnNames
  units : TextsFit c.columnUnits
  seconds : c.seconds.length * 8 ≤ memoryLimit
  nanos : c.nanos.length * 4 ≤ memoryLimit
  series : c.series.length * Format.containerFootprint ≤ memoryLimit
  values : ∀ vector ∈ c.series, vector.length * 8 ≤ memoryLimit

/-- The vectors are read exactly where they are written and within the limit. -/
theorem Columnar.exact_format : Columnar.format.Exact Columnar.WithinLimit := by
  have texts := Format.exact_text.list (by decide)
  have reals := (Format.exact_real.list (by decide)).list (by decide)
  refine (texts.pair (texts.pair ((Format.exact_int64.list (by decide)).pair
    ((Format.exact_word32.list (by decide)).pair reals)))).map ?_ ?_
  · rintro ⟨names, units, seconds, nanos, series⟩ ⟨h1, h2, ⟨h3, -⟩, ⟨h4, -⟩, h5, h6⟩
    exact ⟨rfl, h1, h2, h3, h4, h5, fun vector inside => (h6 vector inside).1⟩
  · intro c fits
    refine ⟨rfl, fits.names, fits.units, ⟨fits.seconds, ?_⟩, ⟨fits.nanos, ?_⟩, fits.series, ?_⟩
    · exact fun _ _ => trivial
    · exact fun _ _ => trivial
    · exact fun vector inside => ⟨fits.values vector inside, fun _ _ => trivial⟩

theorem Columnar.ofBlob_blob {c : Columnar} (fits : c.WithinLimit) : ofBlob c.blob = .ok c := by
  have read := exact_format.get?_put fits []
  rw [List.append_nil] at read
  simp [ofBlob, blob, read]

/-- Any text is read that holds the bytes of the vectors, compressed in whatever way. -/
theorem Columnar.decode_eq_ok {c : Columnar} (fits : c.WithinLimit) {text : String}
    {compressed : List UInt8}
    (symbols : Codec.Base64.decode (textBytes (String.ofList (Text.trim text.toList)))
      = .ok compressed)
    (bytes : Codec.Zlib.decompress? compressed = some c.blob) : decode text = .ok c := by
  simp only [decode, symbols, Except.mapError, bind, Except.bind, bytes]
  exact ofBlob_blob fits

theorem Columnar.symbols_encode (c : Columnar) :
    Codec.Base64.decode (textBytes (String.ofList (Text.trim c.encode.toList)))
      = .ok (Codec.Zlib.compress c.blob) := by
  have visible : ∀ b ∈ Codec.Base64.encode (Codec.Zlib.compress c.blob),
      33 ≤ b.toNat ∧ b.toNat < 127 := fun b inside => Codec.Base64.visible_of_mem_encode inside
  have unblank : ∀ char ∈ (Codec.Base64.encode (Codec.Zlib.compress c.blob)).map
      (fun b => Char.ofNat b.toNat), Text.isBlank char = false := by
    intro char inside
    obtain ⟨b, member, rfl⟩ := List.mem_map.1 inside
    exact isBlank_visible (visible b member).2 (visible b member).1
  rw [encode, String.toList_ofList, trim_eq_self unblank, textBytes_ascii]
  · exact Codec.Base64.decode_encode _
  · exact fun b inside => Nat.lt_succ_of_lt (visible b inside).2

theorem Columnar.decompress?_compress (c : Columnar) :
    Codec.Zlib.decompress? (Codec.Zlib.compress c.blob) = some c.blob := by
  have read := Codec.Zlib.decompress?_compress_append c.blob []
  rwa [List.append_nil] at read

/-! ### Instants as seconds and nanoseconds -/

theorem epochSeconds_bounds (t : Instant) :
    -2 ^ 63 ≤ t.epochSeconds ∧ t.epochSeconds < 2 ^ 63 := by
  have first : firstDay = -96465292 := by decide
  have last : lastDay = 95026236 := by decide
  obtain ⟨⟨above, below⟩, second, -⟩ := t.parts
  rw [first] at above
  rw [last] at below
  unfold Instant.epochSeconds
  omega

theorem nanos_lt (t : Instant) : t.nanos < 2 ^ 32 := by
  obtain ⟨-, -, short | ⟨long, -⟩⟩ := t.parts <;> omega

/-- Instants are read back from their seconds and nanoseconds, leap seconds and years before 1970
included. -/
theorem instants_eq_ok (times : List Instant) :
    Columnar.instants ((times.map fun t => Int64.ofInt t.epochSeconds).zip
      (times.map fun t => UInt32.ofNat t.nanos)) = .ok times := by
  induction times with
  | nil => rfl
  | cons t times ih =>
    have seconds : (Int64.ofInt t.epochSeconds).toInt = t.epochSeconds :=
      Int64.toInt_ofInt_of_le (epochSeconds_bounds t).1 (epochSeconds_bounds t).2
    have nanos : (UInt32.ofNat t.nanos).toNat = t.nanos := UInt32.toNat_ofNat_of_lt' (nanos_lt t)
    simp only [List.map_cons, List.zip_cons_cons, Columnar.instants, seconds, nanos,
      Instant.ofEpoch?_epochSeconds, ih, Except.map]

/-! ### Rows and columns -/

theorem filterMap_getElem?_range {α : Type} (values : List α) :
    (List.range values.length).filterMap (values[·]?) = values := by
  induction values with
  | nil => rfl
  | cons value values ih =>
    rw [List.length_cons, List.range_succ_eq_map, List.filterMap_cons]
    simp [List.filterMap_map, ih]

/-- A column of rows that are wide enough has one value for each row. -/
theorem filterMap_getElem?_cons {row : Row} (rows : List Row) {index : Nat}
    (inside : index < row.values.length) :
    (row :: rows).filterMap (·.values[index]?)
      = row.values[index] :: rows.filterMap (·.values[index]?) := by
  simp only [List.filterMap_cons, List.getElem?_eq_getElem inside]

theorem heads_columns (row : Row) (rows : List Row) :
    ((List.range row.values.length).map fun index =>
        (row :: rows).filterMap (·.values[index]?)).filterMap List.head? = row.values := by
  have first : ∀ index ∈ List.range row.values.length,
      ((row :: rows).filterMap (·.values[index]?)).head? = row.values[index]? := by
    intro index inside
    have inside := List.mem_range.1 inside
    rw [filterMap_getElem?_cons rows inside, List.head?_cons, List.getElem?_eq_getElem inside]
  have split (columns : List (List Number)) :
      columns.filterMap List.head? = (columns.map List.head?).filterMap id := by
    rw [List.filterMap_map]
    rfl
  rw [split, List.map_map]
  refine (congrArg (List.filterMap id) (List.map_congr_left first)).trans ?_
  rw [List.filterMap_map]
  exact filterMap_getElem?_range row.values

theorem tails_columns (row : Row) (rows : List Row) :
    ((List.range row.values.length).map fun index =>
        (row :: rows).filterMap (·.values[index]?)).map List.tail
      = (List.range row.values.length).map fun index => rows.filterMap (·.values[index]?) := by
  rw [List.map_map]
  apply List.map_congr_left
  intro index inside
  rw [Function.comp_apply, filterMap_getElem?_cons rows (List.mem_range.1 inside), List.tail_cons]

/-- Rows of one width are rebuilt from their columns. -/
theorem rowsOf_columns (width : Nat) (rows : List Row)
    (widths : ∀ row ∈ rows, row.values.length = width) :
    Columnar.rowsOf (rows.map Row.time)
      ((List.range width).map fun index => rows.filterMap (·.values[index]?)) = rows := by
  induction rows with
  | nil => rfl
  | cons row rows ih =>
    obtain ⟨rfl, widths⟩ := List.forall_mem_cons.1 widths
    rw [List.map_cons, Columnar.rowsOf, heads_columns, tails_columns, ih widths]

/-- Every column of a table has one value for each row. -/
theorem TimeSeries.length_column (t : TimeSeries) {index : Nat} (inside : index < t.series.length) :
    (t.column index).length = t.rows.length := by
  have widths := t.widths
  unfold TimeSeries.column
  generalize t.rows = rows at widths
  induction rows with
  | nil => rfl
  | cons row rows ih =>
    obtain ⟨wide, widths⟩ := List.forall_mem_cons.1 widths
    rw [filterMap_getElem?_cons rows (wide ▸ inside), List.length_cons, List.length_cons, ih widths]

/-- The vectors of a table are those of the table and no other. -/
theorem Columnar.table_columnar (t : TimeSeries) : t.columnar.table = .ok t := by
  have lengths : ¬ (t.columnar.nanos.length ≠ t.columnar.seconds.length
      ∨ t.columnar.series.any (·.length ≠ t.columnar.seconds.length)) := by
    simp only [TimeSeries.columnar, List.length_map, ne_eq, not_true_eq_false, false_or,
      List.any_eq_true, List.mem_map, List.mem_range, decide_eq_true_eq]
    rintro ⟨_, ⟨index, inside, rfl⟩, other⟩
    exact other (t.length_column inside)
  have times : instants (t.columnar.seconds.zip t.columnar.nanos) = .ok (t.rows.map Row.time) := by
    have read := instants_eq_ok (t.rows.map Row.time)
    rwa [List.map_map, List.map_map] at read
  have rows : rowsOf (t.rows.map Row.time) t.columnar.series = t.rows :=
    rowsOf_columns t.series.length t.rows t.widths
  obtain ⟨empty, created, timeUnit, series, none⟩ := TimeSeries.create_eq_ok t.series_ne t.timeUnit
  have created : TimeSeries.create t.columnar.columnNames (some t.columnar.columnUnits)
      = .ok empty := created
  have fit : ∀ row ∈ t.rows, row.values.length = empty.series.length := by
    intro row inside
    rw [series, t.widths row inside]
  obtain ⟨u, extended, timeUnit', series', filled⟩ := TimeSeries.extend_eq_ok fit
  have whole : u = t := by
    refine TimeSeries.eq_of_parts (timeUnit'.trans timeUnit) (series'.trans series) ?_
    rw [filled, none, List.nil_append]
  unfold Columnar.table
  rw [if_neg lengths, times]
  simp only [bind, Except.bind]
  rw [rows, created]
  simp only [Except.mapError]
  rw [extended, whole]

/-! ### The compact form -/

/-- A table whose vectors keep to the limit is read back from its compact form, and from every other
text that holds the same bytes, however they are compressed. -/
theorem decodeCompact_encodeCompact (t : TimeSeries) (fits : t.columnar.WithinLimit) :
    TimeSeries.decodeCompact t.encodeCompact = .ok t
      ∧ ∀ text compressed,
        Codec.Base64.decode (textBytes (String.ofList (Text.trim text.toList))) = .ok compressed →
        Codec.Zlib.decompress? compressed = some t.columnar.blob →
          TimeSeries.decodeCompact text = .ok t := by
  have read (text : String) (compressed : List UInt8)
      (symbols : Codec.Base64.decode (textBytes (String.ofList (Text.trim text.toList)))
        = .ok compressed)
      (bytes : Codec.Zlib.decompress? compressed = some t.columnar.blob) :
      TimeSeries.decodeCompact text = .ok t := by
    rw [TimeSeries.decodeCompact, Columnar.decode_eq_ok fits symbols bytes]
    exact Columnar.table_columnar t
  exact ⟨read _ _ (Columnar.symbols_encode _) (Columnar.decompress?_compress _), read⟩

/-- A leap second of the year -44 and an instant of the year 20000, with a NaN and a negative
zero. -/
def extremes : TimeSeries where
  timeUnit := "UTC"
  series := [⟨"Träger", "%"⟩, ⟨"Träger", ""⟩]
  rows := [
    ⟨⟨-735463, 86399, 1999999999, by decide⟩, [⟨0xFFF8000000000001⟩, ⟨0x8000000000000000⟩]⟩,
    ⟨⟨6585442, 0, 1, by decide⟩, [⟨0⟩, ⟨0x7FF0000000000000⟩]⟩]
  series_ne := by simp
  widths := by decide

theorem decodeCompact_extremes : extremes.columnar.WithinLimit
    ∧ TimeSeries.decodeCompact extremes.encodeCompact = .ok extremes :=
  have fits : extremes.columnar.WithinLimit := by
    constructor <;> decide
  ⟨fits, (decodeCompact_encodeCompact extremes fits).1⟩

end UsageReport.Table
