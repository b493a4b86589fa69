import Mathlib
import UsageReport.Proofs.Codec.Separation
import UsageReport.Proofs.Table.Compact

/-! The bytes behind the compression of a table: a version and the vectors of the table, each behind
its length. A reader takes exactly these bytes, whatever stands behind them, and gives up on all
others. -/

namespace UsageReport.Table

open UsageReport.Codec (Format lengthLimit littleEndian textBytes)

/-! ### The layout of the bytes -/

/-- A list: the number of its items in eight bytes, the low one first, and its items. -/
def listBytes {α : Type} (item : α → List UInt8) (items : List α) : List UInt8 :=
  littleEndian 8 items.length ++ items.flatMap item

/-- A text in UTF-8 behind the number of its bytes. -/
def stringBytes (s : String) : List UInt8 := littleEndian 8 (textBytes s).length ++ textBytes s

/-- The vectors of a table in their order. A real is written as its bit pattern. -/
def Columnar.payload (c : Columnar) : List UInt8 :=
  listBytes stringBytes c.columnNames ++ listBytes stringBytes c.columnUnits
    ++ listBytes (fun n => littleEndian 8 n.toUInt64.toNat) c.seconds
    ++ listBytes (fun n => littleEndian 4 n.toNat) c.nanos
    ++ listBytes (listBytes fun x => littleEndian 8 x.bits.toNat) c.series

theorem Columnar.blob_eq (c : Columnar) : c.blob = 1 :: c.payload := by
  have put : format.put c = c.payload := by
    simp only [payload, List.append_assoc]
    rfl
  rw [blob, put]
  rfl

/-! ### Bytes of different tables -/

/-- All lengths fit the eight bytes that they are written in. -/
structure Columnar.Sized (c : Columnar) : Prop where
  names : c.columnNames.length < lengthLimit
    ∧ ∀ s ∈ c.columnNames, (textBytes s).length < lengthLimit
  units : c.columnUnits.length < lengthLimit
    ∧ ∀ s ∈ c.columnUnits, (textBytes s).length < lengthLimit
  seconds : c.seconds.length < lengthLimit
  nanos : c.nanos.length < lengthLimit
  series : c.series.length < lengthLimit ∧ ∀ vector ∈ c.series, vector.length < lengthLimit

theorem Columnar.separates_format : format.Separates Sized := by
  have texts := Format.separates_text.list
  have reals := Format.exact_real.separates.list.list
  have vectors := texts.pair (texts.pair (Format.exact_int64.separates.list.pair
    (Format.exact_word32.separates.list.pair reals)))
  refine vectors.map (fun c sized => ?_) fun c d same => ?_
  · refine ⟨sized.names, sized.units, ⟨sized.seconds, ?_⟩, ⟨sized.nanos, ?_⟩, sized.series.1, ?_⟩
    · exact fun _ _ => trivial
    · exact fun _ _ => trivial
    · exact fun vector inside => ⟨sized.series.2 vector inside, fun _ _ => trivial⟩
  · cases c
    cases d
    simp only [Prod.mk.injEq] at same
    obtain ⟨rfl, rfl, rfl, rfl, rfl⟩ := same
    rfl

/-- The bytes of one table are never the beginning of another's. -/
theorem Columnar.eq_of_blob_append {c d : Columnar} (sized : c.Sized) (sized' : d.Sized)
    {r s : List UInt8} (same : c.blob ++ r = d.blob ++ s) : c = d ∧ r = s := by
  rw [blob, blob, List.cons_append, List.cons_append, List.cons.injEq] at same
  exact separates_format c d r s sized sized' same.2

theorem Columnar.WithinLimit.sized {c : Columnar} (fits : c.WithinLimit) : c.Sized := by
  have texts {texts : List String} (fits : TextsFit texts) :
      texts.length < lengthLimit ∧ ∀ s ∈ texts, (textBytes s).length < lengthLimit := by
    obtain ⟨count, each⟩ := fits
    simp only [Format.containerFootprint, Codec.memoryLimit, lengthLimit] at count each ⊢
    refine ⟨by omega, fun s inside => ?_⟩
    have := each s inside
    omega
  obtain ⟨names, units, seconds, nanos, series, values⟩ := fits
  simp only [Format.containerFootprint, Codec.memoryLimit] at seconds nanos series values
  refine ⟨texts names, texts units, ?_, ?_, ?_, fun vector inside => ?_⟩
  all_goals simp only [lengthLimit]
  · omega
  · omega
  · omega
  · have := values vector inside
    omega

/-! ### Reading -/

theorem Columnar.ofBlob_eq_ok_iff {b : List UInt8} {c : Columnar} :
    ofBlob b = .ok c ↔ c.WithinLimit ∧ ∃ rest, b = c.blob ++ rest := by
  constructor
  · intro read
    unfold ofBlob at read
    split at read
    · cases read
    · split at read
      · cases read
      · rename_i version payload known
        split at read
        · rename_i c' rest found
          cases read
          obtain ⟨rfl, fits⟩ := (exact_format _ _ _).1 found
          rw [not_ne_iff] at known
          exact ⟨fits, rest, by rw [known]; rfl⟩
        · cases read
  · rintro ⟨fits, rest, rfl⟩
    simp only [ofBlob, blob, List.cons_append, exact_format.get?_put fits rest, ne_eq,
      not_true_eq_false, if_false]

theorem Columnar.ofBlob_of_version {version : UInt8} (unknown : version ≠ 1)
    (rest : List UInt8) : ofBlob (version :: rest) = .error (.version version) :=
  if_pos unknown

/-- A part of the bytes of a table from their front is refused where it is not all of them. -/
theorem Columnar.ofBlob_of_prefix {c : Columnar} (sized : c.Sized) {b : List UInt8}
    (front : b <+: c.blob) (short : b ≠ c.blob) :
    ofBlob b = .error (if b = [] then .version 0 else .payload) := by
  obtain ⟨missing, whole⟩ := front
  cases b with
  | nil => rfl
  | cons version bytes =>
    have known : version = formatVersion := (List.cons.inj whole).1
    -- What is read here has bytes at the front of those of `c`, so it is `c` and none is missing.
    have unread : format.get? bytes = none := by
      rw [Option.eq_none_iff_forall_ne_some]
      rintro ⟨d, rest⟩ found
      obtain ⟨rfl, fits⟩ := (exact_format _ _ _).1 found
      have same : d.blob ++ (rest ++ missing) = c.blob ++ [] := by
        rw [List.append_nil, ← whole, known]
        simp [blob]
      obtain ⟨rfl, none⟩ := eq_of_blob_append fits.sized sized same
      rw [(List.append_eq_nil_iff.1 none).1, List.append_nil, known] at short
      exact short rfl
    simp [ofBlob, known, unread]

/-- A reader gives a table exactly where the bytes start with the version one and the vectors of the
table, none of them over the limit. So no table's bytes are the beginning of another's, and no part
of them from their front is read short of the whole. No bytes at all count as version zero, and any
other version is named as it is. -/
theorem Columnar.ofBlob_exact :
    (∀ b c, ofBlob b = .ok c ↔ c.WithinLimit ∧ ∃ rest, b = 1 :: c.payload ++ rest)
    ∧ (∀ c : Columnar, c.blob = 1 :: c.payload)
    ∧ (∀ c d : Columnar, c.Sized → d.Sized → c.blob <+: d.blob → c = d)
    ∧ (∀ (c : Columnar) b, c.Sized → b <+: c.blob → b ≠ c.blob →
      ofBlob b = .error (if b = [] then .version 0 else .payload))
    ∧ ofBlob [] = .error (.version 0)
    ∧ ∀ version rest, version ≠ 1 → ofBlob (version :: rest) = .error (.version version) := by
  refine ⟨fun b c => ?_, blob_eq, ?_, ?_, rfl, ?_⟩
  · rw [ofBlob_eq_ok_iff, blob_eq]
  · rintro c d sized sized' ⟨rest, whole⟩
    rw [← List.append_nil d.blob] at whole
    exact (eq_of_blob_append sized sized' whole).1
  · exact fun c b sized front short => ofBlob_of_prefix sized front short
  · exact fun version rest unknown => ofBlob_of_version unknown rest

/-- The bytes of a table with one byte behind them, the first 40 of them, and another version. -/
theorem Columnar.ofBlob_extremes :
    ofBlob (1 :: extremes.columnar.payload ++ [7]) = .ok extremes.columnar
    ∧ ofBlob (extremes.columnar.blob.take 40) = .error .payload
    ∧ ofBlob [2, 0] = .error (.version 2) := by
  obtain ⟨accepted, -, -, refused, -, unknown⟩ := ofBlob_exact
  have fits : extremes.columnar.WithinLimit := by
    constructor <;> decide
  have short : extremes.columnar.blob.take 40 ≠ extremes.columnar.blob := by decide
  exact ⟨(accepted _ _).2 ⟨fits, [7], rfl⟩,
    refused _ _ fits.sized (List.take_prefix 40 _) short, unknown 2 [0] (by decide)⟩

end UsageReport.Table
