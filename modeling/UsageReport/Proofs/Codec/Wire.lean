import Mathlib
import UsageReport.Codec.Wire

/-! A format is exact where it accepts what it writes and nothing else. Numbers are exact, and pairs,
texts and lists of exact formats are exact up to the memory limit. -/

namespace UsageReport.Codec

theorem split?_eq_some_iff {count : Nat} {bytes first rest : List UInt8} :
    split? count bytes = some (first, rest) ↔ bytes = first ++ rest ∧ first.length = count := by
  induction count generalizing bytes first with
  | zero =>
    simp only [split?, Option.some.injEq, Prod.mk.injEq, List.length_eq_zero_iff]
    constructor
    · rintro ⟨rfl, rfl⟩
      exact ⟨rfl, rfl⟩
    · rintro ⟨rfl, rfl⟩
      exact ⟨rfl, rfl⟩
  | succ count ih =>
    cases bytes with
    | nil =>
      simp only [split?, reduceCtorEq, false_iff]
      rintro ⟨none, long⟩
      have := congrArg List.length none
      rw [List.length_nil, List.length_append] at this
      omega
    | cons byte bytes =>
      simp only [split?, Option.map_eq_some_iff, Prod.exists, Prod.mk.injEq]
      constructor
      · rintro ⟨tail, more, found, rfl, rfl⟩
        obtain ⟨rfl, long⟩ := ih.1 found
        exact ⟨rfl, congrArg (· + 1) long⟩
      · rintro ⟨whole, long⟩
        cases first with
        | nil => simp at long
        | cons head tail =>
          rw [List.cons_append, List.cons.injEq] at whole
          obtain ⟨rfl, rfl⟩ := whole
          exact ⟨tail, rest, ih.2 ⟨rfl, Nat.succ.inj long⟩, rfl, rfl⟩

/-! ### Numbers -/

theorem littleEndian_succ (count n : Nat) :
    littleEndian (count + 1) n = UInt8.ofNat n :: littleEndian count (n / 256) := by
  have step (i : Nat) : n >>> (8 * (i + 1)) = (n / 256) >>> (8 * i) := by
    rw [Nat.mul_succ, Nat.add_comm, Nat.shiftRight_add, Nat.shiftRight_eq_div_pow n 8]
  simp [littleEndian, List.range_succ_eq_map, Function.comp_def, step]

theorem length_littleEndian (count n : Nat) : (littleEndian count n).length = count := by
  simp [littleEndian]

theorem bytesValue_littleEndian (count n : Nat) :
    bytesValue (littleEndian count n) = n % 256 ^ count := by
  induction count generalizing n with
  | zero => rw [Nat.pow_zero, Nat.mod_one]; rfl
  | succ count ih =>
    have low : (UInt8.ofNat n).toNat = n % 256 := UInt8.toNat_ofNat'
    rw [littleEndian_succ, bytesValue, ih, low, Nat.pow_succ', Nat.mod_mul]

theorem littleEndian_bytesValue (bytes : List UInt8) :
    littleEndian bytes.length (bytesValue bytes) = bytes := by
  induction bytes with
  | nil => rfl
  | cons byte bytes ih =>
    have small := byte.toNat_lt
    have low : (byte.toNat + 256 * bytesValue bytes) % 256 = byte.toNat := by omega
    have high : (byte.toNat + 256 * bytesValue bytes) / 256 = bytesValue bytes := by omega
    have first : UInt8.ofNat (byte.toNat + 256 * bytesValue bytes) = byte := by
      rw [← UInt8.toNat_inj, UInt8.toNat_ofNat', low]
    rw [List.length_cons, littleEndian_succ, bytesValue, first, high, ih]

theorem bytesValue_lt (bytes : List UInt8) : bytesValue bytes < 256 ^ bytes.length := by
  induction bytes with
  | nil => decide
  | cons byte bytes ih =>
    have small := byte.toNat_lt
    rw [bytesValue, List.length_cons, Nat.pow_succ']
    omega

/-! ### Texts -/

theorem text?_eq_some_iff {bytes : List UInt8} {s : String} :
    text? bytes = some s ↔ bytes = textBytes s := by
  unfold text? textBytes String.fromUTF8?
  constructor
  · intro read
    split at read
    · cases read
      rfl
    · cases read
  · rintro rfl
    rw [Array.toArray_toList, String.toUTF8_eq_toByteArray, dif_pos s.isValidUTF8]
    rfl

namespace Format

variable {α β : Type}

/-- Reading gives a value exactly where the bytes start with the value as it is written, and the
value is one of those that fit. -/
def Exact (format : Format α) (Fits : α → Prop) : Prop :=
  ∀ bytes value rest,
    format.get? bytes = some (value, rest) ↔ bytes = format.put value ++ rest ∧ Fits value

section
variable {format : Format α} {Fits : α → Prop}

theorem Exact.get?_put (exact : format.Exact Fits) {value : α} (fits : Fits value)
    (rest : List UInt8) : format.get? (format.put value ++ rest) = some (value, rest) :=
  (exact _ _ _).2 ⟨rfl, fits⟩

theorem exact_number (count : Nat) : (number count).Exact (· < 256 ^ count) := by
  intro bytes value rest
  simp only [number, Option.map_eq_some_iff, Prod.exists, Prod.mk.injEq]
  constructor
  · rintro ⟨first, tail, found, rfl, rfl⟩
    obtain ⟨rfl, rfl⟩ := split?_eq_some_iff.1 found
    exact ⟨by rw [littleEndian_bytesValue], bytesValue_lt first⟩
  · rintro ⟨rfl, small⟩
    refine ⟨littleEndian count value, rest, ?_, ?_, rfl⟩
    · exact split?_eq_some_iff.2 ⟨rfl, length_littleEndian count value⟩
    · rw [bytesValue_littleEndian, Nat.mod_eq_of_lt small]

/-- Another type of values that are written alike, one for each value that fits. -/
theorem Exact.map (exact : format.Exact Fits) {read : α → β} {write : β → α} {Fits' : β → Prop}
    (there : ∀ a, Fits a → write (read a) = a ∧ Fits' (read a))
    (back : ∀ b, Fits' b → read (write b) = b ∧ Fits (write b)) :
    (format.map read write).Exact Fits' := by
  intro bytes value rest
  simp only [Format.map, Option.map_eq_some_iff, Prod.exists, Prod.mk.injEq]
  constructor
  · rintro ⟨a, tail, found, rfl, rfl⟩
    obtain ⟨rfl, fits⟩ := (exact _ _ _).1 found
    rw [(there a fits).1]
    exact ⟨rfl, (there a fits).2⟩
  · rintro ⟨rfl, fits⟩
    exact ⟨write value, rest, exact.get?_put (back value fits).2 rest, (back value fits).1, rfl⟩

theorem exact_int64 : int64.Exact fun _ => True := by
  refine (exact_number 8).map (fun n small => ⟨?_, trivial⟩) (fun x _ => ⟨?_, x.toUInt64.toNat_lt⟩)
  · rw [UInt64.toUInt64_toInt64]
    exact UInt64.toNat_ofNat_of_lt' small
  · rw [UInt64.ofNat_toNat, Int64.toInt64_toUInt64]

theorem exact_word32 : word32.Exact fun _ => True := by
  refine (exact_number 4).map (fun n small => ⟨?_, trivial⟩) (fun x _ => ⟨?_, x.toNat_lt⟩)
  · exact UInt32.toNat_ofNat_of_lt' small
  · exact UInt32.ofNat_toNat

theorem exact_real : real.Exact fun _ => True := by
  refine (exact_number 8).map (fun n small => ⟨?_, trivial⟩) (fun x _ => ⟨?_, x.bits.toNat_lt⟩)
  · exact UInt64.toNat_ofNat_of_lt' small
  · rw [UInt64.ofNat_toNat]

theorem Exact.pair {first : Format α} {second : Format β} {FitsFirst : α → Prop}
    {FitsSecond : β → Prop} (exactFirst : first.Exact FitsFirst)
    (exactSecond : second.Exact FitsSecond) :
    (first.pair second).Exact fun value => FitsFirst value.1 ∧ FitsSecond value.2 := by
  rintro bytes ⟨a, b⟩ rest
  simp only [Format.pair, Option.bind_eq_bind, Option.bind_eq_some_iff, Option.pure_def,
    Option.some.injEq, Prod.exists, Prod.mk.injEq]
  constructor
  · rintro ⟨a, middle, foundFirst, b, tail, foundSecond, ⟨rfl, rfl⟩, rfl⟩
    obtain ⟨rfl, fitsFirst⟩ := (exactFirst _ _ _).1 foundFirst
    obtain ⟨rfl, fitsSecond⟩ := (exactSecond _ _ _).1 foundSecond
    exact ⟨(List.append_assoc _ _ _).symm, fitsFirst, fitsSecond⟩
  · rintro ⟨rfl, fitsFirst, fitsSecond⟩
    rw [List.append_assoc]
    exact ⟨a, _, exactFirst.get?_put fitsFirst _, b, _, exactSecond.get?_put fitsSecond _,
      ⟨rfl, rfl⟩, rfl⟩

/-- Texts of at most as many bytes as the memory limit. -/
theorem exact_text : text.Exact fun s => (textBytes s).length ≤ memoryLimit := by
  intro bytes s rest
  simp only [text, Option.bind_eq_bind, Option.bind_eq_some_iff, Prod.exists]
  constructor
  · rintro ⟨count, middle, foundCount, found⟩
    obtain ⟨rfl, -⟩ := (exact_number 8 _ _ _).1 foundCount
    by_cases large : memoryLimit < count
    · simp [large] at found
    · simp only [if_neg large, Option.bind_eq_some_iff, Option.map_eq_some_iff, Prod.exists,
        Prod.mk.injEq] at found
      obtain ⟨first, tail, foundFirst, s, read, rfl, rfl⟩ := found
      obtain ⟨rfl, rfl⟩ := split?_eq_some_iff.1 foundFirst
      obtain rfl := text?_eq_some_iff.1 read
      exact ⟨(List.append_assoc _ _ _).symm, Nat.le_of_not_lt large⟩
  · rintro ⟨rfl, fits⟩
    have small : (textBytes s).length < 256 ^ 8 :=
      Nat.lt_of_le_of_lt fits (by decide)
    refine ⟨(textBytes s).length, textBytes s ++ rest, ?_, ?_⟩
    · rw [List.append_assoc]
      exact (exact_number 8).get?_put small _
    · rw [if_neg (Nat.not_lt.2 fits)]
      simp only [Option.bind_eq_some_iff, Option.map_eq_some_iff, Prod.exists, Prod.mk.injEq]
      exact ⟨textBytes s, rest, split?_eq_some_iff.2 ⟨rfl, rfl⟩, s, text?_eq_some_iff.2 rfl, rfl, rfl⟩

/-- Values in a row are read one by one. -/
theorem Exact.many?_eq_some_iff (exact : format.Exact Fits) {count : Nat} {bytes : List UInt8}
    {values : List α} {rest : List UInt8} :
    format.many? count bytes = some (values, rest)
      ↔ bytes = values.flatMap format.put ++ rest ∧ values.length = count ∧ ∀ v ∈ values, Fits v := by
  induction count generalizing bytes values with
  | zero =>
    simp only [many?, Option.some.injEq, Prod.mk.injEq, List.length_eq_zero_iff]
    constructor
    · rintro ⟨rfl, rfl⟩
      exact ⟨rfl, rfl, by simp⟩
    · rintro ⟨rfl, rfl, -⟩
      exact ⟨rfl, rfl⟩
  | succ count ih =>
    simp only [many?, Option.bind_eq_bind, Option.bind_eq_some_iff, Option.pure_def,
      Option.some.injEq, Prod.exists, Prod.mk.injEq]
    constructor
    · rintro ⟨value, middle, foundValue, tail, more, foundTail, rfl, rfl⟩
      obtain ⟨rfl, fits⟩ := (exact _ _ _).1 foundValue
      obtain ⟨rfl, rfl, fitsTail⟩ := ih.1 foundTail
      refine ⟨?_, rfl, ?_⟩
      · rw [List.flatMap_cons, List.append_assoc]
      · exact List.forall_mem_cons.2 ⟨fits, fitsTail⟩
    · rintro ⟨rfl, long, fits⟩
      cases values with
      | nil => simp at long
      | cons value tail =>
        obtain ⟨fits, fitsTail⟩ := List.forall_mem_cons.1 fits
        refine ⟨value, tail.flatMap format.put ++ rest, ?_, tail, rest, ?_, rfl, rfl⟩
        · rw [List.flatMap_cons, List.append_assoc]
          exact exact.get?_put fits _
        · exact ih.2 ⟨rfl, Nat.succ.inj long, fitsTail⟩

/-- Lists that take no more memory than the limit. -/
theorem Exact.list (exact : format.Exact Fits) (sized : 0 < format.footprint) :
    format.list.Exact fun values =>
      values.length * format.footprint ≤ memoryLimit ∧ ∀ v ∈ values, Fits v := by
  intro bytes values rest
  simp only [Format.list, Option.bind_eq_bind, Option.bind_eq_some_iff, Prod.exists]
  constructor
  · rintro ⟨count, middle, foundCount, found⟩
    obtain ⟨rfl, -⟩ := (exact_number 8 _ _ _).1 foundCount
    by_cases large : memoryLimit < count * format.footprint
    · simp [large] at found
    · rw [if_neg large] at found
      obtain ⟨rfl, rfl, fits⟩ := exact.many?_eq_some_iff.1 found
      exact ⟨(List.append_assoc _ _ _).symm, Nat.le_of_not_lt large, fits⟩
  · rintro ⟨rfl, limit, fits⟩
    have small : values.length < 256 ^ 8 :=
      calc values.length ≤ values.length * format.footprint := Nat.le_mul_of_pos_right _ sized
        _ ≤ memoryLimit := limit
        _ < 256 ^ 8 := by decide
    refine ⟨values.length, values.flatMap format.put ++ rest, ?_, ?_⟩
    · rw [List.append_assoc]
      exact (exact_number 8).get?_put small _
    · rw [if_neg (Nat.not_lt.2 limit)]
      exact exact.many?_eq_some_iff.2 ⟨rfl, rfl, fits⟩

end

end Format

end UsageReport.Codec
