import Mathlib
import UsageReport.Proofs.Number.Order

/-! The total order of numbers by their bits is the one that IEEE 754 describes by their values: in
the order of their values, `-0` before `0`, NaN of negative sign before and NaN of positive sign
behind all others. -/

namespace UsageReport.Number

open Float.Model (UnpackedFloat)
open Float.Model.Format (binary64)
open Float.Model.UnpackedFloat (Sign packComponents)

/-! ### The order by values -/

/-- The sign bit is set, also that of a zero or of a NaN. -/
def Negative (a : Number) : Prop := 2 ^ 63 ≤ a.bits.toNat

/-- What a NaN carries: whether it is quiet, then its diagnostic. -/
def payload (a : Number) : ℕ := a.bits.toNat % 2 ^ 52

/-- The predicate `totalOrder` of IEEE 754. -/
inductive TotalOrder (a b : Number) : Prop
  | less (less : a < b)
  | equal (number : a.isNaN = false) (number' : b.isNaN = false) (least : ¬ a < b)
      (most : ¬ b < a) (sign : b.Negative → a.Negative)
  | first (nan : a.isNaN = true) (number : b.isNaN = false) (negative : a.Negative)
  | last (number : a.isNaN = false) (nan : b.isNaN = true) (positive : ¬ b.Negative)
  | signs (nan : a.isNaN = true) (nan' : b.isNaN = true) (negative : a.Negative)
      (positive : ¬ b.Negative)
  | negative (nan : a.isNaN = true) (nan' : b.isNaN = true) (negative : a.Negative)
      (negative' : b.Negative) (more : b.payload ≤ a.payload)
  | positive (nan : a.isNaN = true) (nan' : b.isNaN = true) (positive : ¬ a.Negative)
      (positive' : ¬ b.Negative) (less : a.payload ≤ b.payload)

/-! ### Keys -/

/-- The key of what stands behind the sign: negative numbers are in the opposite order. -/
def signedKey : Sign → ℤ → ℤ
  | .negative, n => -1 - n
  | .positive, n => n

/-- The key of the total order for the forms that are not NaN. -/
def keyOf : UnpackedFloat → ℤ
  | .infinity s => signedKey s (2047 * 2 ^ 52)
  | .zero s => signedKey s 0
  | .finite s m e _ => signedKey s ((e + 1074) * 2 ^ 52 + m)
  | .notANumber => 0

theorem orderKey_neg_iff (a : Number) : a.orderKey < 0 ↔ a.Negative := by
  rw [orderKey, Negative]
  simp only [UInt64.size]
  split <;> omega

/-- The bits of a number are its sign, its exponent and its mantissa. -/
theorem toNat_components (s : Sign) (exponent : BitVec 11) (mantissa : BitVec 52) :
    (packComponents binary64 s exponent mantissa).toNat
      = s.toBitVec.toNat * 2 ^ 63 + exponent.toNat * 2 ^ 52 + mantissa.toNat := by
  show (s.toBitVec ++ exponent ++ mantissa).toNat = _
  rw [BitVec.toNat_append, ← Nat.shiftLeft_add_eq_or_of_lt mantissa.isLt, BitVec.toNat_append,
    ← Nat.shiftLeft_add_eq_or_of_lt exponent.isLt, Nat.shiftLeft_eq, Nat.shiftLeft_eq]
  ring

section
variable {a b : Number} {s : Sign} {exponent : BitVec 11} {mantissa : BitVec 52}

theorem orderKey_components (bits : a.bits.toBitVec = packComponents binary64 s exponent mantissa) :
    a.orderKey = signedKey s (exponent.toNat * 2 ^ 52 + mantissa.toNat)
      ∧ a.payload = mantissa.toNat := by
  have value : a.bits.toNat = _ := (congrArg BitVec.toNat bits).trans (toNat_components ..)
  have small := exponent.isLt
  have small' := mantissa.isLt
  rw [orderKey, payload, value]
  simp only [UInt64.size]
  cases s with
  | negative =>
    have sign : Sign.negative.toBitVec.toNat = 1 := rfl
    rw [sign, signedKey]
    split <;> omega
  | positive =>
    have sign : Sign.positive.toBitVec.toNat = 0 := rfl
    rw [sign, signedKey]
    split <;> omega

theorem orderKey_eq (number : a.isNaN = false) : a.orderKey = keyOf a.form := by
  obtain ⟨s, exponent, mantissa, bits⟩ := exists_components a.bits.toBitVec
  obtain ⟨key, -⟩ := orderKey_components bits
  rw [isNaN_eq, form, bits, unpack_components] at number
  rw [key, form, bits, unpack_components]
  by_cases high : exponent = -1#11
  · subst high
    rw [if_pos rfl] at number ⊢
    by_cases none : mantissa = 0#52
    · subst none
      rfl
    · rw [if_neg none] at number
      cases number
  · rw [if_neg high]
    by_cases low : exponent = 0#11
    · subst low
      rw [if_pos rfl]
      by_cases none : mantissa = 0#52
      · subst none
        rfl
      · rw [dif_neg none]
        congr 1
    · rw [if_neg low, keyOf]
      congr 1
      have whole := implicit_append mantissa
      rw [whole]
      push_cast
      ring

/-- The key of a NaN is beyond those of all other numbers. -/
theorem orderKey_nan (nan : a.isNaN = true) : 0 < a.payload
    ∧ (a.Negative ∧ a.orderKey = -1 - (2047 * 2 ^ 52 + a.payload)
      ∨ ¬ a.Negative ∧ a.orderKey = 2047 * 2 ^ 52 + a.payload) := by
  obtain ⟨s, exponent, mantissa, bits⟩ := exists_components a.bits.toBitVec
  obtain ⟨key, carried⟩ := orderKey_components bits
  rw [isNaN_eq, form, bits, unpack_components] at nan
  by_cases high : exponent = -1#11
  case neg =>
    rw [if_neg high] at nan
    split at nan
    case isTrue => split at nan <;> cases nan
    case isFalse => cases nan
  by_cases none : mantissa = 0#52
  case pos =>
    rw [if_pos high, if_pos none] at nan
    cases nan
  have all : (-1#11).toNat = 2047 := rfl
  rw [high, all, ← carried] at key
  rw [← orderKey_neg_iff, key]
  refine ⟨carried ▸ toNat_pos_of_ne none, ?_⟩
  cases s with
  | negative => exact .inl ⟨by rw [signedKey]; omega, rfl⟩
  | positive => exact .inr ⟨by rw [signedKey]; omega, rfl⟩

end

/-- The keys of the forms that are not NaN reach from one infinity to the other. -/
theorem keyOf_bounds {f : UnpackedFloat} (fits : Packable f) :
    -1 - 2047 * 2 ^ 52 ≤ keyOf f ∧ keyOf f ≤ 2047 * 2 ^ 52 := by
  rcases f with (_ | _) | _ | (_ | _) | ⟨_ | _, m, e, _⟩ <;> simp only [keyOf, signedKey]
  case finite.negative | finite.positive =>
    obtain ⟨⟨small, least, -⟩, most⟩ := fits
    omega
  all_goals omega

/-- Forms that are not NaN are in the order of their keys where they are in the order of their
values; among zeros the sign decides. -/
theorem keyOf_le_iff {f g : UnpackedFloat} (fits : Packable f) (fits' : Packable g)
    (number : f.isNaN = false) (number' : g.isNaN = false) : keyOf f ≤ keyOf g ↔
      rankOf f < rankOf g ∨ ¬ rankOf g < rankOf f ∧ (keyOf g < 0 → keyOf f < 0) := by
  have bounds {s m e some} (fits : Packable (.finite s m e some)) :
      0 < m ∧ m < 2 ^ 53 ∧ -1074 ≤ e ∧ (2 ^ 52 ≤ m ∨ e = -1074) ∧ e ≤ 971 :=
    ⟨some, fits.1.small, fits.1.least, fits.1.full, fits.2⟩
  rcases f with (_ | _) | _ | (_ | _) | ⟨_ | _, m, e, _⟩
  case notANumber => cases number
  all_goals
    rcases g with (_ | _) | _ | (_ | _) | ⟨_ | _, m', e', _⟩
    case notANumber => cases number'
    all_goals
      simp only [keyOf, signedKey, rankOf, Prod.Lex.lt_iff, ofLex_toLex, lt_self_iff_false,
        true_and, false_or]
  case finite.negative.finite.negative | finite.negative.finite.positive
      | finite.positive.finite.negative | finite.positive.finite.positive =>
    have left := bounds fits
    have right := bounds fits'
    omega
  case finite.negative.infinity.negative | finite.negative.infinity.positive
      | finite.negative.zero.negative | finite.negative.zero.positive
      | finite.positive.infinity.negative | finite.positive.infinity.positive
      | finite.positive.zero.negative | finite.positive.zero.positive =>
    have left := bounds fits
    omega
  case infinity.negative.finite.negative | infinity.positive.finite.negative
      | zero.negative.finite.negative | zero.positive.finite.negative
      | infinity.negative.finite.positive | infinity.positive.finite.positive
      | zero.negative.finite.positive | zero.positive.finite.positive =>
    have right := bounds fits'
    omega
  all_goals norm_num

/-! ### The order -/

variable {a b : Number}

theorem totalLE_iff_key : totalLE a b = true ↔ a.orderKey ≤ b.orderKey := decide_eq_true_iff

theorem totalLE_of_numbers (number : a.isNaN = false) (number' : b.isNaN = false) :
    totalLE a b = true ↔ a < b ∨ ¬ b < a ∧ (b.Negative → a.Negative) := by
  have fits := a.packable_form
  have fits' := b.packable_form
  have form := keyOf_le_iff fits fits' (isNaN_eq a ▸ number) (isNaN_eq b ▸ number')
  rw [← orderKey_eq number, ← orderKey_eq number', orderKey_neg_iff, orderKey_neg_iff, ← rank_eq,
    ← rank_eq] at form
  rw [totalLE_iff_key, form, lt_iff, lt_iff]
  simp only [number, number', true_and]

theorem totalLE_of_nans (nan : a.isNaN = true) (nan' : b.isNaN = true) :
    totalLE a b = true ↔ a.Negative ∧ ¬ b.Negative
      ∨ a.Negative ∧ b.Negative ∧ b.payload ≤ a.payload
      ∨ ¬ a.Negative ∧ ¬ b.Negative ∧ a.payload ≤ b.payload := by
  obtain ⟨-, key⟩ := orderKey_nan nan
  obtain ⟨-, key'⟩ := orderKey_nan nan'
  rw [totalLE_iff_key]
  rcases key with ⟨sign, key⟩ | ⟨sign, key⟩ <;> rcases key' with ⟨sign', key'⟩ | ⟨sign', key'⟩ <;>
    simp only [sign, sign', not_true, not_false_iff, true_and, false_and, and_false, or_false,
      false_or, iff_true, iff_false] <;> omega

theorem totalLE_of_first (nan : a.isNaN = true) (number : b.isNaN = false) :
    totalLE a b = true ↔ a.Negative := by
  obtain ⟨some, key⟩ := orderKey_nan nan
  obtain ⟨least, most⟩ := keyOf_bounds b.packable_form
  rw [← orderKey_eq number] at least most
  rw [totalLE_iff_key]
  rcases key with ⟨sign, key⟩ | ⟨sign, key⟩ <;> simp only [sign, iff_true, iff_false] <;> omega

theorem totalLE_of_last (number : a.isNaN = false) (nan : b.isNaN = true) :
    totalLE a b = true ↔ ¬ b.Negative := by
  obtain ⟨some, key⟩ := orderKey_nan nan
  obtain ⟨least, most⟩ := keyOf_bounds a.packable_form
  rw [← orderKey_eq number] at least most
  rw [totalLE_iff_key]
  rcases key with ⟨sign, key⟩ | ⟨sign, key⟩ <;>
    simp only [sign, not_true, not_false_iff, iff_true, iff_false] <;> omega

theorem totalOrder_of_totalLE (le : totalLE a b = true) : TotalOrder a b := by
  cases nan : a.isNaN with
  | false =>
    cases nan' : b.isNaN with
    | false =>
      by_cases less : a < b
      · exact .less less
      · obtain ⟨most, sign⟩ := ((totalLE_of_numbers nan nan').1 le).resolve_left less
        exact .equal nan nan' less most sign
    | true => exact .last nan nan' ((totalLE_of_last nan nan').1 le)
  | true =>
    cases nan' : b.isNaN with
    | false => exact .first nan nan' ((totalLE_of_first nan nan').1 le)
    | true =>
      obtain ⟨sign, sign'⟩ | ⟨sign, sign', more⟩ | ⟨sign, sign', less⟩ :=
        (totalLE_of_nans nan nan').1 le
      · exact .signs nan nan' sign sign'
      · exact .negative nan nan' sign sign' more
      · exact .positive nan nan' sign sign' less

theorem totalLE_of_totalOrder (order : TotalOrder a b) : totalLE a b = true := by
  cases order with
  | less less =>
    obtain ⟨number, number', -⟩ := lt_iff.1 less
    exact (totalLE_of_numbers number number').2 (.inl less)
  | equal number number' least most sign =>
    exact (totalLE_of_numbers number number').2 (.inr ⟨most, sign⟩)
  | first nan number negative => exact (totalLE_of_first nan number).2 negative
  | last number nan positive => exact (totalLE_of_last number nan).2 positive
  | signs nan nan' negative positive =>
    exact (totalLE_of_nans nan nan').2 (.inl ⟨negative, positive⟩)
  | negative nan nan' negative negative' more =>
    exact (totalLE_of_nans nan nan').2 (.inr (.inl ⟨negative, negative', more⟩))
  | positive nan nan' positive positive' less =>
    exact (totalLE_of_nans nan nan').2 (.inr (.inr ⟨positive, positive', less⟩))

/-- The total order by bits is that of IEEE 754. -/
theorem totalLE_iff : totalLE a b = true ↔ TotalOrder a b :=
  ⟨totalOrder_of_totalLE, totalLE_of_totalOrder⟩

end UsageReport.Number
