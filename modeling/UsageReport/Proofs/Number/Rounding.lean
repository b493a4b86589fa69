import Mathlib

/-! Rounding to binary64. A value is a significand times a power of two, which can be written in
many ways. Rounding depends on the value alone, and keeps a value of at most 53 bits. -/

namespace UsageReport.Number

open Float.Model (Format UnpackedFloat totalExponent)
open Float.Model.Format (binary64)
open Float.Model.UnpackedFloat (ExtendedMantissa Sign decreaseExponent roundWithAccuracy
  shiftToExponent shiftToTargetExponent)

/-! ### The exponent -/

/-- The exponent with which a value is written in binary64. -/
def target (m : ℕ) (e : ℤ) : ℤ := binary64.targetExponent (totalExponent m e)

theorem target_eq (m : ℕ) (e : ℤ) : target m e = max (m.log2 - 52 + e) (-1074) := by
  simp only [target, Format.targetExponent, totalExponent, Format.mantissaBits, Format.minExponent]
  omega

theorem target_double {m : ℕ} (positive : 0 < m) (e : ℤ) : target (m * 2) (e - 1) = target m e := by
  have log : (m * 2).log2 = m.log2 + 1 := by
    rw [Nat.mul_comm, Nat.log2_two_mul positive.ne']
  rw [target_eq, target_eq, log]
  omega

theorem shiftRight_succ (em : ExtendedMantissa) (n : ℕ) :
    em >>> (n + 1) = (em >>> n).shiftRightOne := rfl

/-- A shift drops a last bit that is zero without a trace. -/
theorem shiftRight_double (m n : ℕ) :
    ExtendedMantissa.ofMantissaAndAccuracy (m * 2) .exact >>> (n + 1)
      = ExtendedMantissa.ofMantissaAndAccuracy m .exact >>> n := by
  induction n with
  | zero =>
    show ExtendedMantissa.shiftRightOne ⟨m * 2, false, false⟩ = ⟨m, false, false⟩
    simp [ExtendedMantissa.shiftRightOne]
  | succ n ih => rw [shiftRight_succ, ih, ← shiftRight_succ]

theorem shiftToTarget_double {m : ℕ} (positive : 0 < m) {e : ℤ} (low : e ≤ target m e) :
    shiftToTargetExponent binary64 (m * 2) (e - 1) .exact
      = shiftToTargetExponent binary64 m e .exact := by
  have same := target_double positive e
  rw [target] at low
  rw [target, target] at same
  have more : (binary64.targetExponent (totalExponent m e) - (e - 1)).toNat
      = (binary64.targetExponent (totalExponent m e) - e).toNat + 1 := by omega
  simp only [shiftToTargetExponent, shiftToExponent, same, more, shiftRight_double]
  congr 1
  omega

/-- Rounding depends on the value alone and not on how it is written. -/
theorem round_double (s : Sign) {m : ℕ} (positive : 0 < m) (e : ℤ) :
    UnpackedFloat.round binary64 s (m * 2) (e - 1) = UnpackedFloat.round binary64 s m e := by
  have same := target_double positive e
  simp only [target] at same
  simp only [UnpackedFloat.round, same]
  by_cases low : e ≤ target m e
  · rw [target] at low
    have none : (e - binary64.targetExponent (totalExponent m e)).toNat = 0 := by omega
    have none' : (e - 1 - binary64.targetExponent (totalExponent m e)).toNat = 0 := by omega
    simp only [decreaseExponent, none, none', Nat.shiftLeft_zero, Nat.cast_zero, sub_zero]
    rw [roundWithAccuracy, roundWithAccuracy, shiftToTarget_double positive low]
  · rw [target] at low
    have more : (e - binary64.targetExponent (totalExponent m e)).toNat
        = (e - 1 - binary64.targetExponent (totalExponent m e)).toNat + 1 := by omega
    have written : decreaseExponent (m * 2) (e - 1) (binary64.targetExponent (totalExponent m e))
        = decreaseExponent m e (binary64.targetExponent (totalExponent m e)) := by
      simp only [decreaseExponent, more, Nat.shiftLeft_eq, pow_succ']
      rw [Nat.mul_assoc]
      congr 1
      omega
    rw [written]

theorem round_scale (s : Sign) {m : ℕ} (positive : 0 < m) (e : ℤ) (k : ℕ) :
    UnpackedFloat.round binary64 s (m * 2 ^ k) (e - k) = UnpackedFloat.round binary64 s m e := by
  induction k with
  | zero => simp
  | succ k ih =>
    have once : e - (k + 1 : ℕ) = e - k - 1 := by omega
    rw [pow_succ, ← Nat.mul_assoc, once, round_double s (by positivity), ih]

theorem normalize_scale (m e : ℤ) (k : ℕ) (z : Sign) :
    UnpackedFloat.normalize binary64 (m * 2 ^ k) (e - k) z
      = UnpackedFloat.normalize binary64 m e z := by
  have power : (0 : ℤ) < 2 ^ k := by positivity
  rcases lt_trichotomy m 0 with less | rfl | more
  · have less' : m * 2 ^ k < 0 := mul_neg_of_neg_of_pos less power
    have scaled : (-(m * 2 ^ k)).toNat = (-m).toNat * 2 ^ k := by
      zify
      rw [Int.toNat_of_nonneg (by omega), Int.toNat_of_nonneg (by omega)]
      ring
    rw [UnpackedFloat.normalize, UnpackedFloat.normalize, compare_lt_iff_lt.2 less,
      compare_lt_iff_lt.2 less']
    simp only [scaled]
    exact round_scale .negative (by omega) e k
  · simp [UnpackedFloat.normalize]
  · have more' : 0 < m * 2 ^ k := mul_pos more power
    have scaled : (m * 2 ^ k).toNat = m.toNat * 2 ^ k := by
      zify
      rw [Int.toNat_of_nonneg (by omega), Int.toNat_of_nonneg (by omega)]
    rw [UnpackedFloat.normalize, UnpackedFloat.normalize, compare_gt_iff_gt.2 more,
      compare_gt_iff_gt.2 more']
    simp only [scaled]
    exact round_scale .positive (by omega) e k

/-- The value that a significand and an exponent stand for. -/
def dyadic (m e : ℤ) : ℚ := m * 2 ^ e

theorem dyadic_scale (m e : ℤ) (k : ℕ) : dyadic (m * 2 ^ k) (e - k) = dyadic m e := by
  have two : (2 : ℚ) ≠ 0 := by norm_num
  rw [dyadic, dyadic, zpow_sub₀ two, zpow_natCast]
  push_cast
  field_simp

theorem normalize_congr {m e m' e' : ℤ} (same : dyadic m e = dyadic m' e') (z : Sign) :
    UnpackedFloat.normalize binary64 m e z = UnpackedFloat.normalize binary64 m' e' z := by
  wlog le : e' ≤ e generalizing m e m' e'
  · exact (this same.symm (by omega)).symm
  obtain ⟨k, rfl⟩ : ∃ k : ℕ, e' = e - k := ⟨(e - e').toNat, by omega⟩
  rw [← dyadic_scale m e k] at same
  have power : (2 : ℚ) ^ (e - k) ≠ 0 := by positivity
  have equal : m * 2 ^ k = m' := by
    exact_mod_cast mul_right_cancel₀ power same
  rw [← equal, normalize_scale]

/-! ### Canonical form -/

/-- A significand and an exponent as binary64 writes them. -/
structure Canonical (m : ℕ) (e : ℤ) : Prop where
  small : m < 2 ^ 53
  least : -1074 ≤ e
  full : 2 ^ 52 ≤ m ∨ e = -1074

theorem Canonical.target_eq_self {m : ℕ} {e : ℤ} (written : Canonical m e) (positive : 0 < m) :
    target m e = e := by
  have log : m.log2 < 53 := (Nat.log2_lt positive.ne').2 written.small
  have least := written.least
  rw [target_eq]
  rcases written.full with full | subnormal
  · have log' : 52 ≤ m.log2 := (Nat.le_log2 positive.ne').2 full
    omega
  · omega

/-- What is written in canonical form is not rounded. -/
theorem round_of_canonical {m : ℕ} {e : ℤ} (written : Canonical m e) (positive : 0 < m) (s : Sign) :
    UnpackedFloat.round binary64 s m e = .finite s m e positive := by
  have same := written.target_eq_self positive
  rw [target] at same
  have shift (em : ExtendedMantissa) : em >>> 0 = em := rfl
  simp [UnpackedFloat.round, decreaseExponent, roundWithAccuracy, shiftToTargetExponent,
    shiftToExponent, same, shift, ExtendedMantissa.ofMantissaAndAccuracy,
    ExtendedMantissa.roundedMantissa, ExtendedMantissa.accuracy,
    UnpackedFloat.Accuracy.roundToNearestEven, positive.ne']

/-- A value of few enough bits has a canonical form. -/
theorem exists_canonical {m : ℕ} (positive : 0 < m) (small : m < 2 ^ 53) {e : ℤ}
    (least : -1074 ≤ e) : ∃ k : ℕ, Canonical (m * 2 ^ k) (e - k) := by
  have log : m.log2 < 53 := (Nat.log2_lt positive.ne').2 small
  have below : 2 ^ m.log2 ≤ m := (Nat.le_log2 positive.ne').1 le_rfl
  have above : m < 2 ^ (m.log2 + 1) := (Nat.log2_lt positive.ne').1 (by omega)
  refine ⟨min (52 - m.log2) (e + 1074).toNat, ?_⟩
  set k := min (52 - m.log2) (e + 1074).toNat with taken
  have fits : m.log2 + k ≤ 52 := by omega
  constructor
  case small =>
    calc m * 2 ^ k < 2 ^ (m.log2 + 1) * 2 ^ k := Nat.mul_lt_mul_of_pos_right above (by positivity)
      _ = 2 ^ (m.log2 + 1 + k) := (pow_add 2 _ _).symm
      _ ≤ 2 ^ 53 := Nat.pow_le_pow_right (by decide) (by omega)
  case least => omega
  case full =>
    by_cases subnormal : e - k = -1074
    · exact .inr subnormal
    · left
      have whole : m.log2 + k = 52 := by omega
      calc 2 ^ 52 = 2 ^ m.log2 * 2 ^ k := by rw [← pow_add, whole]
        _ ≤ m * 2 ^ k := Nat.mul_le_mul_right _ below

/-- A value of few enough bits is not rounded. -/
theorem round_exact {m : ℕ} (positive : 0 < m) (small : m < 2 ^ 53) {e : ℤ} (least : -1074 ≤ e)
    (s : Sign) : ∃ (k : ℕ) (positive' : 0 < m * 2 ^ k), Canonical (m * 2 ^ k) (e - k)
      ∧ UnpackedFloat.round binary64 s m e = .finite s (m * 2 ^ k) (e - k) positive' := by
  obtain ⟨k, written⟩ := exists_canonical positive small least
  have positive' : 0 < m * 2 ^ k := by positivity
  refine ⟨k, positive', written, ?_⟩
  rw [← round_scale s positive e k, round_of_canonical written positive']

end UsageReport.Number
