import Mathlib
import UsageReport.Proofs.Number.Exact

/-! The value of binary64 nearest to a rational number, without a bound for its exponent. It grows
with the number, and rounding finds it. -/

namespace UsageReport.Number

open Float.Model (Format UnpackedFloat totalExponent)
open Float.Model.Format (binary64)
open Float.Model.UnpackedFloat (Accuracy ExtendedMantissa Sign accuracyOfFraction roundWithAccuracy
  shiftToExponent shiftToTargetExponent)

/-! ### Integers -/

/-- The integer nearest to a number, the even one of two. -/
def roundEven (q : ℚ) : ℤ :=
  if Int.fract q < 1 / 2 then ⌊q⌋
  else if Int.fract q = 1 / 2 then ⌊q⌋ + ⌊q⌋ % 2
  else ⌊q⌋ + 1

theorem roundEven_intCast (n : ℤ) : roundEven n = n := by
  simp [roundEven]

theorem abs_roundEven_sub_le (q : ℚ) : |roundEven q - q| ≤ 1 / 2 := by
  have whole : (⌊q⌋ : ℚ) = q - Int.fract q := by rw [Int.self_sub_fract]
  have positive := Int.fract_nonneg q
  have below := Int.fract_lt_one q
  have parity : ((⌊q⌋ % 2 : ℤ) : ℚ) = 0 ∨ ((⌊q⌋ % 2 : ℤ) : ℚ) = 1 := by
    rcases Int.emod_two_eq_zero_or_one ⌊q⌋ with even | odd
    · left; rw [even, Int.cast_zero]
    · right; rw [odd, Int.cast_one]
  unfold roundEven
  rw [abs_le]
  split_ifs with less tie
  · constructor <;> linarith
  · push_cast
    rcases parity with even | odd
    · constructor <;> linarith
    · constructor <;> linarith
  · have more : 1 / 2 < Int.fract q := lt_of_le_of_ne (not_lt.1 less) (Ne.symm tie)
    push_cast
    constructor <;> linarith

theorem roundEven_mono : Monotone roundEven := by
  intro q q' le
  by_contra more
  -- Both errors are at most a half, so that only equal numbers could be rounded apart.
  have gap : (roundEven q' : ℚ) + 1 ≤ roundEven q := by exact_mod_cast not_le.1 more
  have error := abs_le.1 (abs_roundEven_sub_le q)
  have error' := abs_le.1 (abs_roundEven_sub_le q')
  have same : q = q' := by linarith
  exact more (same ▸ le_rfl)

theorem roundEven_neg (q : ℚ) : roundEven (-q) = -roundEven q := by
  by_cases whole : Int.fract q = 0
  · obtain ⟨n, rfl⟩ := Int.fract_eq_zero_iff.1 whole
    rw [← Int.cast_neg, roundEven_intCast, roundEven_intCast]
  · have floor : ⌊-q⌋ = -⌊q⌋ - 1 := by
      rw [Int.floor_neg, (Int.ceil_eq_floor_add_one_iff_notMem q).2 ?_]
      · ring
      · rintro ⟨n, rfl⟩
        exact whole (Int.fract_intCast n)
    unfold roundEven
    rw [Int.fract_neg whole, floor]
    rcases lt_trichotomy (Int.fract q) (1 / 2) with less | tie | more
    · rw [if_pos less, if_neg (by linarith), if_neg (by intro same; linarith)]
      omega
    · rw [if_neg tie.not_lt, if_pos tie, if_neg (by linarith), if_pos (by linarith)]
      omega
    · rw [if_neg more.le.not_gt, if_neg more.ne', if_pos (by linarith)]
      omega

/-! ### Nearest values -/

/-- The exponent of the last bit of a number in binary64. -/
def place (x : ℚ) : ℤ := max (Int.log 2 |x| - 52) (-1074)

/-- How often the last bit is in the nearest value. -/
def significand (x : ℚ) : ℤ := roundEven (x / 2 ^ place x)

/-- The value of binary64 that is nearest to a number. -/
def nearest (x : ℚ) : ℚ := significand x * 2 ^ place x

theorem place_neg (x : ℚ) : place (-x) = place x := by
  rw [place, place, abs_neg]

theorem nearest_neg (x : ℚ) : nearest (-x) = -nearest x := by
  rw [nearest, nearest, significand, significand, place_neg, neg_div, roundEven_neg, Int.cast_neg,
    neg_mul]

theorem nearest_zero : nearest 0 = 0 := by
  rw [nearest, significand, zero_div, ← Int.cast_zero, roundEven_intCast, Int.cast_zero, zero_mul]

theorem significand_le {x : ℚ} (positive : 0 < x) : significand x ≤ 2 ^ 53 := by
  have below : x < 2 ^ (Int.log 2 x + 1) := Int.lt_zpow_succ_log_self (by decide) x
  have more : (2 : ℚ) ^ (Int.log 2 x + 1) ≤ 2 ^ (53 + place x) := by
    refine zpow_le_zpow_right₀ one_le_two ?_
    rw [place, abs_of_pos positive]
    omega
  have scaled : x / 2 ^ place x ≤ (2 ^ 53 : ℤ) := by
    rw [zpow_add₀ two_ne_zero 53] at more
    rw [div_le_iff₀ (by positivity)]
    push_cast
    exact (below.trans_le more).le
  have whole := roundEven_mono scaled
  rwa [roundEven_intCast] at whole

theorem le_significand {x : ℚ} (positive : 0 < x) (high : -1074 < place x) :
    2 ^ 52 ≤ significand x := by
  have above : (2 : ℚ) ^ Int.log 2 x ≤ x := Int.zpow_log_le_self (by decide) positive
  have log : Int.log 2 x = 52 + place x := by
    rw [place, abs_of_pos positive] at high ⊢
    omega
  have scaled : ((2 ^ 52 : ℤ) : ℚ) ≤ x / 2 ^ place x := by
    rw [log, zpow_add₀ two_ne_zero] at above
    rw [le_div_iff₀ (by positivity)]
    push_cast
    exact above
  have whole := roundEven_mono scaled
  rwa [roundEven_intCast] at whole

/-- What is written in few enough bits is its own nearest value. -/
theorem nearest_dyadic {m e : ℤ} (small : m.natAbs < 2 ^ 53) (least : -1074 ≤ e) :
    nearest (dyadic m e) = dyadic m e := by
  rcases eq_or_ne m 0 with rfl | some
  · rw [dyadic_zero, nearest_zero]
  have size : |dyadic m e| = m.natAbs * 2 ^ e := by
    rw [dyadic, abs_mul, abs_of_pos (by positivity : (0 : ℚ) < 2 ^ e), Nat.cast_natAbs, Int.cast_abs]
  have below : |dyadic m e| < 2 ^ (e + 53) := by
    have fits : (m.natAbs : ℚ) < 2 ^ 53 := by exact_mod_cast small
    rw [size, zpow_add₀ (by norm_num), mul_comm (2 ^ e : ℚ)]
    exact mul_lt_mul_of_pos_right fits (by positivity)
  have log : Int.log 2 |dyadic m e| < e + 53 := by
    have positive : 0 < |dyadic m e| := by
      rw [size]
      positivity
    exact (Int.lt_zpow_iff_log_lt (by decide) positive).1 (by exact_mod_cast below)
  obtain ⟨k, scaled⟩ : ∃ k : ℕ, e = place (dyadic m e) + k :=
    ⟨(e - place (dyadic m e)).toNat, by rw [place]; omega⟩
  have whole : dyadic m e / 2 ^ place (dyadic m e) = (m * 2 ^ k : ℤ) := by
    rw [div_eq_iff (by positivity)]
    calc dyadic m e = m * 2 ^ (place (dyadic m e) + k) := by rw [← scaled, dyadic]
      _ = (m * 2 ^ k : ℤ) * 2 ^ place (dyadic m e) := by
        rw [zpow_add₀ (by norm_num), zpow_natCast]
        push_cast
        ring
  rw [nearest, significand, whole, roundEven_intCast, ← whole, div_mul_cancel₀ _ (by positivity)]

theorem place_mono {x y : ℚ} (positive : 0 < x) (le : x ≤ y) : place x ≤ place y := by
  have log := Int.log_mono_right (b := 2) positive le
  rw [place, place, abs_of_pos positive, abs_of_pos (positive.trans_le le)]
  omega

theorem nearest_mono_of_pos {x y : ℚ} (positive : 0 < x) (le : x ≤ y) : nearest x ≤ nearest y := by
  rcases (place_mono positive le).lt_or_eq with less | same
  · -- A power of two lies between them, and it is its own nearest value.
    have high : -1074 < place y := lt_of_le_of_lt (le_max_right _ _) less
    have first : (significand x : ℚ) ≤ 2 ^ 53 := by exact_mod_cast significand_le positive
    have second : 2 ^ 52 ≤ (significand y : ℚ) := by
      exact_mod_cast le_significand (positive.trans_le le) high
    calc nearest x ≤ 2 ^ 53 * 2 ^ place x := mul_le_mul_of_nonneg_right first (by positivity)
      _ = 2 ^ 52 * 2 ^ (place x + 1) := by rw [zpow_add₀ two_ne_zero]; ring
      _ ≤ 2 ^ 52 * 2 ^ place y :=
        mul_le_mul_of_nonneg_left (zpow_le_zpow_right₀ one_le_two less) (by positivity)
      _ ≤ nearest y := mul_le_mul_of_nonneg_right second (by positivity)
  · have whole : significand x ≤ significand y := by
      rw [significand, significand, ← same]
      exact roundEven_mono (div_le_div_of_nonneg_right le (by positivity))
    rw [nearest, nearest, ← same]
    exact mul_le_mul_of_nonneg_right (by exact_mod_cast whole) (by positivity)

theorem nearest_nonneg {x : ℚ} (nonneg : 0 ≤ x) : 0 ≤ nearest x := by
  have whole := roundEven_mono (show ((0 : ℤ) : ℚ) ≤ x / 2 ^ place x by positivity)
  rw [roundEven_intCast] at whole
  exact mul_nonneg (by exact_mod_cast whole) (by positivity)

theorem nearest_mono : Monotone nearest := by
  refine monotone_of_odd_of_monotoneOn_nonneg nearest_neg fun x nonneg y _ le => ?_
  rcases (Set.mem_Ici.1 nonneg).eq_or_lt with rfl | positive
  · rw [nearest_zero]
    exact nearest_nonneg le
  · exact nearest_mono_of_pos positive le

/-! ### Rounding -/

/-- A significand and its two further bits stand for a number that they do not write out. -/
structure Stands (em : ExtendedMantissa) (q : ℚ) : Prop where
  floor : ⌊q⌋ = em.mantissa
  half : em.roundBit = true ↔ 1 / 2 ≤ Int.fract q
  rest : em.stickyBit = true ↔ Int.fract q ≠ 0 ∧ Int.fract q ≠ 1 / 2

theorem stands_exact (m : ℕ) : Stands (.ofMantissaAndAccuracy m .exact) m := by
  constructor <;> simp [ExtendedMantissa.ofMantissaAndAccuracy]

/-- A quotient and its remainder stand for the exact quotient. -/
theorem stands_quotient (m : ℕ) {n : ℕ} (positive : 0 < n) :
    Stands (.ofMantissaAndAccuracy (m / n) (accuracyOfFraction (m % n) n)) (m / n : ℚ) := by
  have positive' : (0 : ℚ) < n := by exact_mod_cast positive
  have floor : ⌊(m / n : ℚ)⌋ = (m / n : ℕ) := by
    rw [← Nat.floor_div_eq_div (K := ℚ), Int.natCast_floor_eq_floor (by positivity)]
  have half : 1 / 2 ≤ Int.fract (m / n : ℚ) ↔ n ≤ 2 * (m % n) := by
    rw [Int.fract_div_natCast_eq_div_natCast_mod, div_le_div_iff₀ two_pos positive', one_mul,
      mul_comm]
    exact_mod_cast Iff.rfl
  have tie : Int.fract (m / n : ℚ) = 1 / 2 ↔ 2 * (m % n) = n := by
    rw [Int.fract_div_natCast_eq_div_natCast_mod, div_eq_div_iff positive'.ne' two_ne_zero, one_mul,
      mul_comm]
    exact_mod_cast Iff.rfl
  have none : Int.fract (m / n : ℚ) = 0 ↔ m % n = 0 := by
    rw [Int.fract_div_natCast_eq_div_natCast_mod, div_eq_zero_iff, or_iff_left positive'.ne']
    exact Nat.cast_eq_zero
  have bits (em : ExtendedMantissa) (whole : em.mantissa = m / n)
      (round : em.roundBit = true ↔ n ≤ 2 * (m % n))
      (sticky : em.stickyBit = true ↔ m % n ≠ 0 ∧ 2 * (m % n) ≠ n) : Stands em (m / n : ℚ) :=
    ⟨whole ▸ floor, round.trans half.symm,
      sticky.trans (and_congr (not_congr none.symm) (not_congr tie.symm))⟩
  unfold accuracyOfFraction
  split_ifs with exact
  · refine bits _ rfl ?_ ?_ <;> simp [ExtendedMantissa.ofMantissaAndAccuracy, exact]; omega
  · rcases lt_trichotomy (2 * (m % n)) n with less | same | more
    · rw [compare_lt_iff_lt.2 less]
      refine bits _ rfl ?_ ?_ <;> simp [ExtendedMantissa.ofMantissaAndAccuracy] <;> omega
    · rw [compare_eq_iff_eq.2 same]
      refine bits _ rfl ?_ ?_ <;> simp [ExtendedMantissa.ofMantissaAndAccuracy] <;> omega
    · rw [compare_gt_iff_gt.2 more]
      refine bits _ rfl ?_ ?_ <;> simp [ExtendedMantissa.ofMantissaAndAccuracy] <;> omega

theorem Stands.rounded {em : ExtendedMantissa} {q : ℚ} (stands : Stands em q) :
    (em.roundedMantissa : ℤ) = roundEven q := by
  obtain ⟨floor, half, rest⟩ := stands
  unfold roundEven
  rw [floor]
  rcases em with ⟨m, _ | _, _ | _⟩ <;>
    simp only [Bool.false_eq_true, false_iff, true_iff, not_le, not_and_or, not_ne_iff] at half rest
  case false.false | false.true =>
    rw [if_pos half]
    rfl
  case true.false =>
    have tie : Int.fract q = 1 / 2 := rest.resolve_left (by linarith)
    rw [if_neg half.not_gt, if_pos tie]
    rfl
  case true.true =>
    rw [if_neg half.not_gt, if_neg rest.2]
    rfl

theorem Stands.shiftRightOne {em : ExtendedMantissa} {q : ℚ} (stands : Stands em q) :
    Stands em.shiftRightOne (q / 2) := by
  obtain ⟨floor, half, rest⟩ := stands
  have positive := Int.fract_nonneg q
  have below := Int.fract_lt_one q
  have floor' : ⌊q / 2⌋ = (em.mantissa / 2 : ℕ) := by
    rw [← Nat.cast_ofNat, Int.floor_div_natCast, floor]
    rfl
  have fract : Int.fract (q / 2) = ((em.mantissa % 2 : ℕ) + Int.fract q) / 2 := by
    have value := Int.floor_add_fract q
    have whole : (em.mantissa : ℚ) = 2 * (em.mantissa / 2 : ℕ) + (em.mantissa % 2 : ℕ) := by
      exact_mod_cast (Nat.div_add_mod em.mantissa 2).symm
    rw [floor, Int.cast_natCast] at value
    rw [← Int.self_sub_floor (q / 2), floor', Int.cast_natCast]
    linarith
  -- The bit that is dropped is the half; what was the half counts for the rest.
  constructor
  case floor => exact floor'
  case half =>
    rw [fract]
    rcases Nat.mod_two_eq_zero_or_one em.mantissa with even | odd
    · simp only [ExtendedMantissa.shiftRightOne, even, Nat.cast_zero]
      norm_num
      linarith
    · simp only [ExtendedMantissa.shiftRightOne, odd, Nat.cast_one]
      norm_num
      linarith
  case rest =>
    have some : em.shiftRightOne.stickyBit = true ↔ Int.fract q ≠ 0 := by
      simp only [ExtendedMantissa.shiftRightOne, Bool.or_eq_true, half, rest]
      constructor
      · rintro (le | ⟨more, -⟩)
        · linarith
        · exact more
      · intro more
        by_cases le : 1 / 2 ≤ Int.fract q
        · exact .inl le
        · exact .inr ⟨more, fun tie => le tie.ge⟩
    rw [some, fract]
    rcases Nat.mod_two_eq_zero_or_one em.mantissa with even | odd
    · rw [even, Nat.cast_zero, zero_add]
      constructor
      · intro more
        exact ⟨fun none => more (by linarith), fun tie => by linarith⟩
      · rintro ⟨more, -⟩ none
        exact more (by rw [none, zero_div])
    · rw [odd, Nat.cast_one]
      constructor
      · intro more
        exact ⟨fun none => by linarith, fun tie => more (by linarith)⟩
      · rintro ⟨-, more⟩ none
        exact more (by rw [none, add_zero])

theorem Stands.shiftRight {em : ExtendedMantissa} {q : ℚ} (stands : Stands em q) (n : ℕ) :
    Stands (em >>> n) (q / 2 ^ n) := by
  induction n with
  | zero =>
    rw [pow_zero, div_one]
    exact stands
  | succ n ih =>
    rw [shiftRight_succ, pow_succ, ← div_div]
    exact ih.shiftRightOne

/-- What rounding leaves, in canonical form save for the largest exponents. -/
def Written : UnpackedFloat → Prop
  | .finite _ m e _ => Canonical m e
  | _ => True

/-- A number with the given sign. -/
def signed (s : Sign) (x : ℚ) : ℚ := match s with
  | .negative => -x
  | .positive => x

theorem signed_negative (x : ℚ) : signed .negative x = -x := rfl

theorem signed_positive (x : ℚ) : signed .positive x = x := rfl

theorem nearest_signed (s : Sign) (x : ℚ) : nearest (signed s x) = signed s (nearest x) := by
  cases s with
  | negative => exact nearest_neg x
  | positive => rfl

theorem signed_mul (s s' : Sign) (x y : ℚ) : signed (s * s') (x * y) = signed s x * signed s' y :=
  match s, s' with
  | .negative, .negative => (neg_mul_neg x y).symm
  | .negative, .positive => (neg_mul x y).symm
  | .positive, .negative => (mul_neg x y).symm
  | .positive, .positive => rfl

theorem dyadic_apply (s : Sign) (m : ℕ) (e : ℤ) : dyadic (s.apply m) e = signed s (m * 2 ^ e) := by
  cases s <;> simp [Sign.apply, signed, dyadic]

theorem log_mul_zpow {q : ℚ} (positive : 0 < q) (e : ℤ) :
    Int.log 2 (q * 2 ^ e) = Int.log 2 q + e := by
  have below : q < 2 ^ (Int.log 2 q + 1) := Int.lt_zpow_succ_log_self (by decide) q
  have above : 2 ^ Int.log 2 q ≤ q := Int.zpow_log_le_self (by decide) positive
  have power : (0 : ℚ) < 2 ^ e := by positivity
  apply le_antisymm
  · have less : q * 2 ^ e < 2 ^ (Int.log 2 q + e + 1) := by
      rw [add_right_comm, zpow_add₀ two_ne_zero]
      exact mul_lt_mul_of_pos_right below power
    have log := (Int.lt_zpow_iff_log_lt (b := 2) (by decide) (mul_pos positive power)).1 less
    omega
  · have least : 2 ^ (Int.log 2 q + e) ≤ q * 2 ^ e := by
      rw [zpow_add₀ two_ne_zero]
      exact mul_le_mul_of_nonneg_right above power.le
    exact (Int.zpow_le_iff_le_log (b := 2) (by decide) (mul_pos positive power)).1 least

theorem place_mul_zpow {q : ℚ} (positive : 0 < q) (e : ℤ) :
    place (q * 2 ^ e) = max (Int.log 2 q + e - 52) (-1074) := by
  have power : (0 : ℚ) < 2 ^ e := by positivity
  rw [place, abs_of_pos (mul_pos positive power), log_mul_zpow positive]

/-- The exponent to which a significand is shifted is the place of the number it stands for. -/
theorem target_eq_place {m : ℕ} {q : ℚ} (floor : ⌊q⌋ = m) (positive : 0 < q) {e : ℤ}
    (fine : e ≤ place (q * 2 ^ e)) : target m e = place (q * 2 ^ e) := by
  rw [place_mul_zpow positive] at fine ⊢
  rw [target_eq]
  rcases Nat.eq_zero_or_pos m with rfl | some
  · have less : q < 2 ^ (0 : ℤ) := by
      have next := Int.lt_floor_add_one q
      rwa [floor, Int.cast_natCast, Nat.cast_zero, zero_add] at next
    have log := (Int.lt_zpow_iff_log_lt (b := 2) (by decide) positive).1 less
    rw [Nat.log2_zero]
    omega
  · have least : 1 ≤ q := by
      have le := Int.floor_le q
      rw [floor, Int.cast_natCast] at le
      exact le_trans (by exact_mod_cast some) le
    have whole : ⌊q⌋₊ = m := by
      rw [← Int.floor_toNat, floor, Int.toNat_natCast]
    rw [Int.log_of_one_le_right 2 least, whole, Nat.log2_eq_log_two]
    omega

/-- A significand that rounding has carried to one bit too many is a power of two. -/
theorem shiftToTarget_exact {r : ℕ} (fits : r ≤ 2 ^ 53) {p : ℤ} (least : -1074 ≤ p)
    (full : 2 ^ 52 ≤ r ∨ p = -1074) : ∃ m e, Canonical m e ∧ (m * 2 ^ e : ℚ) = r * 2 ^ p
      ∧ shiftToTargetExponent binary64 r p .exact = (⟨m, false, false⟩, e) := by
  rcases fits.lt_or_eq with small | rfl
  · have written : Canonical r p := ⟨small, least, full⟩
    have same : target r p = p := by
      rcases r.eq_zero_or_pos with rfl | positive
      · obtain rfl : p = -1074 := full.resolve_left (by decide)
        decide
      · exact written.target_eq_self positive
    refine ⟨r, p, written, rfl, ?_⟩
    rw [target] at same
    rw [shiftToTargetExponent, shiftToExponent, same, sub_self]
    exact congrArg _ (add_zero p)
  · have same : target (2 ^ 53) p = p + 1 := by
      rw [target_eq, Nat.log2_two_pow]
      omega
    refine ⟨2 ^ 52, p + 1, ⟨by decide, by omega, .inl le_rfl⟩, ?_, ?_⟩
    · rw [zpow_add₀ two_ne_zero]
      push_cast
      ring
    · rw [target] at same
      rw [shiftToTargetExponent, shiftToExponent, same, add_sub_cancel_left]
      rfl

/-- Rounding finds the nearest value, if the significand reaches down to its last bit. -/
theorem roundWithAccuracy_nearest {m : ℕ} {accuracy : Accuracy} {q : ℚ}
    (stands : Stands (.ofMantissaAndAccuracy m accuracy) q) (positive : 0 < q) {e : ℤ}
    (fine : e ≤ place (q * 2 ^ e)) (s : Sign) :
    Written (roundWithAccuracy binary64 s m e accuracy)
      ∧ rationalOf (roundWithAccuracy binary64 s m e accuracy)
        = some (nearest (signed s (q * 2 ^ e))) := by
  have positive' : 0 < q * 2 ^ e := by positivity
  have floor : ⌊q⌋ = m := by
    have whole := stands.floor
    rcases accuracy with _ | _ | _ | _ <;> exact whole
  obtain ⟨k, shifted⟩ : ∃ k : ℕ, place (q * 2 ^ e) = e + k :=
    ⟨(place (q * 2 ^ e) - e).toNat, by omega⟩
  have scaled : q / 2 ^ k = q * 2 ^ e / 2 ^ place (q * 2 ^ e) := by
    rw [shifted, zpow_add₀ two_ne_zero, zpow_natCast]
    field_simp
  have rounded := (stands.shiftRight k).rounded
  rw [scaled] at rounded
  set em := ExtendedMantissa.ofMantissaAndAccuracy m accuracy >>> k with shift
  have first : shiftToTargetExponent binary64 m e accuracy = (em, place (q * 2 ^ e)) := by
    have same := target_eq_place floor positive fine
    rw [target] at same
    rw [shiftToTargetExponent, shiftToExponent, same, shifted, add_sub_cancel_left,
      Int.toNat_natCast]
  have fits : em.roundedMantissa ≤ 2 ^ 53 := by
    exact_mod_cast rounded.trans_le (significand_le positive')
  have least : -1074 ≤ place (q * 2 ^ e) := le_max_right _ _
  have full : 2 ^ 52 ≤ em.roundedMantissa ∨ place (q * 2 ^ e) = -1074 := by
    rcases least.lt_or_eq with high | low
    · exact .inl (by exact_mod_cast (le_significand positive' high).trans_eq rounded.symm)
    · exact .inr low.symm
  obtain ⟨m', e', written, value, last⟩ := shiftToTarget_exact fits least full
  have nearest : nearest (signed s (q * 2 ^ e)) = dyadic (s.apply m') e' := by
    rw [nearest_signed, dyadic_apply, value, Number.nearest, significand, ← rounded, Int.cast_natCast]
  rw [nearest, roundWithAccuracy, first]
  simp only [last]
  split
  case isTrue none =>
    refine ⟨trivial, ?_⟩
    rw [none, dyadic_apply, Nat.cast_zero, zero_mul]
    cases s <;> simp [signed, rationalOf]
  case isFalse => exact ⟨written, rfl⟩

/-- A value is rounded to the one nearest to it. -/
theorem round_nearest (s : Sign) {m : ℕ} (positive : 0 < m) (e : ℤ) :
    Written (UnpackedFloat.round binary64 s m e)
      ∧ rationalOf (UnpackedFloat.round binary64 s m e)
        = some (nearest (dyadic (s.apply m) e)) := by
  have positive' : (0 : ℚ) < m := by exact_mod_cast positive
  have same : target m e = place (m * 2 ^ e) := by
    rw [place_mul_zpow positive', Int.log_natCast, ← Nat.log2_eq_log_two, target_eq]
    omega
  rw [target] at same
  simp only [UnpackedFloat.round, UnpackedFloat.decreaseExponent, same]
  set k := (e - place (m * 2 ^ e)).toNat with amount
  have value : (m <<< k : ℕ) * 2 ^ (e - k) = (m * 2 ^ e : ℚ) := by
    rw [Nat.shiftLeft_eq, zpow_sub₀ two_ne_zero, zpow_natCast]
    push_cast
    field_simp
  have fine : e - k ≤ place ((m <<< k : ℕ) * 2 ^ (e - k)) := by
    rw [value]
    omega
  have some : (0 : ℚ) < (m <<< k : ℕ) := by
    rw [Nat.shiftLeft_eq]
    exact_mod_cast Nat.mul_pos positive (by positivity)
  have rounded := roundWithAccuracy_nearest (stands_exact _) some fine s
  rwa [value, ← dyadic_apply] at rounded

theorem normalize_nearest (m e : ℤ) (z : Sign) :
    Written (UnpackedFloat.normalize binary64 m e z)
      ∧ rationalOf (UnpackedFloat.normalize binary64 m e z) = some (nearest (dyadic m e)) := by
  rcases lt_trichotomy m 0 with less | rfl | more
  · have back : Sign.negative.apply ((-m).toNat : ℤ) = m := by
      rw [Sign.apply]
      omega
    rw [UnpackedFloat.normalize, compare_lt_iff_lt.2 less]
    simpa only [back] using round_nearest .negative (m := (-m).toNat) (by omega) e
  · rw [dyadic_zero, nearest_zero]
    exact ⟨trivial, rfl⟩
  · have back : Sign.positive.apply (m.toNat : ℤ) = m := by
      rw [Sign.apply]
      omega
    rw [UnpackedFloat.normalize, compare_gt_iff_gt.2 more]
    simpa only [back] using round_nearest .positive (m := m.toNat) (by omega) e

/-! ### Operations -/

section
variable {f g : UnpackedFloat} {x y : ℚ}

theorem add_nearest (fits : Packable f) (fits' : Packable g) (left : rationalOf f = some x)
    (right : rationalOf g = some y) : Written (UnpackedFloat.add binary64 f g)
      ∧ rationalOf (UnpackedFloat.add binary64 f g) = some (nearest (x + y)) := by
  obtain ⟨s, zero, none⟩ | ⟨m, e, value, rounded⟩ := add_forms fits fits' left right
  · rw [zero, none, nearest_zero]
    exact ⟨trivial, rfl⟩
  · rw [rounded, ← value]
    exact normalize_nearest m e .positive

/-- The significand of a quotient reaches down to the last bit of its nearest value. -/
theorem divCore_fine {m m' : ℕ} (positive : 0 < m) (positive' : 0 < m') (e e' : ℤ) :
    binary64.targetExponent (totalExponent m e - totalExponent m' e')
      ≤ place (m / m' * 2 ^ (e - e') : ℚ) := by
  have above : (2 ^ m.log2 : ℚ) ≤ m := by exact_mod_cast (Nat.le_log2 positive.ne').1 le_rfl
  have below : (m' : ℚ) ≤ 2 ^ (m'.log2 + 1) := by
    exact_mod_cast ((Nat.log2_lt positive'.ne').1 (Nat.lt_succ_self _)).le
  have some : (0 : ℚ) < m' := by exact_mod_cast positive'
  have some' : (0 : ℚ) < m := by exact_mod_cast positive
  have least : (2 : ℚ) ^ (m.log2 - (m'.log2 + 1) : ℤ) ≤ m / m' := by
    rw [zpow_sub₀ two_ne_zero, zpow_natCast]
    exact div_le_div₀ some'.le above some below
  have log := (Int.zpow_le_iff_le_log (b := 2) (by decide) (div_pos some' some)).1 least
  rw [place_mul_zpow (div_pos some' some)]
  simp only [Format.targetExponent, totalExponent, Format.mantissaBits, Format.minExponent]
  omega

/-- A positive value has a positive sign. -/
theorem sign_of_pos {s : Sign} {m : ℕ} {e : ℤ} (positive : 0 < dyadic (s.apply m) e) :
    s = .positive := by
  cases s with
  | negative =>
    have below : -(m * 2 ^ e : ℚ) ≤ 0 := neg_nonpos.2 (by positivity)
    rw [dyadic_apply] at positive
    exact absurd positive below.not_gt
  | positive => rfl

theorem div_nearest (left : rationalOf f = some x) (right : rationalOf g = some y)
    (positive : 0 < y) : Written (UnpackedFloat.div binary64 f g)
      ∧ rationalOf (UnpackedFloat.div binary64 f g) = some (nearest (x / y)) := by
  rcases g with _ | _ | _ | ⟨s', m', e', some'⟩
  case infinity | notANumber => cases right
  case zero =>
    obtain rfl := Option.some.inj right
    exact absurd rfl positive.ne
  obtain rfl := Option.some.inj right
  obtain rfl := sign_of_pos positive
  rcases f with _ | _ | s | ⟨s, m, e, some⟩
  case infinity | notANumber => cases left
  case zero =>
    obtain rfl := Option.some.inj left
    rw [zero_div, nearest_zero]
    exact ⟨trivial, rfl⟩
  obtain rfl := Option.some.inj left
  let t := min (e - e') (binary64.targetExponent (totalExponent m e - totalExponent m' e'))
  let k := (e - e' - t).toNat
  have whole : e - e' = t + k := by omega
  have value : (m <<< k : ℕ) / m' * 2 ^ t = (m / m' * 2 ^ (e - e') : ℚ) := by
    rw [whole, Nat.shiftLeft_eq, zpow_add₀ two_ne_zero, zpow_natCast]
    push_cast
    ring
  have fine : t ≤ place ((m <<< k : ℕ) / m' * 2 ^ t) := by
    rw [value]
    exact (min_le_right _ _).trans (divCore_fine some some' e e')
  have quotient : signed (s / .positive) (m / m' * 2 ^ (e - e'))
      = dyadic (s.apply m) e / dyadic (Sign.positive.apply m') e' := by
    rw [dyadic_apply, dyadic_apply, zpow_sub₀ two_ne_zero, ← mul_div_mul_comm]
    cases s with
    | negative => exact (neg_div _ _).symm
    | positive => rfl
  have some'' : (0 : ℚ) < (m <<< k : ℕ) / m' := by
    rw [Nat.shiftLeft_eq]
    positivity
  have rounded := roundWithAccuracy_nearest (stands_quotient (m <<< k) some') some'' fine
    (s / .positive)
  rw [value, quotient] at rounded
  exact rounded

/-- The product of two values, if its significand reaches down to its last bit. -/
theorem mul_nearest (s s' : Sign) {m m' : ℕ} (positive : 0 < m) (positive' : 0 < m') {e e' : ℤ}
    (fine : e + e' ≤ place (m * m' * 2 ^ (e + e'))) :
    Written (UnpackedFloat.mul binary64 (.finite s m e positive) (.finite s' m' e' positive'))
      ∧ rationalOf (UnpackedFloat.mul binary64 (.finite s m e positive)
        (.finite s' m' e' positive')) = some (nearest (signed (s * s') (m * m' * 2 ^ (e + e')))) := by
  have stands := stands_exact (m * m')
  rw [Nat.cast_mul] at stands
  exact roundWithAccuracy_nearest stands (by positivity) fine (s * s')

/-- The significand of a product of canonical ones reaches down to the last bit. -/
theorem mul_fine {m m' : ℕ} {e e' : ℤ} (positive : 0 < m) (positive' : 0 < m')
    (written : Canonical m e) (written' : Canonical m' e') :
    e + e' ≤ place (m * m' * 2 ^ (e + e')) := by
  have some : (0 : ℚ) < m * m' := by positivity
  have log : Int.log 2 (m * m' : ℚ) = (Nat.log 2 (m * m') : ℤ) := by
    rw [← Nat.cast_mul, Int.log_natCast]
  rw [place_mul_zpow some, log]
  -- One of the factors has all its bits, or both have the least exponent.
  have whole {a b : ℕ} (full : 2 ^ 52 ≤ a) (positive : 0 < b) : 52 ≤ Nat.log 2 (a * b) :=
    Nat.le_log_of_pow_le (by decide) (full.trans (Nat.le_mul_of_pos_right a positive))
  rcases written.full with full | low
  · have bits := whole full positive'
    omega
  · rcases written'.full with full' | low'
    · have bits := whole full' positive
      rw [Nat.mul_comm] at bits
      omega
    · omega

end

end UsageReport.Number
