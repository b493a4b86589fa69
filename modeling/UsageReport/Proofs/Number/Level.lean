import Mathlib
import UsageReport.Proofs.Number.Nearest
import UsageReport.Proofs.Number.Order

/-! The level of a number, which is its value where it has one. Numbers are ordered by their levels,
and sums and quotients do not fall where the levels of their terms rise. -/

namespace UsageReport.Number

open Float.Model (UnpackedFloat)
open Float.Model.Format (binary64)
open Float.Model.UnpackedFloat (Sign)

/-! ### Levels -/

/-- The bound of all finite values. -/
def limit : ℚ := 2 ^ 1024

/-- A value that is too large or too small counts as the limit. -/
def clamp (x : ℚ) : ℚ := max (-limit) (min x limit)

def levelOf : UnpackedFloat → ℚ
  | .infinity s => signed s limit
  | .finite s m e _ => dyadic (s.apply m) e
  | .zero _ | .notANumber => 0

def level (a : Number) : ℚ := levelOf a.form

theorem limit_pos : 0 < limit := by
  unfold limit
  positivity

theorem clamp_mono : Monotone clamp := fun _ _ le =>
  max_le_max_left _ (min_le_min_right _ le)

theorem clamp_of_abs_lt {x : ℚ} (inside : |x| < limit) : clamp x = x := by
  obtain ⟨above, below⟩ := abs_lt.1 inside
  rw [clamp, min_eq_left below.le, max_eq_right above.le]

/-- What counts as less than the limit is not clamped. -/
theorem clamp_of_abs_clamp_lt {x : ℚ} (inside : |clamp x| < limit) : clamp x = x := by
  obtain ⟨above, below⟩ := abs_lt.1 inside
  rw [clamp] at above below ⊢
  have low : -limit < min x limit := (lt_max_iff.1 above).resolve_left le_rfl.not_gt
  have high : min x limit < limit := (max_lt_iff.1 below).2
  have high' : x < limit := (min_lt_iff.1 high).resolve_right le_rfl.not_gt
  rw [max_eq_right low.le, min_eq_left high'.le]

theorem clamp_signed (s : Sign) {x : ℚ} (outside : limit ≤ x) :
    clamp (signed s x) = signed s limit := by
  have positive := limit_pos
  cases s with
  | negative =>
    show max (-limit) (min (-x) limit) = -limit
    rw [min_eq_left (by linarith), max_eq_left (by linarith)]
  | positive =>
    show max (-limit) (min x limit) = limit
    rw [min_eq_right outside, max_eq_right (by linarith)]

theorem levelOf_of_rational {f : UnpackedFloat} {x : ℚ} (value : rationalOf f = some x) :
    levelOf f = x := by
  cases f with
  | infinity | notANumber => cases value
  | zero | finite => exact Option.some.inj value

theorem level_of_rational {a : Number} {x : ℚ} (value : a.rational? = some x) : a.level = x :=
  levelOf_of_rational value

theorem canonical_lt {m : ℕ} {e : ℤ} (written : Canonical m e) (high : e ≤ 971) :
    (m * 2 ^ e : ℚ) < limit := by
  have small : (m : ℚ) < 2 ^ 53 := by exact_mod_cast written.small
  have power : (2 : ℚ) ^ e ≤ 2 ^ (971 : ℤ) := zpow_le_zpow_right₀ one_le_two high
  have positive : (0 : ℚ) < 2 ^ e := by positivity
  calc (m * 2 ^ e : ℚ) < 2 ^ 53 * 2 ^ e := mul_lt_mul_of_pos_right small positive
    _ ≤ 2 ^ 53 * 2 ^ (971 : ℤ) := mul_le_mul_of_nonneg_left power (by positivity)
    _ = limit := by
      rw [limit, ← zpow_natCast, ← zpow_natCast, ← zpow_add₀ two_ne_zero]
      congr 1

theorem le_canonical {m : ℕ} {e : ℤ} (written : Canonical m e) (high : 971 < e) :
    limit ≤ (m * 2 ^ e : ℚ) := by
  have full : (2 ^ 52 : ℚ) ≤ m := by exact_mod_cast written.full.resolve_right (by omega)
  have power : (2 : ℚ) ^ (972 : ℤ) ≤ 2 ^ e := zpow_le_zpow_right₀ one_le_two high
  calc limit = 2 ^ 52 * 2 ^ (972 : ℤ) := by
        rw [limit, ← zpow_natCast, ← zpow_natCast, ← zpow_add₀ two_ne_zero]
        congr 1
    _ ≤ 2 ^ 52 * 2 ^ e := mul_le_mul_of_nonneg_left power (by positivity)
    _ ≤ m * 2 ^ e := mul_le_mul_of_nonneg_right full (by positivity)

theorem abs_signed (s : Sign) (x : ℚ) : |signed s x| = |x| := by
  cases s with
  | negative => exact abs_neg x
  | positive => rfl

theorem abs_lt_limit {a : Number} {x : ℚ} (value : a.rational? = some x) : |x| < limit := by
  have fits := a.packable_form
  rw [rational?] at value
  rcases form : a.form with _ | _ | _ | ⟨s, m, e, _⟩ <;> rw [form] at value fits
  case infinity | notANumber => cases value
  case zero =>
    obtain rfl := Option.some.inj value
    rw [abs_zero]
    exact limit_pos
  case finite =>
    obtain rfl := Option.some.inj value
    rw [dyadic_apply, abs_signed, abs_of_nonneg (by positivity)]
    exact canonical_lt fits.1 fits.2

theorem exists_dyadic {a : Number} {x : ℚ} (value : a.rational? = some x) :
    ∃ m e, m.natAbs < 2 ^ 53 ∧ -1074 ≤ e ∧ x = dyadic m e := by
  have fits := a.packable_form
  rw [rational?] at value
  rcases form : a.form with _ | _ | _ | ⟨s, m, e, _⟩ <;> rw [form] at value fits
  case infinity | notANumber => cases value
  case zero =>
    have none := Option.some.inj value
    exact ⟨0, 0, by decide, by decide, none.symm.trans (dyadic_zero 0).symm⟩
  case finite =>
    have size : (s.apply m).natAbs = m := by
      cases s <;> simp [Sign.apply]
    exact ⟨s.apply m, e, size.trans_lt fits.1.small, fits.1.least, (Option.some.inj value).symm⟩

/-- A value and its double are not rounded. -/
theorem nearest_of_rational {a : Number} {x : ℚ} (value : a.rational? = some x) :
    nearest x = x ∧ nearest (2 * x) = 2 * x := by
  obtain ⟨m, e, small, least, rfl⟩ := exists_dyadic value
  have double : 2 * dyadic m e = dyadic m (e + 1) := by
    rw [dyadic, dyadic, zpow_add_one₀ two_ne_zero]
    ring
  rw [double]
  exact ⟨nearest_dyadic small least, nearest_dyadic small (by omega)⟩

/-- Rounding does not pass a value that is not rounded itself. -/
theorem le_clamp_nearest {a : Number} {x y : ℚ} (value : a.rational? = some x) (le : x ≤ y) :
    x ≤ clamp (nearest y) :=
  calc x = clamp (nearest x) := by
        rw [(nearest_of_rational value).1, clamp_of_abs_lt (abs_lt_limit value)]
    _ ≤ clamp (nearest y) := clamp_mono (nearest_mono le)

theorem clamp_nearest_le {a : Number} {x y : ℚ} (value : a.rational? = some x) (le : y ≤ x) :
    clamp (nearest y) ≤ x :=
  calc clamp (nearest y) ≤ clamp (nearest x) := clamp_mono (nearest_mono le)
    _ = x := by rw [(nearest_of_rational value).1, clamp_of_abs_lt (abs_lt_limit value)]

/-- A number within the limit has a value. -/
theorem rational_of_level {a : Number} (number : a.isNaN = false) (inside : |a.level| < limit) :
    a.rational? = some a.level := by
  rw [isNaN_eq] at number
  rw [level] at inside ⊢
  rw [rational?]
  rcases form : a.form with s | _ | _ | _ <;> rw [form] at inside number
  case infinity =>
    rw [levelOf, abs_signed, abs_of_pos limit_pos] at inside
    exact absurd rfl inside.ne
  case notANumber => cases number
  case zero | finite => rfl

/-- What overflows becomes infinite. -/
theorem ofForm_overflow (s : Sign) {m : ℕ} {e : ℤ} (positive : 0 < m) (high : 971 < e) :
    ofForm (.finite s m e positive) = ofForm (.infinity s) := by
  have place : (e + binary64.exponentBias + binary64.mantissaBitsWithoutImplicit).toNat
      = (e + 1075).toNat := by rw [add_assoc]; rfl
  have outside : 2 ^ binary64.exponentBits ≤ (e + 1075).toNat + 1 := by
    show 2 ^ 11 ≤ _
    omega
  have packed : UnpackedFloat.pack binary64 (.finite s m e positive)
      = UnpackedFloat.pack binary64 (.infinity s) := by
    simp only [UnpackedFloat.pack, place, if_pos outside]
  have model : Float.Model.pack (.finite s m e positive) = Float.Model.pack (.infinity s) := by
    simp only [Float.Model.pack, packed]
  rw [ofForm, ofForm, model]

theorem level_ofForm {f : UnpackedFloat} (written : Written f) {x : ℚ}
    (value : rationalOf f = some x) : (ofForm f).isNaN = false ∧ (ofForm f).level = clamp x := by
  have within {g : UnpackedFloat} (fits : Packable g) (real : rationalOf g = some x) :
      (ofForm g).isNaN = false ∧ (ofForm g).level = clamp x := by
    have real' : (ofForm g).rational? = some x := by rw [rational?, form_ofForm fits, real]
    rw [level_of_rational real', clamp_of_abs_lt (abs_lt_limit real')]
    exact ⟨isNaN_of_rational real', rfl⟩
  rcases f with _ | _ | _ | ⟨s, m, e, positive⟩
  case infinity | notANumber => cases value
  case zero => exact within trivial value
  case finite =>
    by_cases high : e ≤ 971
    · exact within ⟨written, high⟩ value
    · have infinite : Packable (.infinity s) := trivial
      obtain rfl := Option.some.inj value
      rw [ofForm_overflow s positive (not_le.1 high), isNaN_eq, level, form_ofForm infinite,
        dyadic_apply, clamp_signed s (le_canonical written (not_le.1 high))]
      exact ⟨rfl, rfl⟩

/-! ### Order -/

theorem canonical_lt_of_exponent {m m' : ℕ} {e e' : ℤ} (written : Canonical m e)
    (written' : Canonical m' e') (less : e < e') : (m * 2 ^ e : ℚ) < m' * 2 ^ e' := by
  have low := written.least
  have small : (m : ℚ) < 2 ^ 53 := by exact_mod_cast written.small
  have full : (2 ^ 52 : ℚ) ≤ m' := by exact_mod_cast written'.full.resolve_right (by omega)
  have power : (2 : ℚ) ^ (e + 1) ≤ 2 ^ e' := zpow_le_zpow_right₀ one_le_two less
  calc (m * 2 ^ e : ℚ) < 2 ^ 53 * 2 ^ e := mul_lt_mul_of_pos_right small (by positivity)
    _ = 2 ^ 52 * 2 ^ (e + 1) := by rw [zpow_add₀ two_ne_zero]; ring
    _ ≤ 2 ^ 52 * 2 ^ e' := mul_le_mul_of_nonneg_left power (by positivity)
    _ ≤ m' * 2 ^ e' := mul_le_mul_of_nonneg_right full (by positivity)

theorem canonical_lt_iff {m m' : ℕ} {e e' : ℤ} (written : Canonical m e)
    (written' : Canonical m' e') : (m * 2 ^ e : ℚ) < m' * 2 ^ e' ↔ e < e' ∨ e = e' ∧ m < m' := by
  rcases lt_trichotomy e e' with less | rfl | more
  · simp only [canonical_lt_of_exponent written written' less, less, true_or]
  · rw [mul_lt_mul_iff_left₀ (by positivity), Nat.cast_lt]
    omega
  · have least := (canonical_lt_of_exponent written' written more).le
    simp only [least.not_gt, false_iff]
    omega

theorem levelOf_lt_iff {f g : UnpackedFloat} (fits : Packable f) (fits' : Packable g) :
    levelOf f < levelOf g ↔ rankOf f < rankOf g := by
  have top := limit_pos
  have bounds {s m e some} (fits : Packable (.finite s m e some)) :
      (0 : ℚ) < m * 2 ^ e ∧ (m * 2 ^ e : ℚ) < limit :=
    ⟨by positivity, canonical_lt fits.1 fits.2⟩
  rcases f with (_ | _) | _ | _ | ⟨_ | _, m, e, some⟩ <;>
    rcases g with (_ | _) | _ | _ | ⟨_ | _, m', e', some'⟩ <;>
    simp only [levelOf, rankOf, Prod.Lex.lt_iff, ofLex_toLex, dyadic_apply, signed]
  case finite.negative.finite.negative =>
    have order := canonical_lt_iff fits'.1 fits.1
    rw [neg_lt_neg_iff, order]
    norm_num
    omega
  case finite.positive.finite.positive =>
    have order := canonical_lt_iff fits.1 fits'.1
    rw [order]
    norm_num
  case finite.negative.finite.positive | finite.positive.finite.negative =>
    obtain ⟨above, -⟩ := bounds fits
    obtain ⟨above', -⟩ := bounds fits'
    norm_num
    linarith
  case finite.negative.infinity.negative | finite.negative.infinity.positive
      | finite.negative.notANumber | finite.negative.zero | finite.positive.infinity.negative
      | finite.positive.infinity.positive | finite.positive.notANumber | finite.positive.zero =>
    obtain ⟨above, below⟩ := bounds fits
    norm_num
    linarith
  case infinity.negative.finite.negative | infinity.positive.finite.negative
      | notANumber.finite.negative | zero.finite.negative | infinity.negative.finite.positive
      | infinity.positive.finite.positive | notANumber.finite.positive | zero.finite.positive =>
    obtain ⟨above, below⟩ := bounds fits'
    norm_num
    linarith
  all_goals norm_num <;> linarith

theorem lt_iff_level {a b : Number} (number : a.isNaN = false) (number' : b.isNaN = false) :
    a < b ↔ a.level < b.level := by
  have order := levelOf_lt_iff a.packable_form b.packable_form
  rw [lt_iff, rank_eq, rank_eq, ← order]
  exact ⟨fun less => less.2.2, fun less => ⟨number, number', less⟩⟩

theorem le_iff_level {a b : Number} (number : a.isNaN = false) (number' : b.isNaN = false) :
    a ≤ b ↔ a.level ≤ b.level := by
  have order := levelOf_lt_iff b.packable_form a.packable_form
  rw [le_iff, rank_eq, rank_eq, ← not_lt, ← order, not_lt]
  exact ⟨fun le => le.2.2, fun le => ⟨number, number', le⟩⟩

theorem rational_zero : (0 : Number).rational? = some 0 := by decide +kernel

theorem zero_le_iff {a : Number} : 0 ≤ a ↔ a.isNaN = false ∧ 0 ≤ a.level := by
  constructor
  · intro le
    have number := (le_iff.1 le).2.1
    rw [le_iff_level isNaN_zero number, level_of_rational rational_zero] at le
    exact ⟨number, le⟩
  · rintro ⟨number, le⟩
    rw [le_iff_level isNaN_zero number, level_of_rational rational_zero]
    exact le

theorem beq_iff_level {a b : Number} (number : a.isNaN = false) (number' : b.isNaN = false) :
    (a == b) = true ↔ a.level = b.level := by
  have less := levelOf_lt_iff a.packable_form b.packable_form
  have more := levelOf_lt_iff b.packable_form a.packable_form
  have ranks : a.rank = b.rank ↔ a.level = b.level := by
    rw [rank_eq, rank_eq, le_antisymm_iff, le_antisymm_iff, ← not_lt, ← not_lt, ← less, ← more,
      not_lt, not_lt]
    rfl
  rw [beq_iff, ranks]
  exact ⟨fun same => same.2.2, fun same => ⟨number, number', same⟩⟩

/-! ### Operations -/

/-- A number that is not NaN has a value or is infinite. -/
theorem rational_or_infinite {a : Number} (number : a.isNaN = false) :
    (∃ x, a.rational? = some x) ∨ ∃ s, a.form = .infinity s := by
  rw [isNaN_eq] at number
  rw [rational?]
  cases form : a.form with
  | infinity s => exact .inr ⟨s, rfl⟩
  | notANumber =>
    rw [form] at number
    cases number
  | zero | finite => exact .inl ⟨_, rfl⟩

theorem number_of_infinite {a : Number} {s : Sign} (infinite : a.form = .infinity s) :
    a.isNaN = false := by
  rw [isNaN_eq, infinite]
  rfl

theorem level_of_infinite {a : Number} {s : Sign} (infinite : a.form = .infinity s) :
    a.level = signed s limit := by
  rw [level, infinite]
  rfl

theorem abs_level_le {a : Number} (number : a.isNaN = false) : |a.level| ≤ limit := by
  rcases rational_or_infinite number with ⟨x, value⟩ | ⟨s, infinite⟩
  · rw [level_of_rational value]
    exact (abs_lt_limit value).le
  · rw [level_of_infinite infinite, abs_signed, abs_of_pos limit_pos]

/-- The operation rounds an exact one, and keeps what is infinite. -/
structure Rounds (op : Number → Number) (exact : ℚ → ℚ) : Prop where
  finite : ∀ a x, a.rational? = some x →
    (op a).isNaN = false ∧ (op a).level = clamp (nearest (exact x))
  infinite : ∀ a s, a.form = .infinity s → (op a).form = .infinity s

theorem rounds_add {b : Number} {y : ℚ} (right : b.rational? = some y) :
    Rounds (· + b) (· + y) where
  finite a x left := by
    obtain ⟨written, value⟩ := add_nearest a.packable_form b.packable_form left right
    rw [add_eq (isNaN_of_rational left) (isNaN_of_rational right)]
    exact level_ofForm written value
  infinite a s left := by
    have fits : Packable (.infinity s) := trivial
    have kept : UnpackedFloat.add binary64 a.form b.form = .infinity s := by
      rw [rational?] at right
      rw [left]
      cases form : b.form with
      | infinity | notANumber =>
        rw [form] at right
        cases right
      | zero | finite => rfl
    rw [add_eq (number_of_infinite left) (isNaN_of_rational right), kept, form_ofForm fits]

theorem rounds_div {b : Number} {y : ℚ} (right : b.rational? = some y) (positive : 0 < y) :
    Rounds (· / b) (· / y) where
  finite a x left := by
    obtain ⟨written, value⟩ := div_nearest left right positive
    rw [div_eq (isNaN_of_rational left) (isNaN_of_rational right)]
    exact level_ofForm written value
  infinite a s left := by
    have fits : Packable (.infinity s) := trivial
    have kept : UnpackedFloat.div binary64 a.form b.form = .infinity s := by
      rw [rational?] at right
      rw [left]
      rcases form : b.form with _ | _ | _ | ⟨s', m, e, _⟩ <;> rw [form] at right
      case infinity | notANumber => cases right
      case zero =>
        obtain rfl := Option.some.inj right
        exact absurd rfl positive.ne
      case finite =>
        obtain rfl := Option.some.inj right
        obtain rfl := sign_of_pos positive
        cases s <;> rfl
    rw [div_eq (number_of_infinite left) (isNaN_of_rational right), kept, form_ofForm fits]

theorem level_mul {a b : Number} {x y : ℚ} (left : a.rational? = some x)
    (right : b.rational? = some y) :
    (a * b).isNaN = false ∧ (a * b).level = clamp (nearest (x * y)) := by
  have fits := a.packable_form
  have fits' := b.packable_form
  rw [mul_eq (isNaN_of_rational left) (isNaN_of_rational right)]
  rw [rational?] at left right
  rcases form : a.form with _ | _ | s | ⟨s, m, e, some⟩ <;> rw [form] at left fits
  case infinity | notANumber => cases left
  all_goals
    rcases form' : b.form with _ | _ | s' | ⟨s', m', e', some'⟩ <;> rw [form'] at right fits'
    case infinity | notANumber => cases right
    all_goals
      obtain rfl := Option.some.inj left
      obtain rfl := Option.some.inj right
  case finite.finite =>
    obtain ⟨written, value⟩ := mul_nearest s s' some some' (mul_fine some some' fits.1 fits'.1)
    have product : signed (s * s') (m * m' * 2 ^ (e + e') : ℚ)
        = dyadic (s.apply m) e * dyadic (s'.apply m') e' := by
      rw [dyadic_apply, dyadic_apply, zpow_add₀ two_ne_zero, mul_mul_mul_comm, signed_mul]
    rw [product] at value
    exact level_ofForm written value
  case zero.finite =>
    have written : Written (UnpackedFloat.mul binary64 (.zero s) (.finite s' m' e' some')) := trivial
    rw [zero_mul, nearest_zero]
    exact level_ofForm written rfl
  case finite.zero =>
    have written : Written (UnpackedFloat.mul binary64 (.finite s m e some) (.zero s')) := trivial
    rw [mul_zero, nearest_zero]
    exact level_ofForm written rfl
  case zero.zero =>
    have written : Written (UnpackedFloat.mul binary64 (.zero s) (.zero s')) := trivial
    rw [mul_zero, nearest_zero]
    exact level_ofForm written rfl

theorem rounds_mul {b : Number} {y : ℚ} (right : b.rational? = some y) (positive : 0 < y) :
    Rounds (· * b) (· * y) where
  finite a x left := level_mul left right
  infinite a s left := by
    have fits : Packable (.infinity s) := trivial
    have kept : UnpackedFloat.mul binary64 a.form b.form = .infinity s := by
      rw [rational?] at right
      rw [left]
      rcases form : b.form with _ | _ | _ | ⟨s', m, e, _⟩ <;> rw [form] at right
      case infinity | notANumber => cases right
      case zero =>
        obtain rfl := Option.some.inj right
        exact absurd rfl positive.ne
      case finite =>
        obtain rfl := Option.some.inj right
        obtain rfl := sign_of_pos positive
        cases s <;> rfl
    rw [mul_eq (number_of_infinite left) (isNaN_of_rational right), kept, form_ofForm fits]

section
variable {op op' : Number → Number} {exact exact' : ℚ → ℚ} {a a' : Number}

theorem Rounds.isNaN (rounds : Rounds op exact) (number : a.isNaN = false) :
    (op a).isNaN = false := by
  rcases rational_or_infinite number with ⟨x, value⟩ | ⟨s, infinite⟩
  · exact (rounds.finite a x value).1
  · exact number_of_infinite (rounds.infinite a s infinite)

/-- Where the exact results are in order, so are the rounded ones. -/
theorem Rounds.level_le (rounds : Rounds op exact) (rounds' : Rounds op' exact')
    (le : ∀ x y, x ≤ y → exact x ≤ exact' y) (number : a.isNaN = false)
    (number' : a'.isNaN = false) (below : a.level ≤ a'.level) : (op a).level ≤ (op' a').level := by
  have least := (abs_le.1 (abs_level_le (rounds'.isNaN number'))).1
  have most := (abs_le.1 (abs_level_le (rounds.isNaN number))).2
  have top := limit_pos
  rcases rational_or_infinite number with ⟨x, value⟩ | ⟨_ | _, infinite⟩
  case inr.negative =>
    rw [level_of_infinite (rounds.infinite a _ infinite), signed_negative]
    exact least
  all_goals rcases rational_or_infinite number' with ⟨y, value'⟩ | ⟨_ | _, infinite'⟩
  case inl.inr.positive | inr.positive.inr.positive =>
    rw [level_of_infinite (rounds'.infinite a' _ infinite'), signed_positive]
    exact most
  case inl.inl =>
    rw [level_of_rational value, level_of_rational value'] at below
    rw [(rounds.finite a x value).2, (rounds'.finite a' y value').2]
    exact clamp_mono (nearest_mono (le x y below))
  case inl.inr.negative =>
    rw [level_of_rational value, level_of_infinite infinite', signed_negative] at below
    exact absurd below (abs_lt.1 (abs_lt_limit value)).1.not_ge
  case inr.positive.inl =>
    rw [level_of_infinite infinite, level_of_rational value', signed_positive] at below
    exact absurd below (abs_lt.1 (abs_lt_limit value')).2.not_ge
  case inr.positive.inr.negative =>
    rw [level_of_infinite infinite, level_of_infinite infinite', signed_positive,
      signed_negative] at below
    linarith

/-- An operation that keeps zero and order keeps numbers that are not negative so. -/
theorem Rounds.zero_le (rounds : Rounds op exact) (zero : exact 0 = 0)
    (mono : ∀ x y, x ≤ y → exact x ≤ exact y) (least : 0 ≤ a) : 0 ≤ op a := by
  obtain ⟨number, above⟩ := zero_le_iff.1 least
  rw [← level_of_rational rational_zero] at above
  have below := rounds.level_le rounds mono isNaN_zero number above
  rw [(rounds.finite 0 0 rational_zero).2, zero, (nearest_of_rational rational_zero).1,
    clamp_of_abs_lt (abs_lt_limit rational_zero)] at below
  exact zero_le_iff.2 ⟨rounds.isNaN number, below⟩

/-- An operation that does not lessen what a number stands for does not lessen the number. -/
theorem Rounds.le_level (rounds : Rounds op exact) (number : a.isNaN = false)
    (le : ∀ x, a.rational? = some x → x ≤ exact x) : a.level ≤ (op a).level := by
  rcases rational_or_infinite number with ⟨x, value⟩ | ⟨s, infinite⟩
  · rw [level_of_rational value, (rounds.finite a x value).2]
    exact le_clamp_nearest value (le x value)
  · rw [level_of_infinite infinite, level_of_infinite (rounds.infinite a s infinite)]

end

/-- Half of a sum lies between the bounds of its terms, unless the sum is too large or too small. -/
theorem half_between {a b low high : Number} {x y l h : ℚ} (left : a.rational? = some x)
    (right : b.rational? = some y) (lower : low.rational? = some l)
    (upper : high.rational? = some h) (above : l ≤ x ∧ l ≤ y) (below : x ≤ h ∧ y ≤ h) :
    (low ≤ (a + b) / 2 ∨ ((a + b) / 2).form = .infinity .negative)
      ∧ ((a + b) / 2 ≤ high ∨ ((a + b) / 2).form = .infinity .positive) := by
  have two : (2 : Number).rational? = some 2 := by decide +kernel
  have half := rounds_div two two_pos
  have sum := (rounds_add right).finite a x left
  have number := half.isNaN sum.1
  rw [le_iff_level (isNaN_of_rational lower) number, le_iff_level number (isNaN_of_rational upper),
    level_of_rational lower, level_of_rational upper]
  rcases rational_or_infinite sum.1 with ⟨z, value⟩ | ⟨s, infinite⟩
  · have double := (nearest_of_rational lower).2
    have double' := (nearest_of_rational upper).2
    have inside := abs_lt_limit value
    have exact := sum.2
    rw [level_of_rational value] at exact
    rw [exact] at inside
    rw [clamp_of_abs_clamp_lt inside] at exact
    have least : 2 * l ≤ z := by
      rw [exact, ← double]
      exact nearest_mono (by linarith)
    have most : z ≤ 2 * h := by
      rw [exact, ← double']
      exact nearest_mono (by linarith)
    have rounded : ((a + b) / 2).level = clamp (nearest (z / 2)) := (half.finite _ z value).2
    rw [rounded]
    exact ⟨.inl (le_clamp_nearest lower (by linarith)),
      .inl (clamp_nearest_le upper (by linarith))⟩
  · have kept : ((a + b) / 2).form = .infinity s := half.infinite _ s infinite
    rw [level_of_infinite kept]
    cases s with
    | negative => exact ⟨.inr kept, .inl (abs_lt.1 (abs_lt_limit upper)).1.le⟩
    | positive => exact ⟨.inl (abs_lt.1 (abs_lt_limit lower)).2.le, .inr kept⟩

/-! ### Counts -/

theorem ofForm_of_number {f : UnpackedFloat} (number : (ofForm f).isNaN = false) :
    ofForm f = ofFloat (.ofModel (.pack f)) := by
  unfold ofForm at number ⊢
  simp only at number ⊢
  split at number
  case isTrue =>
    have nan : undefined.isNaN = true := by decide +kernel
    rw [nan] at number
    cases number
  case isFalse plain => exact if_neg plain

/-- A count as a number is the product of two exact ones. -/
theorem toFloat_eq {n : ℕ} (some : 0 < n) : ∃ (m m' : ℕ) (e e' : ℤ) (positive : 0 < m)
    (positive' : 0 < m'), (m * m' * 2 ^ (e + e') : ℚ) = n ∧ e + e' ≤ place n
      ∧ n.toFloat = .ofModel (.pack (UnpackedFloat.mul binary64 (.finite .positive m e positive)
        (.finite .positive m' e' positive'))) := by
  have log : place n = max (n.log2 - 52 : ℤ) (-1074) := by
    rw [place, abs_of_pos (by exact_mod_cast some), Int.log_natCast, Nat.log2_eq_log_two]
  rw [Nat.toFloat, Float.ofNat, OfScientific.ofScientific, instOfScientificFloat]
  simp only [Float.ofScientific]
  split
  case isTrue small =>
    obtain ⟨k, positive, written, rounded⟩ := round_exact some small.1 (e := 0) (by decide) .positive
    have one : (Float.exactlyRepresentablePowersOfTen[0]).toModel.unpack
        = .finite .positive (2 ^ 52) (-52) (by decide) := by rfl
    have whole : n.toUInt64.toNat = n := by
      rw [Nat.toUInt64_eq, UInt64.toNat_ofNat']
      omega
    have count : (n.toUInt64.toFloat).toModel.unpack
        = .finite .positive (n * 2 ^ k) (0 - k) positive := by
      have more : (0 : ℤ) < n := by omega
      show UnpackedFloat.unpack binary64 (UnpackedFloat.pack binary64
        (UnpackedFloat.normalize binary64 (n.toUInt64.toNat : ℤ) 0 .positive)) = _
      rw [whole, UnpackedFloat.normalize, compare_gt_iff_gt.2 more]
      simp only [Int.toNat_natCast, rounded]
      exact unpack_pack ⟨written, by omega⟩
    refine ⟨n * 2 ^ k, 2 ^ 52, 0 - k, -52, positive, by decide, ?_, ?_, ?_⟩
    · rw [zero_sub, ← neg_add, zpow_neg, zpow_add₀ two_ne_zero, zpow_natCast]
      push_cast
      field_simp
    · omega
    · show Float.ofModel (.pack (UnpackedFloat.mul binary64 n.toUInt64.toFloat.toModel.unpack
        (Float.exactlyRepresentablePowersOfTen[0]).toModel.unpack)) = _
      rw [count, one]
  case isFalse =>
    have positive : 0 < n <<< 53 := by
      rw [Nat.shiftLeft_eq]
      positivity
    refine ⟨n <<< 53, 1, -53, 0, positive, by decide, ?_, ?_, ?_⟩
    · rw [Nat.shiftLeft_eq, add_zero, zpow_neg]
      push_cast
      field_simp
    · omega
    · have scientific : UnpackedFloat.ofScientific binary64 n 0
          = UnpackedFloat.mul binary64 (.finite .positive (n <<< 53) (-53) positive)
            (.finite .positive 1 0 (by decide)) := by
        have power : (0 : ℤ) ≤ 2 ^ binary64.exponentBits := by decide
        unfold UnpackedFloat.ofScientific
        rw [dif_neg some.ne', if_neg (by decide), if_neg (by omega), if_pos le_rfl]
        rfl
      exact congrArg (fun f => Float.ofModel (.pack f)) scientific

/-- A count as a number is the nearest one. -/
theorem rational_toFloat {n : ℕ} (some : 0 < n) (bound : n < UInt64.size) :
    (ofFloat n.toFloat).rational? = Option.some (nearest n) := by
  obtain ⟨m, m', e, e', positive, positive', value, fine, product⟩ := toFloat_eq some
  rw [← value] at fine
  obtain ⟨written, rounded⟩ := mul_nearest .positive .positive positive positive' fine
  have plain : signed (.positive * .positive) (n : ℚ) = n := rfl
  rw [value, plain] at rounded
  obtain ⟨number, level⟩ := level_ofForm written rounded
  have size : |nearest n| < limit := by
    have most : nearest (dyadic 1 64) = dyadic 1 64 := nearest_dyadic (by decide) (by decide)
    have le : (n : ℚ) ≤ dyadic 1 64 := by
      rw [dyadic, Int.cast_one, one_mul]
      exact_mod_cast bound.le
    have below : dyadic 1 64 < limit := by
      rw [dyadic, Int.cast_one, one_mul, limit, ← zpow_natCast]
      exact zpow_lt_zpow_right₀ one_lt_two (by decide)
    rw [abs_of_nonneg (nearest_nonneg n.cast_nonneg)]
    exact (most ▸ nearest_mono le).trans_lt below
  rw [clamp_of_abs_lt size] at level
  rw [← level] at size
  rw [product, ← ofForm_of_number number, rational_of_level number size, level]

/-! ### Sums -/

/-- The terms of two sums in order, all with a value. -/
def TermsLE (values values' : List Number) : Prop :=
  List.Forall₂ (fun a b => ∃ x y, a.rational? = some x ∧ b.rational? = some y ∧ x ≤ y)
    values values'

theorem foldl_mono {values values' : List Number} (terms : TermsLE values values')
    {start start' : Number} (number : start.isNaN = false) (number' : start'.isNaN = false)
    (below : start.level ≤ start'.level) :
    (values.foldl (· + ·) start).isNaN = false ∧ (values'.foldl (· + ·) start').isNaN = false
      ∧ (values.foldl (· + ·) start).level ≤ (values'.foldl (· + ·) start').level := by
  induction terms generalizing start start' with
  | nil => exact ⟨number, number', below⟩
  | cons first _ ih =>
    obtain ⟨x, y, left, right, le⟩ := first
    have rounds := rounds_add left
    have rounds' := rounds_add right
    have next := rounds.level_le rounds' (fun _ _ le' => add_le_add le' le) number number' below
    exact ih (rounds.isNaN number) (rounds'.isNaN number') next

/-- A sum does not fall where its terms rise. -/
theorem sum_mono {values values' : List Number} (terms : TermsLE values values') :
    (sum values).isNaN = false ∧ (sum values').isNaN = false
      ∧ (sum values).level ≤ (sum values').level := by
  have start : (-0 : Number).isNaN = false := by decide +kernel
  exact foldl_mono terms start start le_rfl

end UsageReport.Number
