import Mathlib
import UsageReport.Proofs.Number.Order
import UsageReport.Proofs.Number.Packing

/-! Arithmetic of numbers and that of the rational numbers they stand for. A sum or a difference is
the rounded exact one, so that it depends on the exact one alone. Nothing is rounded where the exact
result is a multiple of a power of two by at most `2 ^ 53`, and then the order of the terms of a sum
does not matter. -/

namespace UsageReport.Number

open Float.Model (UnpackedFloat)
open Float.Model.Format (binary64)
open Float.Model.UnpackedFloat (Sign packComponents)

/-! ### Values -/

/-- The value of a form, none for infinities and NaN. -/
def rationalOf : UnpackedFloat → Option ℚ
  | .zero _ => some 0
  | .finite s m e _ => some (dyadic (s.apply m) e)
  | .infinity _ | .notANumber => none

def rational? (a : Number) : Option ℚ := rationalOf a.form

theorem isNaN_of_rational {a : Number} {x : ℚ} (h : a.rational? = some x) : a.isNaN = false := by
  rw [isNaN_eq]
  rw [rational?] at h
  cases form : a.form with
  | notANumber =>
    rw [form] at h
    cases h
  | _ => rfl

theorem rational_of_isFinite {a : Number} (finite : a.value.isFinite) :
    ∃ x, a.rational? = some x := by
  have known : a.form.isFinite = true := a.unpack_value ▸ finite
  rw [rational?]
  cases form : a.form with
  | infinity | notANumber =>
    rw [form] at known
    cases known
  | zero | finite => exact ⟨_, rfl⟩

theorem dyadic_shiftLeft (s : Sign) (m : ℕ) {e e' : ℤ} (le : e' ≤ e) :
    dyadic (s.apply (m <<< (e - e').toNat : ℕ)) e' = dyadic (s.apply m) e := by
  have exponent : e' = e - (e - e').toNat := by omega
  have scaled : s.apply (m <<< (e - e').toNat : ℕ) = s.apply m * 2 ^ (e - e').toNat := by
    rw [Nat.shiftLeft_eq]
    cases s <;> simp [Sign.apply]
  rw [scaled, ← dyadic_scale (s.apply m) e (e - e').toNat, ← exponent]

theorem dyadic_add (m n e : ℤ) : dyadic (m + n) e = dyadic m e + dyadic n e := by
  rw [dyadic, dyadic, dyadic, Int.cast_add, add_mul]

theorem dyadic_sub (m n e : ℤ) : dyadic (m - n) e = dyadic m e - dyadic n e := by
  rw [dyadic, dyadic, dyadic, Int.cast_sub, sub_mul]

theorem dyadic_neg (m e : ℤ) : dyadic (-m) e = -dyadic m e := by
  rw [dyadic, dyadic, Int.cast_neg, neg_mul]

theorem dyadic_zero (e : ℤ) : dyadic 0 e = 0 := by
  rw [dyadic, Int.cast_zero, zero_mul]

theorem apply_neg (s : Sign) (m : ℤ) : (-s).apply m = -s.apply m := by
  cases s with
  | negative => exact (Int.neg_neg m).symm
  | positive => rfl

theorem normalize_canonical {s : Sign} {m : ℕ} {e : ℤ} (positive : 0 < m)
    (written : Canonical m e) (z : Sign) :
    UnpackedFloat.normalize binary64 (s.apply m) e z = .finite s m e positive := by
  cases s with
  | negative =>
    have less : -(m : ℤ) < 0 := by omega
    rw [UnpackedFloat.normalize, Sign.apply, compare_lt_iff_lt.2 less]
    simp only [Int.neg_neg, Int.toNat_natCast]
    exact round_of_canonical written positive .negative
  | positive =>
    have more : (0 : ℤ) < m := by omega
    rw [UnpackedFloat.normalize, Sign.apply, compare_gt_iff_gt.2 more]
    simp only [Int.toNat_natCast]
    exact round_of_canonical written positive .positive

/-- A sum of forms is the rounded sum of their values, save for the sign of a zero. -/
theorem add_forms {f g : UnpackedFloat} (fits : Packable f) (fits' : Packable g) {x y : ℚ}
    (left : rationalOf f = some x) (right : rationalOf g = some y) :
    (∃ s, UnpackedFloat.add binary64 f g = .zero s ∧ x + y = 0)
    ∨ ∃ m e, dyadic m e = x + y
      ∧ UnpackedFloat.add binary64 f g = UnpackedFloat.normalize binary64 m e .positive := by
  rcases f with _ | _ | s | ⟨s, m, e, positive⟩
  case infinity | notANumber => cases left
  all_goals obtain rfl := Option.some.inj left
  all_goals rcases g with _ | _ | s' | ⟨s', m', e', positive'⟩
  case zero.infinity | zero.notANumber | finite.infinity | finite.notANumber => cases right
  all_goals obtain rfl := Option.some.inj right
  case zero.zero =>
    left
    cases s <;> cases s' <;> exact ⟨_, rfl, add_zero 0⟩
  case zero.finite =>
    right
    exact ⟨_, _, (zero_add _).symm, (normalize_canonical positive' fits'.1 _).symm⟩
  case finite.zero =>
    right
    exact ⟨_, _, (add_zero _).symm, (normalize_canonical positive fits.1 _).symm⟩
  case finite.finite =>
    right
    refine ⟨_, _, ?_, rfl⟩
    rw [dyadic_add, dyadic_shiftLeft s m (min_le_left e e'),
      dyadic_shiftLeft s' m' (min_le_right e e')]

/-- A difference of forms is the rounded difference of their values. -/
theorem sub_forms {f g : UnpackedFloat} (fits : Packable f) (fits' : Packable g) {x y : ℚ}
    (left : rationalOf f = some x) (right : rationalOf g = some y) (plain : f ≠ .zero .negative) :
    ∃ m e, dyadic m e = x - y
      ∧ UnpackedFloat.sub binary64 f g = UnpackedFloat.normalize binary64 m e .positive := by
  rcases f with _ | _ | s | ⟨s, m, e, positive⟩
  case infinity | notANumber => cases left
  all_goals obtain rfl := Option.some.inj left
  all_goals rcases g with _ | _ | s' | ⟨s', m', e', positive'⟩
  case zero.infinity | zero.notANumber | finite.infinity | finite.notANumber => cases right
  all_goals obtain rfl := Option.some.inj right
  case zero.zero =>
    refine ⟨0, 0, by rw [dyadic_zero, sub_zero], ?_⟩
    cases s with
    | negative => exact absurd rfl plain
    | positive => cases s' <;> rfl
  case zero.finite =>
    refine ⟨(-s').apply m', e', ?_, (normalize_canonical positive' fits'.1 _).symm⟩
    rw [apply_neg, dyadic_neg, zero_sub]
  case finite.zero =>
    exact ⟨_, _, (sub_zero _).symm, (normalize_canonical positive fits.1 _).symm⟩
  case finite.finite =>
    refine ⟨_, _, ?_, rfl⟩
    rw [dyadic_sub, dyadic_shiftLeft s m (min_le_left e e'),
      dyadic_shiftLeft s' m' (min_le_right e e')]

/-- A difference depends on the exact one alone, as long as it is not taken from `-0`. -/
theorem sub_congr {a b a' b' : Number} {x y x' y' : ℚ} (left : a.rational? = some x)
    (right : b.rational? = some y) (left' : a'.rational? = some x')
    (right' : b'.rational? = some y') (plain : a.form ≠ .zero .negative)
    (plain' : a'.form ≠ .zero .negative) (same : x - y = x' - y') : a - b = a' - b' := by
  obtain ⟨m, e, value, made⟩ :=
    sub_forms a.packable_form b.packable_form left right plain
  obtain ⟨m', e', value', made'⟩ :=
    sub_forms a'.packable_form b'.packable_form left' right' plain'
  rw [sub_eq (isNaN_of_rational left) (isNaN_of_rational right), made,
    sub_eq (isNaN_of_rational left') (isNaN_of_rational right'), made',
    normalize_congr (value.trans (same.trans value'.symm))]

/-- What is subtracted counts by its value alone. -/
theorem sub_congr_right {a b b' : Number} {y : ℚ} (right : b.rational? = some y)
    (right' : b'.rational? = some y) (plain : a.form ≠ .zero .negative) : a - b = a - b' := by
  have number := isNaN_of_rational right
  have number' := isNaN_of_rational right'
  cases value : a.rational? with
  | some x => exact sub_congr value right value right' plain plain rfl
  | none =>
    cases nan : a.isNaN with
    | true =>
      show lift (· - ·) a b = lift (· - ·) a b'
      rw [lift, lift, nan, if_pos rfl, if_pos rfl]
    | false =>
      rw [sub_eq nan number, sub_eq nan number']
      rw [isNaN_eq] at nan
      rw [rational?] at value right right'
      rcases form : a.form with s | _ | _ | _
      case notANumber =>
        rw [form] at nan
        cases nan
      case zero | finite =>
        rw [form] at value
        cases value
      case infinity =>
        have absorbs (g : UnpackedFloat) (finite : rationalOf g = some y) :
            UnpackedFloat.sub binary64 (.infinity s) g = .infinity s := by
          cases g with
          | infinity | notANumber => cases finite
          | zero | finite => rfl
        rw [absorbs _ right, absorbs _ right']

/-! ### Exact results -/

theorem round_fits (s : Sign) {m : ℕ} {e : ℤ} (positive : 0 < m) (fits : m ≤ 2 ^ 53)
    (least : -1074 ≤ e) (most : e ≤ 970) :
    ∃ (m' : ℕ) (e' : ℤ) (positive' : 0 < m'), Canonical m' e' ∧ e' ≤ 971
      ∧ dyadic (s.apply m') e' = dyadic (s.apply m) e
      ∧ UnpackedFloat.round binary64 s m e = .finite s m' e' positive' := by
  rcases fits.lt_or_eq with small | rfl
  · obtain ⟨k, positive', written, rounded⟩ := round_exact positive small least s
    have scaled : s.apply (m * 2 ^ k : ℕ) = s.apply m * 2 ^ k := by
      cases s <;> simp [Sign.apply]
    refine ⟨_, _, positive', written, by omega, ?_, rounded⟩
    rw [scaled, dyadic_scale]
  · -- The significand of 54 bits is a power of two, which one bit less can write.
    have written : Canonical (2 ^ 52) (e + 1) := ⟨by decide, by omega, .inl le_rfl⟩
    have halved := round_scale s (m := 2 ^ 52) (by decide) (e + 1) 1
    have value := dyadic_scale (s.apply (2 ^ 52)) (e + 1) 1
    rw [Nat.cast_one, add_sub_cancel_right] at halved value
    refine ⟨2 ^ 52, e + 1, by decide, written, by omega, ?_, ?_⟩
    · cases s <;> exact value.symm
    · exact halved.trans (round_of_canonical written _ s)

/-- A multiple of a power of two by at most `2 ^ 53` is not rounded. -/
theorem normalize_fits {m e : ℤ} (fits : m.natAbs ≤ 2 ^ 53) (least : -1074 ≤ e) (most : e ≤ 970)
    (z : Sign) : Packable (UnpackedFloat.normalize binary64 m e z)
      ∧ rationalOf (UnpackedFloat.normalize binary64 m e z) = some (dyadic m e)
      ∧ ∀ s, UnpackedFloat.normalize binary64 m e z = .zero s → s = z := by
  rcases lt_trichotomy m 0 with less | rfl | more
  · obtain ⟨m', e', positive, written, high, value, rounded⟩ :=
      round_fits .negative (m := (-m).toNat) (by omega) (by omega) least most
    have back : Sign.negative.apply ((-m).toNat : ℤ) = m := by
      rw [Sign.apply]
      omega
    rw [UnpackedFloat.normalize, compare_lt_iff_lt.2 less]
    simp only [rounded, rationalOf, value, back]
    exact ⟨⟨written, high⟩, trivial, fun _ same => UnpackedFloat.noConfusion same⟩
  · refine ⟨trivial, congrArg some (dyadic_zero e).symm, fun s same => ?_⟩
    exact (UnpackedFloat.zero.inj same).symm
  · obtain ⟨m', e', positive, written, high, value, rounded⟩ :=
      round_fits .positive (m := m.toNat) (by omega) (by omega) least most
    have back : Sign.positive.apply (m.toNat : ℤ) = m := by
      rw [Sign.apply]
      omega
    rw [UnpackedFloat.normalize, compare_gt_iff_gt.2 more]
    simp only [rounded, rationalOf, value, back]
    exact ⟨⟨written, high⟩, trivial, fun _ same => UnpackedFloat.noConfusion same⟩

theorem rational_add {a b : Number} {k l e : ℤ} (left : a.rational? = some (dyadic k e))
    (right : b.rational? = some (dyadic l e)) (least : -1074 ≤ e) (most : e ≤ 970)
    (fits : (k + l).natAbs ≤ 2 ^ 53) : (a + b).rational? = some (dyadic (k + l) e) := by
  rw [add_eq (isNaN_of_rational left) (isNaN_of_rational right), dyadic_add, rational?]
  obtain ⟨s, zero, none⟩ | ⟨m, e', value, rounded⟩ :=
    add_forms a.packable_form b.packable_form left right
  · have packable : Packable (.zero s) := trivial
    rw [zero, form_ofForm packable, none]
    rfl
  · rw [← dyadic_add] at value ⊢
    obtain ⟨packable, exact, -⟩ := normalize_fits fits least most .positive
    rw [rounded, normalize_congr value, form_ofForm packable, exact]

theorem rational_sub {a b : Number} {k l e : ℤ} (left : a.rational? = some (dyadic k e))
    (right : b.rational? = some (dyadic l e)) (plain : a.form ≠ .zero .negative)
    (least : -1074 ≤ e) (most : e ≤ 970) (fits : (k - l).natAbs ≤ 2 ^ 53) :
    (a - b).rational? = some (dyadic (k - l) e) ∧ (a - b).form ≠ .zero .negative := by
  obtain ⟨m, e', value, rounded⟩ := sub_forms a.packable_form b.packable_form left right plain
  obtain ⟨packable, exact, sign⟩ := normalize_fits fits least most .positive
  rw [← dyadic_sub] at value
  rw [sub_eq (isNaN_of_rational left) (isNaN_of_rational right), rational?, rounded,
    normalize_congr value, form_ofForm packable]
  exact ⟨exact, fun zero => Sign.noConfusion (sign .negative zero)⟩

/-- The values are multiples of one power of two, and neither the first one less the second nor the
second and the third one together is rounded. -/
def Unrounded (a b d : Number) : Prop :=
  ∃ e k l m : ℤ, -1074 ≤ e ∧ e ≤ 970 ∧ a.rational? = some (dyadic k e)
    ∧ b.rational? = some (dyadic l e) ∧ d.rational? = some (dyadic m e)
    ∧ (k - l).natAbs ≤ 2 ^ 53 ∧ (l + m).natAbs ≤ 2 ^ 53

/-- Two values are subtracted one by one or together. -/
theorem sub_sub_of_unrounded {a b d : Number} (exact : Unrounded a b d)
    (plain : a.form ≠ .zero .negative) : a - b - d = a - (b + d) := by
  obtain ⟨e, k, l, m, least, most, value, value', value'', fits, fits'⟩ := exact
  obtain ⟨difference, plain'⟩ := rational_sub value value' plain least most fits
  have total := rational_add value' value'' least most fits'
  refine sub_congr difference value'' value total plain' plain ?_
  rw [dyadic_sub, dyadic_add, sub_sub]

/-! ### Sums -/

/-- The values are multiples of a power of two, and all multiples together are at most `2 ^ 53`. -/
structure Counted (e : ℤ) (count : Number → ℤ) (values : List Number) : Prop where
  least : -1074 ≤ e
  most : e ≤ 970
  value : ∀ a ∈ values, a.rational? = some (dyadic (count a) e)
  total : (values.map fun a => (count a).natAbs).sum ≤ 2 ^ 53

theorem rational_foldl {e : ℤ} {count : Number → ℤ} (least : -1074 ≤ e) (most : e ≤ 970)
    {values : List Number} (value : ∀ a ∈ values, a.rational? = some (dyadic (count a) e))
    {start : Number} {k : ℤ} (known : start.rational? = some (dyadic k e))
    (fits : k.natAbs + (values.map fun a => (count a).natAbs).sum ≤ 2 ^ 53) :
    (values.foldl (· + ·) start).rational? = some (dyadic (k + (values.map count).sum) e) := by
  induction values generalizing start k with
  | nil => rw [List.map_nil, List.sum_nil, add_zero, List.foldl_nil, known]
  | cons a values ih =>
    rw [List.map_cons, List.sum_cons] at fits
    have next := rational_add known (value a List.mem_cons_self) least most (by omega)
    rw [List.foldl_cons, List.map_cons, List.sum_cons, ← add_assoc]
    exact ih (fun b inside => value b (List.mem_cons_of_mem a inside)) next (by omega)

/-- The sum of such values is exact. -/
theorem Counted.sum {e : ℤ} {count : Number → ℤ} {values : List Number}
    (counted : Counted e count values) :
    (Number.sum values).rational? = some (dyadic (values.map count).sum e) := by
  have start : (-0 : Number).rational? = some (dyadic 0 e) := by
    rw [dyadic_zero]
    decide +kernel
  have fits : (0 : ℤ).natAbs + (values.map fun a => (count a).natAbs).sum ≤ 2 ^ 53 := by
    have total := counted.total
    omega
  have whole := rational_foldl counted.least counted.most counted.value start fits
  rwa [zero_add] at whole

theorem Counted.perm {e : ℤ} {count : Number → ℤ} {values values' : List Number}
    (counted : Counted e count values) (same : values.Perm values') :
    Counted e count values' where
  least := counted.least
  most := counted.most
  value a inside := counted.value a (same.mem_iff.2 inside)
  total := (same.map fun a => (count a).natAbs).sum_eq ▸ counted.total

/-- The sum of such values does not depend on their order, save for the sign of a zero. -/
theorem Counted.sum_perm {e : ℤ} {count : Number → ℤ} {values values' : List Number}
    (counted : Counted e count values) (same : values.Perm values') :
    (Number.sum values').rational? = (Number.sum values).rational? := by
  rw [counted.sum, (counted.perm same).sum, (same.map count).sum_eq]

/-- The sum of the values is exact, whatever their order. -/
def Exact (values : List Number) : Prop := ∃ e count, Counted e count values

/-- What such a sum leaves of a limit does not depend on the order of the values. -/
theorem Exact.sub_sum {limit : Number} (plain : limit.form ≠ .zero .negative)
    {values values' : List Number} (exact : Exact values) (same : values.Perm values') :
    limit - Number.sum values = limit - Number.sum values' := by
  obtain ⟨e, count, counted⟩ := exact
  have total := counted.sum
  exact sub_congr_right total ((counted.sum_perm same).trans total) plain

/-! ### Signs -/

/-- The value is not below zero and not `-0`. -/
def Plain : UnpackedFloat → Prop
  | .infinity s | .zero s | .finite s _ _ _ => s = .positive
  | .notANumber => True

theorem plain_unpack_pack {f : UnpackedFloat} (plain : Plain f) :
    Plain (UnpackedFloat.unpack binary64 (UnpackedFloat.pack binary64 f)) := by
  have components (exponent : BitVec 11) (mantissa : BitVec 52) : Plain
      (UnpackedFloat.unpack binary64 (packComponents binary64 .positive exponent mantissa)) := by
    rw [unpack_components]
    split_ifs <;> trivial
  match f, plain with
  | .infinity _, rfl => exact components _ _
  | .notANumber, _ => trivial
  | .zero _, rfl => exact components _ _
  | .finite _ m e _, rfl =>
    simp only [UnpackedFloat.pack]
    split_ifs <;> exact components _ _

theorem plain_ofForm {f : UnpackedFloat} (plain : Plain f) : Plain (ofForm f).form := by
  simp only [ofForm]
  split
  case isTrue => trivial
  case isFalse => exact plain_unpack_pack plain

theorem plain_of_pos {a : Number} (positive : 0 < a) : Plain a.form := by
  obtain ⟨-, -, above⟩ := lt_iff.1 positive
  rw [rank_zero, rank_eq] at above
  rcases form : a.form with (_ | _) | _ | (_ | _) | ⟨_ | _, m, e, _⟩ <;>
    simp_all [rankOf, Prod.Lex.lt_iff, Plain]

theorem plain_roundWithAccuracy (m : ℕ) (e : ℤ) :
    Plain (UnpackedFloat.roundWithAccuracy binary64 .positive m e .exact) := by
  simp only [UnpackedFloat.roundWithAccuracy]
  split <;> rfl

theorem Plain.mul {f g : UnpackedFloat} (plain : Plain f) (plain' : Plain g) :
    Plain (UnpackedFloat.mul binary64 f g) := by
  match f, plain, g, plain' with
  | .notANumber, _, .notANumber, _ => trivial
  | .notANumber, _, .infinity _, _ | .notANumber, _, .zero _, _ => trivial
  | .notANumber, _, .finite .., _ => trivial
  | .infinity _, rfl, .notANumber, _ | .zero _, rfl, .notANumber, _ => trivial
  | .finite .., rfl, .notANumber, _ => trivial
  | .infinity _, rfl, .infinity _, rfl | .infinity _, rfl, .finite .., rfl => rfl
  | .finite .., rfl, .infinity _, rfl | .finite .., rfl, .zero _, rfl => rfl
  | .infinity _, rfl, .zero _, rfl | .zero _, rfl, .infinity _, rfl => trivial
  | .zero _, rfl, .finite .., rfl | .zero _, rfl, .zero _, rfl => rfl
  | .finite .., rfl, .finite .., rfl => exact plain_roundWithAccuracy _ _

theorem plain_mul {a b : Number} (left : 0 < a) (right : 0 < b) : Plain (a * b).form := by
  rw [mul_eq (lt_iff.1 left).2.1 (lt_iff.1 right).2.1]
  exact plain_ofForm ((plain_of_pos left).mul (plain_of_pos right))

theorem Plain.ne {f : UnpackedFloat} (plain : Plain f) : f ≠ .zero .negative := by
  rintro rfl
  cases plain

end UsageReport.Number
