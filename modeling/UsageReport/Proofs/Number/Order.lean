import Mathlib
import UsageReport.Number.Order
import UsageReport.Proofs.Number.Packing

/-! The order of numbers by value. Numbers that are not NaN stand in the order of their ranks, in
which zeros of either sign are equal, so that one of some numbers is the largest. -/

namespace UsageReport.Number

open Float.Model (UnpackedFloat)
open Float.Model.UnpackedFloat (Sign)

/-! ### Ranks -/

/-- The sign of a value and whether it is infinite, then its exponent, then its significand, the
last two in the opposite order for negative values. -/
def rankOf : UnpackedFloat → ℤ ×ₗ ℤ ×ₗ ℤ
  | .infinity .negative => toLex (-2, toLex (0, 0))
  | .finite .negative m e _ => toLex (-1, toLex (-e, -m))
  | .zero _ | .notANumber => toLex (0, toLex (0, 0))
  | .finite .positive m e _ => toLex (1, toLex (e, m))
  | .infinity .positive => toLex (2, toLex (0, 0))

theorem then_eq_lt_iff (e e' : ℤ) (m m' : ℕ) :
    (compare e e').then (compare m m') = .lt ↔ e < e' ∨ e = e' ∧ m < m' := by
  rw [Ordering.then_eq_lt, compare_lt_iff_lt, compare_eq_iff_eq, compare_lt_iff_lt]

theorem then_eq_gt_iff (e e' : ℤ) (m m' : ℕ) :
    (compare e e').then (compare m m') = .gt ↔ e' < e ∨ e = e' ∧ m' < m := by
  rw [Ordering.then_eq_gt, compare_gt_iff_gt, compare_eq_iff_eq, compare_gt_iff_gt]

theorem compare_signs : compare Sign.negative .negative = .eq
    ∧ compare Sign.negative .positive = .lt ∧ compare Sign.positive .negative = .gt
    ∧ compare Sign.positive .positive = .eq := ⟨rfl, rfl, rfl, rfl⟩

theorem compare_eq_lt_iff (a b : UnpackedFloat) : a.compare b = some .lt
    ↔ a.isNaN = false ∧ b.isNaN = false ∧ rankOf a < rankOf b := by
  -- The forms of a value are infinity, NaN, zero and a finite one; all but NaN have a sign.
  rcases a with (_ | _) | _ | _ | ⟨_ | _, m, e, _⟩ <;>
    rcases b with (_ | _) | _ | _ | ⟨_ | _, m', e', _⟩ <;>
    simp [UnpackedFloat.compare, UnpackedFloat.isNaN, rankOf, Prod.Lex.lt_iff, compare_signs,
      then_eq_lt_iff, then_eq_gt_iff]

theorem compare_isLE_iff (a b : UnpackedFloat) : (a.compare b).any Ordering.isLE = true
    ↔ a.isNaN = false ∧ b.isNaN = false ∧ rankOf a ≤ rankOf b := by
  rcases a with (_ | _) | _ | _ | ⟨_ | _, m, e, _⟩ <;>
    rcases b with (_ | _) | _ | _ | ⟨_ | _, m', e', _⟩ <;>
    simp [UnpackedFloat.compare, UnpackedFloat.isNaN, rankOf, Prod.Lex.le_iff, compare_signs,
      Ordering.isLE_iff_ne_gt, Ordering.isGE_iff_ne_lt, then_eq_lt_iff, then_eq_gt_iff] <;>
    omega

theorem compare_eq_eq_iff (a b : UnpackedFloat) : a.compare b = some .eq
    ↔ a.isNaN = false ∧ b.isNaN = false ∧ rankOf a = rankOf b := by
  rcases a with (_ | _) | _ | _ | ⟨_ | _, m, e, _⟩ <;>
    rcases b with (_ | _) | _ | _ | ⟨_ | _, m', e', _⟩ <;>
    simp [UnpackedFloat.compare, UnpackedFloat.isNaN, rankOf, compare_signs,
      Ordering.then_eq_eq]

def rank (a : Number) : ℤ ×ₗ ℤ ×ₗ ℤ := rankOf a.value.toModel.unpack

theorem lt_iff {a b : Number} :
    a < b ↔ a.isNaN = false ∧ b.isNaN = false ∧ a.rank < b.rank := by
  have compared : a < b ↔ a.value.toModel.unpack.compare b.value.toModel.unpack = some .lt := by
    show (decide _ : Bool) = true ↔ _
    rw [decide_eq_true_iff]
    show (_ == _) = true ↔ _
    rw [beq_iff_eq]
  rw [compared, compare_eq_lt_iff]
  rfl

theorem le_iff {a b : Number} :
    a ≤ b ↔ a.isNaN = false ∧ b.isNaN = false ∧ a.rank ≤ b.rank := by
  have compared : a ≤ b ↔
      (a.value.toModel.unpack.compare b.value.toModel.unpack).any Ordering.isLE = true := by
    show (decide _ : Bool) = true ↔ _
    rw [decide_eq_true_iff]
    rfl
  rw [compared, compare_isLE_iff]
  rfl

theorem beq_iff {a b : Number} :
    (a == b) = true ↔ a.isNaN = false ∧ b.isNaN = false ∧ a.rank = b.rank := by
  have compared : (a == b) = true ↔
      a.value.toModel.unpack.compare b.value.toModel.unpack = some .eq := by
    show (a.value.toModel.unpack.compare b.value.toModel.unpack == some .eq) = true ↔ _
    rw [beq_iff_eq]
  rw [compared, compare_eq_eq_iff]
  rfl

theorem rank_eq (a : Number) : a.rank = rankOf a.form := congrArg rankOf a.unpack_value

theorem rank_zero : (0 : Number).rank = toLex (0, toLex (0, 0)) := rfl

/-- Forms of one rank are equal, save for zeros of different sign and NaN. -/
theorem rankOf_inj {f g : UnpackedFloat} (above : toLex (0, toLex (0, 0)) < rankOf f)
    (same : rankOf f = rankOf g) : f = g := by
  rcases f with (_ | _) | _ | _ | ⟨_ | _, m, e, _⟩ <;>
    rcases g with (_ | _) | _ | _ | ⟨_ | _, m', e', _⟩ <;>
    simp_all [rankOf, Prod.Lex.lt_iff]

/-- A positive number is known by its place in the order. -/
theorem eq_of_not_lt {a b : Number} (positive : 0 < a) (number : b.isNaN = false)
    (least : ¬ a < b) (least' : ¬ b < a) : a = b := by
  rw [lt_iff] at positive least least'
  obtain ⟨-, number', above⟩ := positive
  rw [rank_zero, rank_eq] at above
  have same : rankOf a.form = rankOf b.form := by
    rw [← rank_eq, ← rank_eq]
    apply le_antisymm
    · exact not_lt.1 fun less => least' ⟨number, number', less⟩
    · exact not_lt.1 fun less => least ⟨number', number, less⟩
  exact eq_of_form_eq number' (rankOf_inj above same)

theorem lt_irrefl (a : Number) : ¬ a < a := by
  rw [lt_iff]
  rintro ⟨-, -, less⟩
  exact less.false

theorem lt_asymm {a b : Number} (less : a < b) : ¬ b < a := by
  rw [lt_iff] at less ⊢
  rintro ⟨-, -, more⟩
  exact less.2.2.asymm more

theorem lt_of_lt_of_not_lt {a b c : Number} (less : a < b) (number : c.isNaN = false)
    (least : ¬ c < b) : a < c := by
  rw [lt_iff] at less least ⊢
  obtain ⟨numberA, numberB, less⟩ := less
  refine ⟨numberA, number, less.trans_le ?_⟩
  by_contra other
  exact least ⟨number, numberB, not_le.1 other⟩

/-! ### The largest of some numbers -/

/-- One of the values, not NaN, than which no other is larger. -/
structure Largest (values : List Number) (a : Number) : Prop where
  mem : a ∈ values
  number : a.isNaN = false
  above : ∀ b ∈ values, ¬ a < b

theorem largest_larger {a : Number} (number : a.isNaN = false) (b : Number) :
    Largest [a, b] (larger a b) := by
  unfold larger
  rw [number, if_neg Bool.false_ne_true]
  split
  case isTrue nan =>
    refine ⟨by simp, number, ?_⟩
    simp [lt_iff, nan]
  case isFalse number' =>
    rw [Bool.not_eq_true] at number'
    split
    case isTrue less =>
      exact ⟨by simp, number', by simp [lt_irrefl, lt_asymm less]⟩
    case isFalse least => exact ⟨by simp, number, by simp [lt_irrefl, least]⟩

/-- Numbers that are taken up one by one, the first of them not NaN, leave the largest. -/
theorem largest_foldl {a : Number} (number : a.isNaN = false) (values : List Number) :
    Largest (a :: values) (values.foldl larger a) := by
  induction values generalizing a with
  | nil => exact ⟨by simp, number, by simp [lt_irrefl]⟩
  | cons b values ih =>
    have first := largest_larger number b
    have rest := ih first.number
    rw [List.foldl_cons]
    constructor
    case mem =>
      rcases List.mem_cons.1 rest.mem with same | inside
      · rw [same]
        exact List.mem_append_left values first.mem
      · exact List.mem_cons_of_mem _ (List.mem_cons_of_mem _ inside)
    case number => exact rest.number
    case above =>
      have least := rest.above _ List.mem_cons_self
      have both (x : Number) (inside : x ∈ [a, b]) : ¬ values.foldl larger (larger a b) < x :=
        fun less => least (lt_of_lt_of_not_lt less first.number (first.above x inside))
      rw [List.forall_mem_cons, List.forall_mem_cons]
      refine ⟨both a (by simp), both b (by simp), fun x inside => ?_⟩
      exact rest.above x (List.mem_cons_of_mem _ inside)

theorem isNaN_zero : (0 : Number).isNaN = false := by decide +kernel

/-- The largest of zero and some numbers is zero itself or positive. -/
theorem foldl_larger_zero (values : List Number) :
    values.foldl larger 0 = 0 ∨ 0 < values.foldl larger 0 := by
  suffices all : ∀ a : Number, a = 0 ∨ 0 < a →
      values.foldl larger a = 0 ∨ 0 < values.foldl larger a from all 0 (.inl rfl)
  induction values with
  | nil => exact fun a known => known
  | cons b values ih =>
    intro a known
    apply ih
    have number : a.isNaN = false := by
      rcases known with rfl | positive
      · exact isNaN_zero
      · exact (lt_iff.1 positive).2.1
    rw [larger, number, if_neg Bool.false_ne_true]
    split
    case isTrue => exact known
    case isFalse number' =>
      rw [Bool.not_eq_true] at number'
      split
      case isTrue less =>
        right
        rcases known with rfl | positive
        · exact less
        · exact lt_of_lt_of_not_lt positive number' (lt_asymm less)
      case isFalse => exact known

/-- The largest of zero and some numbers does not depend on their order. -/
theorem foldl_larger_perm {values values' : List Number} (same : values.Perm values') :
    values.foldl larger 0 = values'.foldl larger 0 := by
  have first := largest_foldl isNaN_zero values
  have second := largest_foldl isNaN_zero values'
  have least := first.above _ ((same.cons 0).mem_iff.2 second.mem)
  have least' := second.above _ ((same.cons 0).mem_iff.1 first.mem)
  rcases foldl_larger_zero values with zero | positive
  · rcases foldl_larger_zero values' with zero' | positive'
    · rw [zero, zero']
    · rw [zero] at least
      exact absurd positive' least
  · exact eq_of_not_lt positive second.number least least'

end UsageReport.Number
