import Mathlib
import UsageReport.Proofs.Number.TotalOrder
import UsageReport.Proofs.Statistics.Summary

/-! The median of readings. Readings have one ascending order, since the total order tells all bits
apart, and the median is read off its middle. So it does not depend on the order of the readings,
whether or not these are NaN, infinite or zeros of different sign. -/

namespace UsageReport.Statistics

open UsageReport.Number (TotalOrder totalLE totalLE_antisymm totalLE_iff totalLE_total
  totalLE_trans)

variable {xs ys s : List Number}

/-! ### The order of readings -/

/-- The readings, each as often as it occurs, in ascending order. -/
structure Ranked (xs s : List Number) : Prop where
  perm : s.Perm xs
  ascending : s.Pairwise TotalOrder

theorem ranked_sorted (xs : List Number) : Ranked xs (sorted xs) where
  perm := List.mergeSort_perm xs totalLE
  ascending := by
    have ascending := List.pairwise_mergeSort totalLE_trans totalLE_total xs
    exact ascending.imp totalLE_iff.1

theorem Ranked.eq_sorted (ranked : Ranked xs s) : s = sorted xs := by
  have same := ranked.perm.trans (ranked_sorted xs).perm.symm
  refine same.eq_of_pairwise (fun a b _ _ le le' => ?_) ranked.ascending
    (ranked_sorted xs).ascending
  exact totalLE_antisymm (totalLE_iff.2 le) (totalLE_iff.2 le')

theorem Ranked.perm_of_perm (ranked : Ranked xs s) (same : ys.Perm xs) : Ranked ys s :=
  ⟨ranked.perm.trans same.symm, ranked.ascending⟩

theorem sorted_perm (same : ys.Perm xs) : sorted ys = sorted xs :=
  ((ranked_sorted xs).perm_of_perm same).eq_sorted.symm

/-! ### The middle -/

theorem median?_nil : median? [] = none := by
  simp [median?, sorted]

theorem median?_eq_none_iff : median? xs = none ↔ xs = [] := by
  constructor
  · intro none
    by_contra filled
    obtain ⟨middle, some⟩ := median?_eq_some filled
    rw [none] at some
    cases some
  · rintro rfl
    exact median?_nil

theorem median?_of_odd (odd : xs.length % 2 = 1) : ∃ middle,
    (sorted xs)[xs.length / 2]? = some middle ∧ median? xs = some middle := by
  have inside : xs.length / 2 < (sorted xs).length := by
    rw [length_sorted]
    omega
  have middle := List.getElem?_eq_getElem inside
  refine ⟨_, middle, ?_⟩
  simp only [median?, if_pos odd, middle]

theorem median?_of_even (filled : xs ≠ []) (even : xs.length % 2 = 0) : ∃ a b,
    (sorted xs)[xs.length / 2 - 1]? = some a ∧ (sorted xs)[xs.length / 2]? = some b
    ∧ median? xs = some ((a + b) / 2) := by
  have some := List.length_pos_iff.2 filled
  have inside : xs.length / 2 < (sorted xs).length := by
    rw [length_sorted]
    omega
  have left := List.getElem?_eq_getElem ((Nat.sub_le _ 1).trans_lt inside)
  have right := List.getElem?_eq_getElem inside
  refine ⟨_, _, left, right, ?_⟩
  have even' : ¬ xs.length % 2 = 1 := by omega
  simp only [median?, if_neg even', left, right]

/-- The median is the reading in the middle of the one ascending order of the readings, or half the
sum of the two readings in the middle; only without readings there is none. Readings in another
order have the same median, bit for bit. -/
theorem median?_ranked (xs : List Number) :
    (median? xs = none ↔ xs = [])
    ∧ (∃! s, Ranked xs s)
    ∧ (∀ s, Ranked xs s →
      (xs.length % 2 = 1 → ∃ middle, s[xs.length / 2]? = some middle ∧ median? xs = some middle)
      ∧ (xs ≠ [] → xs.length % 2 = 0 → ∃ a b, s[xs.length / 2 - 1]? = some a
        ∧ s[xs.length / 2]? = some b ∧ median? xs = some ((a + b) / 2)))
    ∧ ∀ ys, ys.Perm xs → median? ys = median? xs := by
  refine ⟨median?_eq_none_iff, ?_, fun s ranked => ?_, fun ys same => ?_⟩
  · exact ⟨sorted xs, ranked_sorted xs, fun s ranked => ranked.eq_sorted⟩
  · rw [ranked.eq_sorted]
    exact ⟨median?_of_odd, median?_of_even⟩
  · rw [median?, median?, sorted_perm same, same.length_eq]

end UsageReport.Statistics
