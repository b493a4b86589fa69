import Mathlib
import UsageReport.Proofs.Number.Level
import UsageReport.Statistics.Summary

/-! The summary of readings. Their minimum and their maximum are readings, between which the median
lies unless two readings overflow. The mean is rounded twice: it lies between the means of readings
that are all minimal and all maximal, and between these themselves where the sum is exact. -/

namespace UsageReport.Statistics

open UsageReport.Json (Value Object)
open UsageReport.Number (TermsLE dyadic largest? larger level level_of_rational nearest
  nearest_dyadic nearest_mono smaller smallest? sum)

variable {xs : List Number}

/-! ### Parts -/

theorem length_sorted (xs : List Number) : (sorted xs).length = xs.length :=
  List.length_mergeSort xs

theorem median?_eq_some (filled : xs ≠ []) : ∃ middle, median? xs = some middle := by
  have count := length_sorted xs
  have one : 0 < xs.length := List.length_pos_iff.2 filled
  have middle : xs.length / 2 < (sorted xs).length := by omega
  have before : xs.length / 2 - 1 < (sorted xs).length := by omega
  unfold median?
  by_cases odd : xs.length % 2 = 1
  · simp only [if_pos odd, List.getElem?_eq_getElem middle]
    exact ⟨_, rfl⟩
  · simp only [if_neg odd, List.getElem?_eq_getElem middle, List.getElem?_eq_getElem before]
    exact ⟨_, rfl⟩

/-- The readings themselves, as a summary shows them on demand. -/
def readingsShown (xs : List Number) : Object :=
  [("stats", .array (xs.map fun x => .real x.value)), ("samples", .integer xs.length)]

theorem summary_of_some (filled : xs ≠ []) : ∃ least most middle, smallest? xs = some least
    ∧ largest? xs = some most ∧ median? xs = some middle
    ∧ ∀ unit verbose, summary unit verbose xs = .object
      ([("minimum", .real least.value), ("maximum", .real most.value),
        ("mean", .real (mean xs).value), ("median", .real middle.value), ("mode", (mode xs).json),
        ("unit", .string unit)] ++ if verbose then readingsShown xs else []) := by
  obtain ⟨x, rest, rfl⟩ := List.exists_cons_of_ne_nil filled
  obtain ⟨middle, found⟩ := median?_eq_some filled
  refine ⟨_, _, middle, rfl, rfl, found, fun unit verbose => ?_⟩
  unfold summary
  rw [found]
  rfl

/-! ### Extremes -/

/-- All readings have a value. -/
def AllFinite (xs : List Number) : Prop := ∀ x ∈ xs, ∃ q, x.rational? = some q

theorem AllFinite.isNaN (finite : AllFinite xs) {x : Number} (inside : x ∈ xs) :
    x.isNaN = false := by
  obtain ⟨q, value⟩ := finite x inside
  exact Number.isNaN_of_rational value

/-- Readings of which the one with the lesser key is kept leave one with the least key. -/
theorem foldl_least {keep : Number → Number → Number} {key : Number → ℚ}
    (kept : ∀ a b, a.isNaN = false → b.isNaN = false →
      keep a b = a ∧ key a ≤ key b ∨ keep a b = b ∧ key b ≤ key a)
    {a : Number} {rest : List Number} (numbers : ∀ x ∈ a :: rest, x.isNaN = false) :
    rest.foldl keep a ∈ a :: rest ∧ ∀ x ∈ a :: rest, key (rest.foldl keep a) ≤ key x := by
  induction rest generalizing a with
  | nil => simp
  | cons b rest ih =>
    have first : keep a b ∈ [a, b] ∧ ∀ x ∈ [a, b], key (keep a b) ≤ key x := by
      rcases kept a b (numbers a (by simp)) (numbers b (by simp)) with ⟨same, le⟩ | ⟨same, le⟩ <;>
        simp [same, le]
    have number : (keep a b).isNaN = false := numbers _ (List.mem_append_left rest first.1)
    have others : ∀ x ∈ rest, x.isNaN = false := fun x mem => numbers x (by simp [mem])
    obtain ⟨inside, least⟩ := ih (List.forall_mem_cons.2 ⟨number, others⟩)
    rw [List.forall_mem_cons] at least
    rw [List.foldl_cons]
    constructor
    · rcases List.mem_cons.1 inside with found | found
      · exact found.symm ▸ List.mem_append_left rest first.1
      · exact List.mem_cons_of_mem _ (List.mem_cons_of_mem _ found)
    · rw [List.forall_mem_cons, List.forall_mem_cons]
      exact ⟨least.1.trans (first.2 a (by simp)), least.1.trans (first.2 b (by simp)), least.2⟩

theorem smaller_kept (a b : Number) (number : a.isNaN = false) (number' : b.isNaN = false) :
    smaller a b = a ∧ a.level ≤ b.level ∨ smaller a b = b ∧ b.level ≤ a.level := by
  have order := Number.lt_iff_level number' number
  rw [smaller, number, number', if_neg Bool.false_ne_true, if_neg Bool.false_ne_true]
  split
  case isTrue less => exact .inr ⟨rfl, (order.1 less).le⟩
  case isFalse least => exact .inl ⟨rfl, not_lt.1 fun less => least (order.2 less)⟩

theorem larger_kept (a b : Number) (number : a.isNaN = false) (number' : b.isNaN = false) :
    larger a b = a ∧ -a.level ≤ -b.level ∨ larger a b = b ∧ -b.level ≤ -a.level := by
  have order := Number.lt_iff_level number number'
  rw [larger, number, number', if_neg Bool.false_ne_true, if_neg Bool.false_ne_true]
  split
  case isTrue less => exact .inr ⟨rfl, neg_le_neg (order.1 less).le⟩
  case isFalse least => exact .inl ⟨rfl, neg_le_neg (not_lt.1 fun less => least (order.2 less))⟩

/-- The minimum and the maximum of readings are readings. -/
structure Extremes (xs : List Number) (least most : Number) : Prop where
  minimum : least ∈ xs ∧ ∀ x ∈ xs, least.level ≤ x.level
  maximum : most ∈ xs ∧ ∀ x ∈ xs, x.level ≤ most.level

theorem extremes_of_some (finite : AllFinite xs) {least most : Number}
    (found : smallest? xs = some least) (found' : largest? xs = some most) :
    Extremes xs least most := by
  cases xs with
  | nil => cases found
  | cons x rest =>
    obtain rfl := Option.some.inj found
    obtain rfl := Option.some.inj found'
    obtain ⟨inside, above⟩ := foldl_least larger_kept fun _ => finite.isNaN
    exact ⟨foldl_least smaller_kept fun _ => finite.isNaN,
      inside, fun x mem => neg_le_neg_iff.1 (above x mem)⟩

/-! ### Median -/

theorem median_mem {middle : Number} (found : median? xs = some middle) :
    (xs.length % 2 = 1 → middle ∈ xs)
      ∧ (xs.length % 2 = 0 → ∃ a ∈ xs, ∃ b ∈ xs, middle = (a + b) / 2) := by
  have same := List.mergeSort_perm xs Number.totalLE
  unfold median? at found
  by_cases odd : xs.length % 2 = 1
  · simp only [if_pos odd] at found
    refine ⟨fun _ => same.mem_iff.1 (List.mem_of_getElem? found), fun even => by omega⟩
  · simp only [if_neg odd] at found
    refine ⟨fun odd' => absurd odd' odd, fun _ => ?_⟩
    split at found
    case h_1 a b first second =>
      exact ⟨a, same.mem_iff.1 (List.mem_of_getElem? first), b,
        same.mem_iff.1 (List.mem_of_getElem? second), (Option.some.inj found).symm⟩
    case h_2 => cases found

/-- The median lies between the extremes, unless the two readings in the middle overflow. -/
theorem median_between (finite : AllFinite xs) {least most middle : Number}
    (extremes : Extremes xs least most) (found : median? xs = some middle) :
    (least ≤ middle ∨ middle.form = .infinity .negative)
      ∧ (middle ≤ most ∨ middle.form = .infinity .positive) := by
  obtain ⟨⟨first, below⟩, last, above⟩ := extremes
  obtain ⟨one, two⟩ := median_mem found
  rcases Nat.mod_two_eq_zero_or_one xs.length with even | odd
  · obtain ⟨a, inside, b, inside', rfl⟩ := two even
    obtain ⟨x, left⟩ := finite a inside
    obtain ⟨y, right⟩ := finite b inside'
    obtain ⟨l, lower⟩ := finite least first
    obtain ⟨h, upper⟩ := finite most last
    have order (z : Number) (q : ℚ) (value : z.rational? = some q) (mem : z ∈ xs) :
        l ≤ q ∧ q ≤ h := by
      rw [← level_of_rational value, ← level_of_rational lower, ← level_of_rational upper]
      exact ⟨below z mem, above z mem⟩
    have bounds := order a x left inside
    have bounds' := order b y right inside'
    exact Number.half_between left right lower upper ⟨bounds.1, bounds'.1⟩ ⟨bounds.2, bounds'.2⟩
  · have inside := one odd
    have number := finite.isNaN inside
    exact ⟨.inl ((Number.le_iff_level (finite.isNaN first) number).2 (below middle inside)),
      .inl ((Number.le_iff_level number (finite.isNaN last)).2 (above middle inside))⟩

/-! ### Mean -/

theorem count_positive {n : ℕ} (some : 0 < n) (bound : n < UInt64.size) :
    ∃ d, (Number.ofFloat n.toFloat).rational? = Option.some d ∧ 0 < d := by
  have one : nearest (dyadic 1 0) = dyadic 1 0 := nearest_dyadic (by decide) (by decide)
  have least : dyadic 1 0 ≤ n := by
    rw [dyadic, Int.cast_one, zpow_zero, one_mul]
    exact_mod_cast some
  refine ⟨nearest n, Number.rational_toFloat some bound, ?_⟩
  calc 0 < dyadic 1 0 := by norm_num [dyadic]
    _ ≤ nearest n := one ▸ nearest_mono least

/-- A mean does not fall where the readings rise. -/
theorem mean_mono {ys : List Number} (terms : TermsLE xs ys) (filled : xs ≠ [])
    (bound : xs.length < UInt64.size) : mean xs ≤ mean ys := by
  obtain ⟨number, number', below⟩ := Number.sum_mono terms
  obtain ⟨d, count, positive⟩ := count_positive (List.length_pos_iff.2 filled) bound
  have rounds := Number.rounds_div count positive
  have quotient := rounds.level_le rounds
    (fun _ _ le => div_le_div_of_nonneg_right le positive.le) number number' below
  rw [mean, mean, ← terms.length_eq]
  exact (Number.le_iff_level (rounds.isNaN number) (rounds.isNaN number')).2 quotient

theorem terms_of_extremes (finite : AllFinite xs) {least most : Number}
    (extremes : Extremes xs least most) :
    TermsLE (List.replicate xs.length least) xs ∧ TermsLE xs (List.replicate xs.length most) := by
  obtain ⟨⟨first, below⟩, last, above⟩ := extremes
  obtain ⟨l, lower⟩ := finite least first
  obtain ⟨h, upper⟩ := finite most last
  rw [← List.map_const', ← List.map_const', TermsLE, TermsLE, List.forall₂_map_left_iff,
    List.forall₂_map_right_iff, List.forall₂_same, List.forall₂_same]
  constructor
  · intro x inside
    obtain ⟨q, value⟩ := finite x inside
    refine ⟨l, q, lower, value, ?_⟩
    rw [← level_of_rational lower, ← level_of_rational value]
    exact below x inside
  · intro x inside
    obtain ⟨q, value⟩ := finite x inside
    refine ⟨q, h, value, upper, ?_⟩
    rw [← level_of_rational upper, ← level_of_rational value]
    exact above x inside

/-- The exact sum of readings. -/
def exactSum (xs : List Number) : ℚ := (xs.map fun x => x.rational?.getD 0).sum

theorem exactSum_between (finite : AllFinite xs) {least most : Number}
    (extremes : Extremes xs least most) :
    xs.length * least.level ≤ exactSum xs ∧ exactSum xs ≤ xs.length * most.level := by
  have levels : (xs.map fun x => x.rational?.getD 0) = xs.map level := by
    refine List.map_congr_left fun x inside => ?_
    obtain ⟨q, value⟩ := finite x inside
    rw [level_of_rational value, value]
    rfl
  have below : ∀ q ∈ xs.map level, least.level ≤ q := List.forall_mem_map.2 extremes.minimum.2
  have above : ∀ q ∈ xs.map level, q ≤ most.level := List.forall_mem_map.2 extremes.maximum.2
  have low := List.card_nsmul_le_sum _ _ below
  have high := List.sum_le_card_nsmul _ _ above
  rw [List.length_map, nsmul_eq_mul] at low high
  rw [exactSum, levels]
  exact ⟨low, high⟩

/-- The mean lies between the extremes if the sum of the readings is exact. -/
theorem mean_between (finite : AllFinite xs) {least most : Number}
    (extremes : Extremes xs least most) (few : xs.length < 2 ^ 53)
    (exact : (sum xs).rational? = some (exactSum xs)) : least ≤ mean xs ∧ mean xs ≤ most := by
  obtain ⟨l, lower⟩ := finite least extremes.minimum.1
  obtain ⟨h, upper⟩ := finite most extremes.maximum.1
  have some : 0 < xs.length := List.length_pos_of_mem extremes.minimum.1
  have positive : (0 : ℚ) < xs.length := by exact_mod_cast some
  have whole : nearest (dyadic xs.length 0) = dyadic xs.length 0 :=
    nearest_dyadic (by omega) (by decide)
  have count : (Number.ofFloat xs.length.toFloat).rational? = Option.some (xs.length : ℚ) := by
    have same : dyadic xs.length 0 = xs.length := by simp [dyadic]
    rw [same] at whole
    rw [Number.rational_toFloat some (few.trans (by decide)), whole]
  obtain ⟨number, rounded⟩ := (Number.rounds_div count positive).finite _ _ exact
  obtain ⟨low, high⟩ := exactSum_between finite extremes
  rw [mean, Number.le_iff_level (finite.isNaN extremes.minimum.1) number,
    Number.le_iff_level number (finite.isNaN extremes.maximum.1), rounded]
  rw [level_of_rational lower] at low ⊢
  rw [level_of_rational upper] at high ⊢
  constructor
  · refine Number.le_clamp_nearest lower ?_
    rw [le_div_iff₀ positive]
    linarith
  · refine Number.clamp_nearest_le upper ?_
    rw [div_le_iff₀ positive]
    linarith

/-! ### Summaries -/

theorem finite_of_isFinite (finite : ∀ x ∈ xs, x.value.isFinite) : AllFinite xs :=
  fun x inside => Number.rational_of_isFinite (finite x inside)

/-- What a summary shows of its readings. -/
structure Shows (shown : Value) (least most average middle : Number) : Prop where
  minimum : shown.field? "minimum" = some (.real least.value)
  maximum : shown.field? "maximum" = some (.real most.value)
  mean : shown.field? "mean" = some (.real average.value)
  median : shown.field? "median" = some (.real middle.value)

/-- The minimum and the maximum in a summary of finite readings are readings and bound all of them.
The median of an odd number of readings is one of them. Any median lies between the extremes unless
it is infinite. The mean lies between the means of as many readings that are all minimal and all
maximal, and between the extremes if the sum of the readings is exact. -/
theorem summary_of_finite (filled : xs ≠ []) (finite : ∀ x ∈ xs, x.value.isFinite) :
    ∃ least most middle,
    (∀ unit verbose, Shows (summary unit verbose xs) least most (mean xs) middle)
    ∧ (least ∈ xs ∧ most ∈ xs ∧ ∀ x ∈ xs, least ≤ x ∧ x ≤ most)
    ∧ (xs.length % 2 = 1 → middle ∈ xs)
    ∧ (least ≤ middle ∨ middle.form = .infinity .negative)
    ∧ (middle ≤ most ∨ middle.form = .infinity .positive)
    ∧ (xs.length < UInt64.size → mean (List.replicate xs.length least) ≤ mean xs
      ∧ mean xs ≤ mean (List.replicate xs.length most))
    ∧ (xs.length < 2 ^ 53 → (sum xs).rational? = some (exactSum xs) →
      least ≤ mean xs ∧ mean xs ≤ most) := by
  have finite' := finite_of_isFinite finite
  obtain ⟨least, most, middle, found, found', found'', all⟩ := summary_of_some filled
  have extremes := extremes_of_some finite' found found'
  obtain ⟨low, high⟩ := median_between finite' extremes found''
  obtain ⟨terms, terms'⟩ := terms_of_extremes finite' extremes
  have count : (List.replicate xs.length least).length = xs.length := List.length_replicate
  have some : List.replicate xs.length least ≠ [] := by simpa using filled
  refine ⟨least, most, middle, fun unit verbose => ?_, ?_, (median_mem found'').1, low, high,
    fun bound => ⟨mean_mono terms some (count.trans_lt bound), mean_mono terms' filled bound⟩,
    mean_between finite' extremes⟩
  · rw [all]
    exact ⟨rfl, rfl, rfl, rfl⟩
  · refine ⟨extremes.minimum.1, extremes.maximum.1, fun x inside => ?_⟩
    have number := finite'.isNaN inside
    rw [Number.le_iff_level (finite'.isNaN extremes.minimum.1) number,
      Number.le_iff_level number (finite'.isNaN extremes.maximum.1)]
    exact ⟨extremes.minimum.2 x inside, extremes.maximum.2 x inside⟩

/-- The sum of three readings is exact, so that their mean lies between the extremes. -/
theorem summary_of_finite_memory : ∃ least most middle,
    (∀ unit verbose, Shows (summary unit verbose [1000, 3000, 2000]) least most
      (mean [1000, 3000, 2000]) middle)
    ∧ middle ∈ ([1000, 3000, 2000] : List Number)
    ∧ least ≤ mean [1000, 3000, 2000] ∧ mean [1000, 3000, 2000] ≤ most := by
  have finite : ∀ x ∈ ([1000, 3000, 2000] : List Number), x.value.isFinite := by decide +kernel
  have exact : (sum [1000, 3000, 2000]).rational? = some (exactSum [1000, 3000, 2000]) := by
    decide +kernel
  obtain ⟨least, most, middle, shows, -, odd, -, -, -, between⟩ :=
    summary_of_finite (by decide) finite
  exact ⟨least, most, middle, shows, odd rfl, between (by decide) exact⟩

/-- The mean of three readings of `0.1` is `0.10000000000000002`, and the median of two readings of
`1e308` is infinite. -/
theorem summary_beyond_maximum :
    (∃ xs : List Number, xs ≠ [] ∧ (∀ x ∈ xs, x.value.isFinite)
      ∧ ∃ most, largest? xs = some most ∧ most < mean xs)
    ∧ ∃ xs : List Number, xs ≠ [] ∧ (∀ x ∈ xs, x.value.isFinite)
      ∧ ∃ most middle, largest? xs = some most ∧ median? xs = some middle ∧ most < middle := by
  constructor
  · let tenth : Number := ⟨0x3FB999999999999A⟩
    exact ⟨[tenth, tenth, tenth], by decide, by decide +kernel, tenth,
      congrArg some (Number.ext (by decide +kernel)), by decide +kernel⟩
  · let large : Number := ⟨0x7FE1CCF385EBC8A0⟩
    have order : sorted [large, large] = [large, large] :=
      List.perm_replicate.1 (List.mergeSort_perm (List.replicate 2 large) Number.totalLE)
    refine ⟨[large, large], by decide, by decide +kernel, large, (large + large) / 2,
      congrArg some (Number.ext (by decide +kernel)), ?_, by decide +kernel⟩
    simp [median?, order]

end UsageReport.Statistics
