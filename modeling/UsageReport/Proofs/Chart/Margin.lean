import Mathlib
import UsageReport.Proofs.Chart.Granted
import UsageReport.Proofs.Number.Level
import UsageReport.Proofs.Table.Compact
import UsageReport.Settings

/-! Caps that follow from data. Such a cap is the largest cell of its axis times the factor, plus the
margin, all in binary64. No cell is above the cap unless the factor is less than one. -/

namespace UsageReport.Chart

open UsageReport.Number (abs_lt_limit beq_iff_level clamp_of_abs_lt isNaN_of_rational isNaN_zero
  largest? largest_foldl le_iff_level level_of_rational lt_iff_level nearest_of_rational
  rational_of_isFinite rational_of_level rational_zero rounds_add rounds_mul value_lift
  value_ofFloat zero_le_iff)
open UsageReport.Table (TimeSeries)

/-! ### Policies -/

/-- The factor is positive and the margin is not negative, both finite. -/
structure MarginPolicy.Sound (p : MarginPolicy) : Prop where
  factor : p.factor.isFinite ∧ 0 < p.factor
  margin : p.margin.isFinite ∧ 0 ≤ p.margin

/-- The policy of settings that are accepted is sound. -/
theorem sound_of_parse {text : String} {s : Settings} (accepted : Settings.parse text = .ok s) :
    s.margin.Sound := by
  unfold Settings.parse at accepted
  split at accepted
  case h_1 => cases accepted
  case h_2 settings _ =>
    split at accepted
    case h_1 => cases accepted
    case h_2 valid =>
      obtain rfl := Except.ok.inj accepted
      unfold Settings.invalid? at valid
      split at valid
      case isTrue => cases valid
      case isFalse factor =>
        split at valid
        case isTrue => cases valid
        case isFalse margin => exact ⟨not_not.1 factor, not_not.1 margin⟩

namespace MarginPolicy

variable {p : MarginPolicy} {x y : Number}

/-- What the factor and the margin stand for. -/
theorem Sound.rational (sound : p.Sound) : ∃ f m,
    (Number.ofFloat p.factor).rational? = some f ∧ 0 < f
      ∧ (Number.ofFloat p.margin).rational? = some m ∧ 0 ≤ m := by
  obtain ⟨⟨finite, positive⟩, finite', least⟩ := sound
  rw [← value_ofFloat p.factor] at finite
  rw [← value_ofFloat p.margin] at finite'
  obtain ⟨f, factor⟩ := rational_of_isFinite finite
  obtain ⟨m, margin⟩ := rational_of_isFinite finite'
  have positive' : 0 < Number.ofFloat p.factor := by
    show (0 : Number).value < (Number.ofFloat p.factor).value
    rw [value_ofFloat]
    exact positive
  have least' : 0 ≤ Number.ofFloat p.margin := by
    show (0 : Number).value ≤ (Number.ofFloat p.margin).value
    rw [value_ofFloat]
    exact least
  rw [lt_iff_level isNaN_zero (isNaN_of_rational factor), level_of_rational factor,
    level_of_rational rational_zero] at positive'
  have least'' := (zero_le_iff.1 least').2
  rw [level_of_rational margin] at least''
  exact ⟨f, m, factor, positive', margin, least''⟩

/-- The cap as a number. -/
def capOf (p : MarginPolicy) (x : Number) : Number := x * .ofFloat p.factor + .ofFloat p.margin

theorem Sound.scaled (sound : p.Sound) (number : x.isNaN = false) :
    (x * .ofFloat p.factor).isNaN = false
      ∧ (x * .ofFloat p.factor).value = x.value * p.factor := by
  obtain ⟨f, m, factor, positive, margin, least⟩ := sound.rational
  have product := (rounds_mul factor positive).isNaN number
  have value := value_lift number (isNaN_of_rational factor) product
  rw [value_ofFloat] at value
  exact ⟨product, value⟩

theorem Sound.capOf (sound : p.Sound) (number : x.isNaN = false) :
    (p.capOf x).isNaN = false ∧ (p.capOf x).value = p.cap x.value := by
  obtain ⟨f, m, factor, positive, margin, least⟩ := sound.rational
  obtain ⟨product, scaled⟩ := sound.scaled number
  have sum := (rounds_add margin).isNaN product
  have value := value_lift product (isNaN_of_rational margin) sum
  rw [value_ofFloat, scaled] at value
  exact ⟨sum, value⟩

theorem level_scaled_le (sound : p.Sound) (number : x.isNaN = false) (number' : y.isNaN = false)
    (below : x.level ≤ y.level) : (x * .ofFloat p.factor).level ≤ (p.capOf y).level := by
  obtain ⟨f, m, factor, positive, margin, least⟩ := sound.rational
  have product := rounds_mul factor positive
  have scaled := product.level_le product
    (fun _ _ le => mul_le_mul_of_nonneg_right le positive.le) number number' below
  have sum := (rounds_add margin).le_level (sound.scaled number').1 fun _ _ =>
    le_add_of_nonneg_right least
  exact scaled.trans sum

theorem level_le_capOf (sound : p.Sound) (whole : 1 ≤ p.factor) (number : x.isNaN = false)
    (least : 0 ≤ x.level) : x.level ≤ (p.capOf x).level := by
  obtain ⟨f, m, factor, positive, -, -⟩ := sound.rational
  have one : (1 : Number).rational? = some 1 := by decide +kernel
  have whole' : 1 ≤ Number.ofFloat p.factor := by
    show (1 : Number).value ≤ (Number.ofFloat p.factor).value
    rw [value_ofFloat]
    exact whole
  rw [le_iff_level (isNaN_of_rational one) (isNaN_of_rational factor), level_of_rational one,
    level_of_rational factor] at whole'
  have product := (rounds_mul factor positive).le_level number fun q value => by
    rw [level_of_rational value] at least
    exact le_mul_of_one_le_right least whole'
  exact product.trans (level_scaled_le sound number number le_rfl)

/-- Without data the cap is the margin. -/
theorem level_capOf_zero (sound : p.Sound) :
    (p.capOf 0).level = (Number.ofFloat p.margin).level := by
  obtain ⟨f, m, factor, positive, margin, -⟩ := sound.rational
  obtain ⟨number, level⟩ := (rounds_mul factor positive).finite 0 0 rational_zero
  rw [zero_mul, (nearest_of_rational rational_zero).1,
    clamp_of_abs_lt (abs_lt_limit rational_zero)] at level
  have value := rational_of_level number (level ▸ abs_lt_limit rational_zero)
  rw [level] at value
  have sum := ((rounds_add margin).finite _ 0 value).2
  rw [zero_add, (nearest_of_rational margin).1, clamp_of_abs_lt (abs_lt_limit margin)] at sum
  rw [level_of_rational margin]
  exact sum

theorem margin_le_capOf (sound : p.Sound) (number : x.isNaN = false) (least : 0 ≤ x.level) :
    (Number.ofFloat p.margin).level ≤ (p.capOf x).level := by
  obtain ⟨f, m, factor, positive, margin, -⟩ := sound.rational
  have product := rounds_mul factor positive
  have sum := rounds_add margin
  have least' : (0 : Number).level ≤ x.level := by
    rw [level_of_rational rational_zero]
    exact least
  have scaled := product.level_le product
    (fun _ _ le => mul_le_mul_of_nonneg_right le positive.le) isNaN_zero number least'
  have added := sum.level_le sum (fun _ _ le => add_le_add_left le m) (sound.scaled isNaN_zero).1
    (sound.scaled number).1 scaled
  rw [← level_capOf_zero sound]
  exact added

end MarginPolicy

/-! ### Room above cells -/

/-- What a cap leaves above the cells of its axis. -/
structure Headroom (p : MarginPolicy) (cells : List Number) (cap : Float) : Prop where
  margin : p.margin ≤ cap
  scaled : ∀ x ∈ cells, x.value * p.factor ≤ cap
  covers : 1 ≤ p.factor → ∀ x ∈ cells, x.value ≤ cap
  largest : cells ≠ [] →
    ∃ most ∈ cells, (∀ x ∈ cells, x.value ≤ most.value) ∧ cap = p.cap most.value
  empty : cells = [] → (cap == p.margin) = true

/-- The largest of some cells, or zero where there are none. -/
structure Peak (cells : List Number) (most : Number) : Prop where
  mem : cells ≠ [] → most ∈ cells
  zero : cells = [] → most = 0
  above : ∀ x ∈ cells, x.level ≤ most.level

theorem headroom_of_peak {p : MarginPolicy} (sound : p.Sound) {cells : List Number}
    (amounts : ∀ x ∈ cells, 0 ≤ x) {most : Number} (peak : Peak cells most) :
    Headroom p cells (p.cap most.value) := by
  have amount : 0 ≤ most := by
    by_cases none : cells = []
    · rw [peak.zero none, zero_le_iff, level_of_rational rational_zero]
      exact ⟨isNaN_zero, le_rfl⟩
    · exact amounts most (peak.mem none)
  obtain ⟨number, least⟩ := zero_le_iff.1 amount
  obtain ⟨number', value⟩ := sound.capOf number
  have le {x : Number} (plain : x.isNaN = false) (below : x.level ≤ (p.capOf most).level) :
      x.value ≤ p.cap most.value := value ▸ (le_iff_level plain number').2 below
  obtain ⟨f, m, -, -, margin, -⟩ := sound.rational
  have plain := isNaN_of_rational margin
  constructor
  case margin =>
    have below := le plain (MarginPolicy.margin_le_capOf sound number least)
    rwa [value_ofFloat] at below
  case scaled =>
    intro x inside
    obtain ⟨numberX, -⟩ := zero_le_iff.1 (amounts x inside)
    obtain ⟨product, same⟩ := sound.scaled numberX
    rw [← same]
    exact le product (MarginPolicy.level_scaled_le sound numberX number (peak.above x inside))
  case covers =>
    intro whole x inside
    obtain ⟨numberX, -⟩ := zero_le_iff.1 (amounts x inside)
    refine le numberX ((peak.above x inside).trans ?_)
    exact MarginPolicy.level_le_capOf sound whole number least
  case largest =>
    intro filled
    refine ⟨most, peak.mem filled, fun x inside => ?_, rfl⟩
    obtain ⟨numberX, -⟩ := zero_le_iff.1 (amounts x inside)
    exact (le_iff_level numberX number).2 (peak.above x inside)
  case empty =>
    intro none
    obtain rfl := peak.zero none
    have same := (beq_iff_level number' plain).2 (MarginPolicy.level_capOf_zero sound)
    rw [← value, ← value_ofFloat p.margin]
    exact same

/-! ### Axes -/

/-- The cells of the series that an axis measures. -/
def Axis.cells (axis : Axis) (t : TimeSeries) : List Number := axis.series.flatMap t.column

theorem peak_of_largest? {values : List Number} (numbers : ∀ x ∈ values, x.isNaN = false) :
    Peak values ((largest? values).getD 0) := by
  cases values with
  | nil => exact ⟨fun filled => absurd rfl filled, fun _ => rfl, List.forall_mem_nil _⟩
  | cons a rest =>
    have largest := largest_foldl (numbers a List.mem_cons_self) rest
    refine ⟨fun _ => largest.mem, fun none => absurd none (List.cons_ne_nil a rest), ?_⟩
    intro x inside
    have least := largest.above x inside
    rw [lt_iff_level largest.number (numbers x inside)] at least
    exact not_lt.1 least

/-- The largest cells of several series leave the largest of all their cells. -/
theorem peak_of_series {t : TimeSeries} {series : List Nat}
    (inside : ∀ i ∈ series, i < t.series.length)
    (numbers : ∀ x ∈ series.flatMap t.column, x.isNaN = false) :
    Peak (series.flatMap t.column) ((largest? (series.map t.maxOf)).getD 0) := by
  have cell {i : Nat} {x : Number} (there : i ∈ series) (mem : x ∈ t.column i) :
      x ∈ series.flatMap t.column := List.mem_flatMap.2 ⟨i, there, mem⟩
  have each {i : Nat} (there : i ∈ series) : Peak (t.column i) (t.maxOf i) :=
    peak_of_largest? fun x mem => numbers x (cell there mem)
  have numbers' : ∀ x ∈ series.map t.maxOf, x.isNaN = false := by
    refine List.forall_mem_map.2 fun i there => ?_
    by_cases none : t.column i = []
    · rw [(each there).zero none]
      exact isNaN_zero
    · exact numbers _ (cell there ((each there).mem none))
  have top := peak_of_largest? numbers'
  constructor
  case mem =>
    intro filled
    obtain ⟨x, mem⟩ := List.exists_mem_of_ne_nil _ filled
    obtain ⟨j, there, mem⟩ := List.mem_flatMap.1 mem
    have measured : series.map t.maxOf ≠ [] := by simpa using List.ne_nil_of_mem there
    obtain ⟨i, there', same⟩ := List.mem_map.1 (top.mem measured)
    -- All series have as many cells, so that this one has some too.
    have count : (t.column i).length = (t.column j).length := by
      rw [t.length_column (inside i there'), t.length_column (inside j there)]
    have some : t.column i ≠ [] := by
      rw [← List.length_pos_iff, count, List.length_pos_iff]
      exact List.ne_nil_of_mem mem
    rw [← same]
    exact cell there' ((each there').mem some)
  case zero =>
    intro none
    by_cases measured : series.map t.maxOf = []
    · exact top.zero measured
    · obtain ⟨i, there, same⟩ := List.mem_map.1 (top.mem measured)
      rw [← same]
      exact (each there).zero (List.flatMap_eq_nil_iff.1 none i there)
  case above =>
    intro x mem
    obtain ⟨i, there, mem⟩ := List.mem_flatMap.1 mem
    exact ((each there).above x mem).trans (top.above _ (List.mem_map_of_mem there))

namespace Request

variable {r : Request} {table : TimeSeries} {chart : Chart}

/-- A cap that follows from data leaves room above all cells of its axis. -/
theorem headroom_of_build (sound : r.margin.Sound) (built : r.build = .ok chart)
    (data : r.data = .timeSeries table) {k : Nat} {title : String}
    (asked : r.axes[k]? = some (title, .withMargin))
    (amounts : ∀ axis, chart.axes[k]? = some axis → ∀ x ∈ axis.cells table, 0 ≤ x) :
    ∃ axis cap, chart.axes[k]? = some axis ∧ axis.title = title ∧ axis.cap = some cap
      ∧ Headroom r.margin (axis.cells table) cap := by
  obtain ⟨axis, there, titled, resolved⟩ := axis_of_build built data asked
  have cells := amounts axis there
  have inside : ∀ i ∈ axis.series, i < table.series.length := fun i mem =>
    ((shares_of_build built data).together i).1 ⟨axis, List.mem_of_getElem? there, mem⟩
  have peak := peak_of_series inside fun x mem => (zero_le_iff.1 (cells x mem)).1
  exact ⟨axis, _, there, titled, resolved, headroom_of_peak sound cells peak⟩

end Request

end UsageReport.Chart
