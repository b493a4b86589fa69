import UsageReport.Number.Basic

/-! Orders and folds of numbers: the total order of binary64, the larger and the smaller of two
numbers where a NaN counts as absent, and sums. -/

namespace UsageReport.Number

/-- A key for the total order: negative NaN, the negative values, `-0`, `0`, the positive values,
positive NaN. -/
def orderKey (a : Number) : Int :=
  let bits := a.bits.toNat
  if bits < UInt64.size / 2 then bits else UInt64.size / 2 - 1 - bits

def totalLE (a b : Number) : Bool := orderKey a ≤ orderKey b

theorem totalLE_total (a b : Number) : (totalLE a b || totalLE b a) = true := by
  simp only [totalLE, Bool.or_eq_true, decide_eq_true_eq]
  omega

theorem totalLE_trans (a b c : Number) (h : totalLE a b = true) (h' : totalLE b c = true) :
    totalLE a c = true := by
  simp only [totalLE, decide_eq_true_eq] at *
  omega

theorem orderKey_injective {a b : Number} (h : orderKey a = orderKey b) : a = b := by
  apply Number.ext
  apply UInt64.toNat_inj.1
  have := a.bits.toNat_lt
  have := b.bits.toNat_lt
  unfold orderKey at h
  simp only [UInt64.size] at *
  split at h <;> split at h <;> omega

theorem totalLE_antisymm {a b : Number} (h : totalLE a b = true) (h' : totalLE b a = true) :
    a = b := by
  simp only [totalLE, decide_eq_true_eq] at h h'
  exact orderKey_injective (Int.le_antisymm h h')

/-- The larger of two numbers; NaN only where both are. -/
def larger (a b : Number) : Number :=
  if a.isNaN then b else if b.isNaN then a else if a < b then b else a

/-- The smaller of two numbers; NaN only where both are. -/
def smaller (a b : Number) : Number :=
  if a.isNaN then b else if b.isNaN then a else if b < a then b else a

def largest? : List Number → Option Number
  | [] => none
  | a :: rest => some (rest.foldl larger a)

def smallest? : List Number → Option Number
  | [] => none
  | a :: rest => some (rest.foldl smaller a)

/-- The sum of some numbers from the left. It starts at `-0`, which is neutral for every number. -/
def sum (numbers : List Number) : Number := numbers.foldl (· + ·) (-0)

end UsageReport.Number
