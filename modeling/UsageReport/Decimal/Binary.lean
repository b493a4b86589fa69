/-! Finite binary64 magnitudes as `mantissa * 2 ^ exponent`, decimals as `digits * 10 ^ exponent`,
and the decimals that round to a given magnitude. All comparisons are of natural numbers, so
nothing here depends on floating-point arithmetic. -/

namespace UsageReport.Decimal

/-- A finite binary64 magnitude, `mantissa * 2 ^ exponent`. -/
structure Binary where
  mantissa : Nat
  exponent : Int
  /-- The gap to the next value below is half the gap to the next value above. -/
  narrowBelow : Bool
deriving DecidableEq, Repr

/-- A decimal, `digits * 10 ^ exponent`. -/
structure Scaled where
  digits : Nat
  exponent : Int
deriving DecidableEq, Repr

/-- The magnitude held in the bits of a finite value, whatever its sign. -/
def Binary.ofBits (bits : UInt64) : Binary :=
  let field : Nat := (bits.toNat >>> 52) % (1 <<< 11)
  let fraction : Nat := bits.toNat % (1 <<< 52)
  if field = 0 then ⟨fraction, -1074, false⟩
  else ⟨1 <<< 52 + fraction, (field : Int) - 1075, fraction = 0 ∧ 1 < field⟩

/-- The sign bit, which zeros and NaN have too. -/
def isNegative (x : Float) : Bool := UInt64.size / 2 ≤ x.toBits.toNat

/-- Compares `a * 10 ^ i` with `n * 2 ^ j`. -/
def compareScaled (a : Nat) (i : Int) (n : Nat) (j : Int) : Ordering :=
  compare ((a * Nat.pow 10 i.toNat) <<< (-j).toNat) (n <<< j.toNat * Nat.pow 10 (-i).toNat)

/-- `d` lies among the reals that round to `x`: between the two halfway points to its neighbours,
which belong to `x` exactly when its mantissa is even. -/
def Binary.readsBack (x : Binary) (d : Scaled) : Bool :=
  let below := if x.narrowBelow then 4 * x.mantissa - 1 else 4 * x.mantissa - 2
  let above := 4 * x.mantissa + 2
  let inclusive := x.mantissa % 2 == 0
  let low := compareScaled d.digits d.exponent below (x.exponent - 2)
  let high := compareScaled d.digits d.exponent above (x.exponent - 2)
  (low == .gt || inclusive && low == .eq) && (high == .lt || inclusive && high == .eq)

def Binary.quotient (x : Binary) (grid : Int) : Nat × Nat :=
  (x.mantissa <<< x.exponent.toNat * Nat.pow 10 (-grid).toNat,
    1 <<< (-x.exponent).toNat * Nat.pow 10 grid.toNat)

def digitCount (n : Nat) : Nat := (Nat.toDigits 10 n).length

/-- The least `k` such that `x < 10 ^ k`, for a magnitude that is not zero. -/
def Binary.order (x : Binary) : Int :=
  let (num, den) := x.quotient 0
  if den ≤ num then digitCount (num / den)
  else 1 - digitCount ((den - 1) / num)

end UsageReport.Decimal
