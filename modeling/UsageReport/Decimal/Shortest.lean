import UsageReport.Decimal.Binary

/-! The fewest decimal digits that read back to a binary64 magnitude, and of those the nearest.
The search tries the decimal grids from coarse to fine; on each grid only the two neighbours of
the value can read back. -/

namespace UsageReport.Decimal

/-- Which of two equally near decimals is taken. -/
inductive Tie where
  | even
  | up
deriving DecidableEq, Repr

/-- The neighbour of `x` on the grid of multiples of `10 ^ grid` that reads back, the nearer one
where both do. -/
def Binary.onGrid (x : Binary) (tie : Tie) (grid : Int) : Option Scaled :=
  let (num, den) := x.quotient grid
  let low : Scaled := ⟨num / den, grid⟩
  let high : Scaled := ⟨num / den + 1, grid⟩
  match x.readsBack low, x.readsBack high with
  | false, false => none
  | true, false => some low
  | false, true => some high
  | true, true =>
    match compare (2 * num) ((2 * low.digits + 1) * den) with
    | .lt => some low
    | .gt => some high
    | .eq => if tie = .even ∧ low.digits % 2 = 0 then some low else some high

def Scaled.strip (d : Scaled) : Scaled :=
  if h : d.digits ≠ 0 ∧ d.digits % 10 = 0 then strip ⟨d.digits / 10, d.exponent + 1⟩ else d
termination_by d.digits
decreasing_by omega

def Binary.exact (x : Binary) : Scaled :=
  if x.exponent < 0 then ⟨x.mantissa * Nat.pow 5 (-x.exponent).toNat, x.exponent⟩
  else ⟨x.mantissa <<< x.exponent.toNat, 0⟩

/-- The fewest digits that read back to `x`. Seventeen always suffice; the exact value stands
behind them so that the function is total. -/
def Binary.shortest (x : Binary) (tie : Tie) : Scaled :=
  let order := x.order
  let hit := (List.range 17).findSome? fun (n : Nat) => x.onGrid tie (order - 1 - n)
  (hit.getD x.exact).strip

end UsageReport.Decimal
