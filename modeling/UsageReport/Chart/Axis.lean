/-! The vertical axes of charts and their caps. An axis is left to the renderer, has a fixed cap, or
has a cap that follows from its data and leaves a margin above them. -/

namespace UsageReport.Chart

inductive AxisMax where
  /-- Left to the renderer. -/
  | auto
  /-- Follows from the data of the axis. -/
  | withMargin
  | fixed (cap : Float)
deriving BEq

/-- The cap as one optional number: none is left to the renderer, zero follows from the data. -/
def AxisMax.ofNumber : Option Float → AxisMax
  | none => .auto
  | some x => if x == 0 then .withMargin else .fixed x

/-- How a cap follows from the largest value of the data. -/
structure MarginPolicy where
  factor : Float := 5
  margin : Float := 10
deriving BEq

def MarginPolicy.cap (p : MarginPolicy) (largest : Float) : Float := largest * p.factor + p.margin

structure Axis where
  title : String
  /-- The cap; without it the renderer chooses. -/
  cap : Option Float
  /-- The indexes of the series that the axis measures. -/
  series : List Nat
deriving BEq

end UsageReport.Chart
