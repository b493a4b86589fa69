import UsageReport.Metric.Keyed
import UsageReport.Number.Order

/-! The order in which a map gives its values. It is any, and every map of a run has its own, so
that the sum of the same values may be rounded in another way by another run. -/

namespace UsageReport.Metric

/-- An order in which a map gives its values. -/
structure Enumeration where
  values : List Number → List Number
  perm : ∀ all, (values all).Perm all

namespace Enumeration

/-- The values in the order in which their keys came first. -/
def arrival : Enumeration := ⟨id, fun _ => .rfl⟩

def sum {κ : Type} (e : Enumeration) (entries : Keyed κ Number) : Number :=
  Number.sum (e.values (entries.map Prod.snd))

end Enumeration

/-- The orders of the maps of a run. Each sample has a map of the CPU time of its tasks and one of
the memory of its processes. -/
class Orders where
  usage : (index : Nat) → Enumeration
  memory : (index : Nat) → Enumeration

instance Orders.arrival : Orders := ⟨fun _ => .arrival, fun _ => .arrival⟩

end UsageReport.Metric
