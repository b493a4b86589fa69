/-! Values under keys, in the order in which the keys came first. -/

namespace UsageReport.Metric

abbrev Keyed (κ α : Type) := List (κ × α)

namespace Keyed

variable {κ α : Type} [DecidableEq κ]

/-- Replaces the value under a key by a function of it; a new key goes to the end. -/
def update (entries : Keyed κ α) (key : κ) (f : Option α → α) : Keyed κ α :=
  match entries with
  | [] => [(key, f none)]
  | (k, a) :: rest => if k = key then (k, f (some a)) :: rest else (k, a) :: update rest key f

def put (entries : Keyed κ α) (key : κ) (a : α) : Keyed κ α := entries.update key fun _ => a

def latest (pairs : List (κ × α)) : Keyed κ α := pairs.foldl (fun all (key, a) => all.put key a) []

theorem lookup_update (entries : Keyed κ α) (key key' : κ) (f : Option α → α) :
    List.lookup key' (entries.update key f)
      = if key' = key then some (f (entries.lookup key)) else entries.lookup key' := by
  induction entries with
  | nil => grind [update]
  | cons entry rest ih => grind [update]

theorem keys_update (entries : Keyed κ α) (key : κ) (f : Option α → α) :
    (entries.update key f).map Prod.fst
      = if key ∈ entries.map Prod.fst then entries.map Prod.fst
        else entries.map Prod.fst ++ [key] := by
  induction entries with
  | nil => rfl
  | cons entry rest ih => grind [update]

end Keyed

end UsageReport.Metric
