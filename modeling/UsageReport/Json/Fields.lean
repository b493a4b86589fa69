/-! Lists of named fields in document order: replacing a field keeps its place, a new field goes to
the end, and removing a field moves the last one into the hole. -/

namespace UsageReport.Json

abbrev Fields (α : Type) := List (String × α)

namespace Fields

variable {α : Type}

def names (fields : Fields α) : List String := fields.map Prod.fst

/-- Gives `key` the value `v`, in its place if it is there and at the end if it is new. -/
def set (fields : Fields α) (key : String) (v : α) : Fields α :=
  match fields with
  | [] => [(key, v)]
  | (k, w) :: rest => if k = key then (key, v) :: rest else (k, w) :: set rest key v

/-- The fields without `key`. The last field moves into its place. -/
def swapRemove (fields : Fields α) (key : String) : Fields α :=
  match fields with
  | [] => []
  | (k, w) :: rest =>
    if k = key then
      match rest.getLast? with
      | none => []
      | some last => last :: rest.dropLast
    else (k, w) :: swapRemove rest key

theorem lookup_set (fields : Fields α) (key key' : String) (v : α) :
    (fields.set key v).lookup key' = if key' = key then some v else fields.lookup key' := by
  induction fields with
  | nil => grind [set]
  | cons field rest ih => grind [set]

theorem names_set (fields : Fields α) (key : String) (v : α) :
    (fields.set key v).names
      = if key ∈ fields.names then fields.names else fields.names ++ [key] := by
  induction fields with
  | nil => rfl
  | cons field rest ih => grind [set, names]

theorem names_set_nodup {fields : Fields α} (h : fields.names.Nodup) (key : String) (v : α) :
    (fields.set key v).names.Nodup := by
  rw [names_set]
  split
  · exact h
  · rw [List.nodup_append]
    grind

end Fields

end UsageReport.Json
