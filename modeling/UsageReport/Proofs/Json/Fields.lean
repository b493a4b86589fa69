import Mathlib
import UsageReport.Json.Fields

/-! Named fields as a mapping: where no name stands twice, a field is found under its name wherever
it stands, and removing a field leaves all others. -/

namespace UsageReport.Json.Fields

variable {α : Type} {fields fields' : Fields α} {key key' : String} {v : α}

/-- Giving every field a value of its own name and value changes no name. -/
theorem lookup_map_values {β : Type} (change : String → α → β) :
    (fields.map fun (name, v) => (name, change name v)).lookup key
      = (fields.lookup key).map (change key) := by
  induction fields with
  | nil => rfl
  | cons field rest ih =>
    obtain ⟨name, w⟩ := field
    rw [List.map_cons, List.lookup_cons, List.lookup_cons, ih]
    by_cases same : key = name
    · subst same
      rw [beq_self_eq_true]
      rfl
    · rw [beq_false_of_ne same]

/-- Whatever the keys are, a pair whose key stands once is found under it. -/
theorem lookup_eq_some_iff_mem {κ : Type} [DecidableEq κ] {pairs : List (κ × α)} {key : κ}
    (distinct : (pairs.map Prod.fst).Nodup) : pairs.lookup key = some v ↔ (key, v) ∈ pairs := by
  induction pairs with
  | nil => simp
  | cons pair rest ih =>
    obtain ⟨name, w⟩ := pair
    rw [List.map_cons, List.nodup_cons] at distinct
    rw [List.lookup_cons, List.mem_cons, Prod.mk.injEq]
    by_cases same : key = name
    · subst same
      have absent : (key, v) ∉ rest := fun inside =>
        distinct.1 (List.mem_map.2 ⟨(key, v), inside, rfl⟩)
      simp [absent, eq_comm]
    · have other : (key == name) = false := beq_false_of_ne same
      simp [other, same, ih distinct.2]

theorem lookup_eq_none_iff_keys {κ : Type} [DecidableEq κ] {pairs : List (κ × α)} {key : κ} :
    pairs.lookup key = none ↔ key ∉ pairs.map Prod.fst := by
  rw [List.lookup_eq_none_iff, List.mem_map]
  constructor
  · rintro other ⟨pair, inside, rfl⟩
    exact absurd rfl (bne_iff_ne.1 (other pair inside))
  · intro new pair inside
    exact bne_iff_ne.2 fun same => new ⟨pair, inside, same.symm⟩

theorem lookup_perm (distinct : fields.names.Nodup) (same : fields.Perm fields') :
    fields'.lookup key = fields.lookup key := by
  have distinct' : fields'.names.Nodup := (same.map Prod.fst).nodup_iff.1 distinct
  apply Option.ext
  intro v
  rw [lookup_eq_some_iff_mem distinct, lookup_eq_some_iff_mem distinct', same.mem_iff]

theorem mem_names_of_lookup (inside : fields.lookup key = some v) : key ∈ fields.names := by
  obtain ⟨before, after, rfl, -⟩ := List.lookup_eq_some_iff.1 inside
  simp [names]

theorem lookup_of_prefix (before : fields <+: fields') (inside : fields.lookup key = some v) :
    fields'.lookup key = some v := by
  obtain ⟨others, rfl⟩ := before
  rw [List.lookup_append, inside, Option.some_or]

/-- A field under a new name goes to the end. -/
theorem set_of_new (new : key ∉ fields.names) (v : α) : fields.set key v = fields ++ [(key, v)] := by
  induction fields with
  | nil => rfl
  | cons field rest ih =>
    obtain ⟨other, new⟩ := not_or.1 (List.mem_cons.not.1 new)
    rw [set, if_neg (Ne.symm other), ih new, List.cons_append]

theorem prefix_set (new : key ∉ fields.names) (v : α) : fields <+: fields.set key v := by
  rw [set_of_new new]
  exact List.prefix_append fields [(key, v)]

/-- Where no name stands twice, a field has one place only. -/
theorem split_unique {front front' back back' : Fields α} {v w : α}
    (distinct : (names (front ++ (key, v) :: back)).Nodup)
    (same : front ++ (key, v) :: back = front' ++ (key, w) :: back') :
    front = front' ∧ v = w ∧ back = back' := by
  rw [names, List.map_append, List.map_cons, List.nodup_middle, List.nodup_cons, List.mem_append,
    not_or] at distinct
  obtain ⟨⟨newFront, newBack⟩, -⟩ := distinct
  have absent (fields : Fields α) (new : key ∉ fields.names) : (key, w) ∉ fields :=
    fun inside => new (List.mem_map_of_mem inside)
  obtain ⟨fronts, field, backs⟩ :=
    (List.append_cons_inj_of_notMem (absent front newFront) (absent back newBack)).1 same
  exact ⟨fronts, (Prod.mk.inj field).2, backs⟩

/-- A field is put back in front of all others, which stand in another order. -/
theorem perm_swapRemove (inside : fields.lookup key = some v) :
    ((key, v) :: fields.swapRemove key).Perm fields := by
  induction fields with
  | nil => cases inside
  | cons field rest ih =>
    obtain ⟨name, w⟩ := field
    rw [List.lookup_cons] at inside
    by_cases same : name = key
    · subst same
      simp only [beq_self_eq_true, Option.some.injEq] at inside
      subst inside
      rw [swapRemove, if_pos rfl]
      cases last : rest.getLast? with
      | none =>
        rw [List.getLast?_eq_none_iff.1 last]
      | some field =>
        obtain ⟨front, rfl⟩ := List.getLast?_eq_some_iff.1 last
        rw [List.dropLast_concat]
        exact (List.perm_append_singleton field front).symm.cons (name, w)
    · have other : (key == name) = false := beq_false_of_ne (Ne.symm same)
      rw [other] at inside
      rw [swapRemove, if_neg same]
      exact (List.Perm.swap _ _ _).trans ((ih inside).cons (name, w))

/-- A field that is replaced by way of removing it leaves all others as they are. -/
theorem lookup_set_swapRemove (distinct : fields.names.Nodup) (inside : fields.lookup key = some v)
    (w : α) (other : key' ≠ key) :
    ((fields.swapRemove key).set key w).lookup key' = fields.lookup key' := by
  have whole := perm_swapRemove inside
  rw [lookup_set, if_neg other, lookup_perm ((whole.map Prod.fst).nodup_iff.2 distinct) whole,
    List.lookup_cons, beq_false_of_ne other]

theorem nodup_names_swapRemove (distinct : fields.names.Nodup)
    (inside : fields.lookup key = some v) : (fields.swapRemove key).names.Nodup :=
  (List.nodup_cons.1 (((perm_swapRemove inside).map Prod.fst).nodup_iff.2 distinct)).2

end UsageReport.Json.Fields
