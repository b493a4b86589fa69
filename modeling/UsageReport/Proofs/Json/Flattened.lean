import Mathlib
import UsageReport.Capture.Sample
import UsageReport.Proofs.Json.Fields

/-! Nested fields and flat ones. A nested object is flattened by putting its fields in its place,
each under the name of the object and its own name, joined by a point. A number under a path of two
names is found in either layout. -/

namespace UsageReport.Json

open UsageReport.Capture (lookupNumber? numberAlong? numberOf?)

/-! ### Joined names -/

def joined (name key : String) : String := name ++ "." ++ key

/-- The text is one name of a path. -/
def Dotless (name : String) : Prop := '.' ∉ name.toList

instance (name : String) : Decidable (Dotless name) := inferInstanceAs (Decidable (_ ∉ _))

theorem toList_joined (name key : String) :
    (joined name key).toList = name.toList ++ '.' :: key.toList := by
  rw [joined, String.toList_append, String.toList_append, List.append_assoc]
  rfl

theorem Dotless.ne_joined {name : String} (dotless : Dotless name) (name' key : String) :
    name ≠ joined name' key := by
  rintro rfl
  rw [Dotless, toList_joined] at dotless
  simp at dotless

theorem takeWhile_joined {name : String} (dotless : Dotless name) (key : String) :
    (joined name key).toList.takeWhile (· ≠ '.') = name.toList := by
  have plain : ∀ c ∈ name.toList, decide (c ≠ '.') = true := by
    intro c inside
    exact decide_eq_true fun dot => dotless (dot ▸ inside)
  rw [toList_joined, List.takeWhile_append_of_pos plain, List.takeWhile_cons_of_neg (by simp),
    List.append_nil]

theorem joined_inj {name name' key key' : String} (dotless : Dotless name)
    (dotless' : Dotless name') :
    joined name key = joined name' key' ↔ name = name' ∧ key = key' := by
  constructor
  · intro same
    have first : name = name' := by
      rw [← String.toList_inj, ← takeWhile_joined dotless key, same, takeWhile_joined dotless']
    subst first
    rw [← String.toList_inj, toList_joined, toList_joined, List.append_cancel_left_eq,
      List.cons.injEq, String.toList_inj] at same
    exact ⟨rfl, same.2⟩
  · rintro ⟨rfl, rfl⟩
    rfl

/-! ### Flat fields -/

/-- The field of an object under one of the names is replaced by the fields of the object. -/
def spread (names : List String) (name : String) : Value → Object
  | .object inner =>
    if name ∈ names then inner.map fun (key, w) => (joined name key, w) else [(name, .object inner)]
  | v => [(name, v)]

def flattened (names : List String) (fields : Object) : Object :=
  fields.flatMap fun (name, v) => spread names name v

variable {names : List String} {fields inner : Object} {name key : String} {v : Value}

/-- A field stays as it is, or the fields of an object come in its place. -/
theorem spread_cases (names : List String) (name : String) (v : Value) :
    (∃ inner, v = .object inner ∧ name ∈ names
      ∧ spread names name v = inner.map fun (key, w) => (joined name key, w))
    ∨ (name ∈ names → v.object? = none) ∧ spread names name v = [(name, v)] := by
  cases v with
  | object inner =>
    by_cases moved : name ∈ names
    · exact .inl ⟨inner, rfl, moved, by rw [spread, if_pos moved]⟩
    · exact .inr ⟨fun inside => absurd inside moved, by rw [spread, if_neg moved]⟩
  | _ => exact .inr ⟨fun _ => rfl, rfl⟩

theorem flattened_cons (names : List String) (name : String) (v : Value) (rest : Object) :
    flattened names ((name, v) :: rest) = spread names name v ++ flattened names rest := rfl

theorem flattened_nil (fields : Object) : flattened [] fields = fields := by
  have kept (field : String × Value) : spread [] field.1 field.2 = [field] := by
    obtain ⟨inner, -, moved, -⟩ | ⟨-, same⟩ := spread_cases [] field.1 field.2
    · cases moved
    · exact same
  rw [flattened]
  simp only [kept, List.flatMap_singleton']

theorem lookup_joined (inner : Object) (key : String) (dotless : Dotless name) :
    (inner.map fun (key, w) => (joined name key, w)).lookup (joined name key)
      = inner.lookup key := by
  induction inner with
  | nil => rfl
  | cons field rest ih =>
    obtain ⟨key', w⟩ := field
    rw [List.map_cons, List.lookup_cons, List.lookup_cons, ih]
    by_cases same : key = key'
    · rw [same, beq_self_eq_true, beq_self_eq_true]
    · have other : joined name key ≠ joined name key' := fun equal =>
        same ((joined_inj dotless dotless).1 equal).2
      rw [beq_false_of_ne same, beq_false_of_ne other]

theorem lookup_joined_of_ne {path : String} (other : ∀ key, path ≠ joined name key) :
    (inner.map fun (key, w) => (joined name key, w)).lookup path = none := by
  rw [List.lookup_eq_none_iff]
  intro field inside
  obtain ⟨⟨key, w⟩, -, rfl⟩ := List.mem_map.1 inside
  exact bne_iff_ne.2 (other key)

/-- A field whose name is neither one of the given ones nor a joined one is left alone. -/
theorem lookup_flattened_of_ne {path : String} (kept : path ∉ names)
    (other : ∀ name ∈ names, ∀ key, path ≠ joined name key) :
    (flattened names fields).lookup path = fields.lookup path := by
  induction fields with
  | nil => rfl
  | cons field rest ih =>
    obtain ⟨name, v⟩ := field
    rw [flattened_cons, List.lookup_append, ih, List.lookup_cons]
    obtain ⟨inner, -, moved, whole⟩ | ⟨-, whole⟩ := spread_cases names name v
    · have differ : path ≠ name := fun same => kept (same ▸ moved)
      rw [whole, lookup_joined_of_ne (other name moved), Option.none_or, beq_false_of_ne differ]
    · rw [whole, List.lookup_cons, List.lookup_nil]
      cases path == name <;> rfl

/-- Under one of the names there is no object any more. -/
theorem lookup_flattened_moved (dotless : ∀ name ∈ names, Dotless name) (moved : name ∈ names)
    (distinct : fields.names.Nodup) :
    (flattened names fields).lookup name
      = (fields.lookup name).filter (·.object?.isNone) := by
  induction fields with
  | nil => rfl
  | cons field rest ih =>
    obtain ⟨name', v⟩ := field
    obtain ⟨new, others⟩ := List.nodup_cons.1 distinct
    rw [flattened_cons, List.lookup_append, ih others, List.lookup_cons]
    have joinedName (key : String) : name ≠ joined name' key :=
      (dotless name moved).ne_joined name' key
    by_cases same : name = name'
    · subst same
      have absent : rest.lookup name = none := Fields.lookup_eq_none_iff_keys.2 new
      rw [absent, beq_self_eq_true]
      obtain ⟨inner, rfl, -, whole⟩ | ⟨kept, whole⟩ := spread_cases names name v
      · rw [whole, lookup_joined_of_ne joinedName]
        rfl
      · rw [whole, List.lookup_cons, beq_self_eq_true]
        simp [Option.filter_some, kept moved]
    · rw [beq_false_of_ne same]
      obtain ⟨inner, -, -, whole⟩ | ⟨-, whole⟩ := spread_cases names name' v
      · rw [whole, lookup_joined_of_ne joinedName, Option.none_or]
      · rw [whole, List.lookup_cons, beq_false_of_ne same, List.lookup_nil, Option.none_or]

/-- The field of an object under the name. -/
def nested? (fields : Object) (name key : String) : Option Value :=
  ((fields.lookup name).bind Value.object?).bind (·.lookup key)

/-- Under a joined name there is the field of the object, or else what was there before. -/
theorem lookup_flattened_joined (dotless : ∀ name ∈ names, Dotless name) (moved : name ∈ names)
    (distinct : fields.names.Nodup)
    (fresh : (nested? fields name key).isSome → joined name key ∉ fields.names) :
    (flattened names fields).lookup (joined name key)
      = (nested? fields name key).or (fields.lookup (joined name key)) := by
  induction fields with
  | nil => rfl
  | cons field rest ih =>
    obtain ⟨name', v⟩ := field
    obtain ⟨new, others⟩ := List.nodup_cons.1 distinct
    have plain := dotless name moved
    rw [flattened_cons, List.lookup_append]
    by_cases same : name = name'
    · subst same
      have absent : nested? rest name key = none := by
        rw [nested?, Fields.lookup_eq_none_iff_keys.2 new]
        rfl
      have differ : joined name key ≠ name := (plain.ne_joined name key).symm
      rw [ih others (by simp [absent]), absent, Option.none_or, List.lookup_cons,
        beq_false_of_ne differ]
      congr 1
      rw [nested?, List.lookup_cons, beq_self_eq_true]
      obtain ⟨inner, rfl, -, whole⟩ | ⟨kept, whole⟩ := spread_cases names name v
      · rw [whole, lookup_joined inner key plain]
        rfl
      · rw [whole, List.lookup_cons, beq_false_of_ne differ]
        simp [kept moved]
    · have before : nested? ((name', v) :: rest) name key = nested? rest name key := by
        rw [nested?, List.lookup_cons, beq_false_of_ne same, nested?]
      rw [before] at fresh ⊢
      have later : (nested? rest name key).isSome → joined name key ∉ Fields.names rest :=
        fun known inside => fresh known (List.mem_cons_of_mem _ inside)
      rw [ih others later]
      obtain ⟨inner, -, moved', whole⟩ | ⟨-, whole⟩ := spread_cases names name' v
      · have apart (key' : String) : joined name key ≠ joined name' key' := fun equal =>
          same ((joined_inj plain (dotless name' moved')).1 equal).1
        have differ : joined name key ≠ name' := ((dotless name' moved').ne_joined name key).symm
        rw [whole, lookup_joined_of_ne apart, Option.none_or, List.lookup_cons,
          beq_false_of_ne differ]
      · rw [whole, List.lookup_cons, List.lookup_cons, List.lookup_nil]
        by_cases here : joined name key = name'
        · have unknown : nested? rest name key = none := by
            rw [← Option.not_isSome_iff_eq_none]
            exact fun known => fresh known (here ▸ List.mem_cons_self)
          rw [unknown, here, beq_self_eq_true]
          rfl
        · rw [beq_false_of_ne here, Option.none_or]

/-- What is made from the names does not change where it is made from kept names alone. -/
theorem filterMap_names_flattened {β : Type} {make : String → Option β}
    (gone : ∀ name ∈ names, make name = none ∧ ∀ key, make (joined name key) = none) :
    (flattened names fields).names.filterMap make = fields.names.filterMap make := by
  induction fields with
  | nil => rfl
  | cons field rest ih =>
    obtain ⟨name, v⟩ := field
    have split : (flattened names ((name, v) :: rest)).names
        = (spread names name v).map Prod.fst ++ (flattened names rest).names := by
      rw [flattened_cons, Fields.names, List.map_append, Fields.names]
    rw [split, List.filterMap_append, ih]
    obtain ⟨inner, -, moved, whole⟩ | ⟨-, whole⟩ := spread_cases names name v
    · have none : ((spread names name v).map Prod.fst).filterMap make = [] := by
        rw [whole, List.map_map, List.filterMap_eq_nil_iff]
        intro path inside
        obtain ⟨⟨key, w⟩, -, rfl⟩ := List.mem_map.1 inside
        exact (gone name moved).2 key
      rw [none, List.nil_append, Fields.names, Fields.names, List.map_cons,
        List.filterMap_cons_none (gone name moved).1]
    · rw [whole]
      exact List.filterMap_append.symm

/-! ### Numbers -/

theorem numberAlong?_pair (fields : Object) (name key : String) :
    numberAlong? fields [name, key]
      = ((fields.lookup (joined name key)).or (nested? fields name key)).bind numberOf? := by
  have path : ".".intercalate [name, key] = joined name key := rfl
  have last : ".".intercalate [key] = key := rfl
  rw [numberAlong?, path]
  cases fields.lookup (joined name key) with
  | some v => rfl
  | none =>
    rw [if_neg (List.cons_ne_nil _ _), Option.none_or, nested?]
    cases (fields.lookup name).bind Value.object? with
    | none => rfl
    | some inner =>
      rw [Option.bind_some, Option.bind_some, numberAlong?, last]
      cases inner.lookup key with
      | some v => rfl
      | none => rw [if_pos rfl, Option.bind_none]

theorem lookupNumber?_joined {name key : String} (dotless : Dotless name) (dotless' : Dotless key)
    (fields : Object) :
    lookupNumber? fields (joined name key) = numberAlong? fields [name, key] := by
  have split : (joined name key).toList.splitOn '.' = [name.toList, key.toList] := by
    have inside : ∀ part ∈ [name.toList, key.toList], '.' ∉ part := by
      rw [List.forall_mem_cons, List.forall_mem_singleton]
      exact ⟨dotless, dotless'⟩
    rw [← List.splitOn_intercalate '.' inside (List.cons_ne_nil _ _), toList_joined]
    congr 1
    simp [List.intercalate]
  rw [lookupNumber?, split, List.map_cons, List.map_singleton, String.ofList_toList,
    String.ofList_toList]

theorem lookupNumber?_dotless {name : String} (dotless : Dotless name) (fields : Object) :
    lookupNumber? fields name = (fields.lookup name).bind numberOf? := by
  have split : name.toList.splitOn '.' = [name.toList] := by
    have inside : ∀ part ∈ [name.toList], '.' ∉ part := by
      rw [List.forall_mem_singleton]
      exact dotless
    rw [← List.splitOn_intercalate '.' inside (List.cons_ne_nil _ _)]
    congr 1
    simp [List.intercalate]
  have path : ".".intercalate [name] = name := rfl
  rw [lookupNumber?, split, List.map_singleton, String.ofList_toList, numberAlong?, path]
  cases fields.lookup name with
  | some v => rfl
  | none => rw [if_pos rfl, Option.bind_none]

/-- A number of a nested object is found in the flat fields too. -/
theorem lookupNumber?_flattened (dotless : ∀ name ∈ names, Dotless name) (moved : name ∈ names)
    (dotless' : Dotless key) (distinct : fields.names.Nodup)
    (fresh : (nested? fields name key).isSome → joined name key ∉ fields.names) :
    lookupNumber? (flattened names fields) (joined name key)
      = lookupNumber? fields (joined name key) := by
  have unnested : nested? (flattened names fields) name key = none := by
    rw [nested?, lookup_flattened_moved dotless moved distinct]
    cases fields.lookup name with
    | none => rfl
    | some v =>
      rw [Option.filter_some]
      cases object : v.object? <;> simp [object]
  rw [lookupNumber?_joined (dotless name moved) dotless',
    lookupNumber?_joined (dotless name moved) dotless', numberAlong?_pair, numberAlong?_pair,
    unnested, Option.or_none, lookup_flattened_joined dotless moved distinct fresh]
  -- Where there is a nested number there is no flat one, so that the order does not matter.
  cases known : nested? fields name key with
  | none => rw [Option.none_or, Option.or_none]
  | some v =>
    rw [Fields.lookup_eq_none_iff_keys.2 (fresh (by rw [known]; rfl)), Option.none_or,
      Option.some_or]

end UsageReport.Json
