import Mathlib

/-! Chains of steps that may fail. A chain succeeds where each of its steps does. -/

namespace UsageReport

variable {ε δ α β : Type}

/-! ### Paired lists -/

theorem exists_of_mem_forall₂ {R : α → β → Prop} {items : List α} {results : List β}
    (paired : List.Forall₂ R items results) {b : β} (inside : b ∈ results) :
    ∃ a ∈ items, R a b := by
  induction paired with
  | nil => cases inside
  | @cons a b' items results first rest ih =>
    rcases List.mem_cons.1 inside with rfl | inside
    · exact ⟨a, List.mem_cons_self, first⟩
    · obtain ⟨a', there, related⟩ := ih inside
      exact ⟨a', List.mem_cons_of_mem a there, related⟩

theorem map_eq_of_forall₂ {κ : Type} {f : α → κ} {g : β → κ} {items : List α} {results : List β}
    (paired : List.Forall₂ (fun a b => f a = g b) items results) :
    items.map f = results.map g := by
  induction paired with
  | nil => rfl
  | cons first _ ih => rw [List.map_cons, List.map_cons, first, ih]

/-! ### One chain -/

theorem ok_bind (a : α) (next : α → Except ε β) : (Except.ok a >>= next) = next a := rfl

theorem bind_eq_ok_iff {x : Except ε α} {next : α → Except ε β} {b : β} :
    (x >>= next) = .ok b ↔ ∃ a, x = .ok a ∧ next a = .ok b := by
  cases x with
  | error fault => simp [bind, Except.bind]
  | ok a => simp [bind, Except.bind]

theorem mapError_eq_ok_iff {x : Except ε α} {fault : ε → δ} {a : α} :
    x.mapError fault = .ok a ↔ x = .ok a := by
  cases x <;> simp [Except.mapError]

/-- Steps that all succeed give all their results. -/
theorem mapM_eq_ok {f : α → Except ε β} {g : α → β} {items : List α}
    (each : ∀ a ∈ items, f a = .ok (g a)) : items.mapM f = .ok (items.map g) := by
  induction items with
  | nil => rfl
  | cons a items ih =>
    obtain ⟨first, rest⟩ := List.forall_mem_cons.1 each
    rw [List.mapM_cons, first, ih rest]
    rfl

theorem mapM_congr {f g : α → Except ε β} {items : List α} (each : ∀ a ∈ items, f a = g a) :
    items.mapM f = items.mapM g := by
  induction items with
  | nil => rfl
  | cons a items ih =>
    obtain ⟨first, rest⟩ := List.forall_mem_cons.1 each
    rw [List.mapM_cons, List.mapM_cons, first, ih rest]

theorem mapM_eq_ok_iff {f : α → Except ε β} {items : List α} {results : List β} :
    items.mapM f = .ok results ↔ List.Forall₂ (fun a b => f a = .ok b) items results := by
  induction items generalizing results with
  | nil =>
    rw [List.forall₂_nil_left_iff, List.mapM_nil]
    exact ⟨fun made => (Except.ok.inj made).symm, fun none => none ▸ rfl⟩
  | cons a items ih =>
    rw [List.mapM_cons, bind_eq_ok_iff, List.forall₂_cons_left_iff]
    constructor
    · rintro ⟨b, first, rest⟩
      obtain ⟨others, made, same⟩ := bind_eq_ok_iff.1 rest
      exact ⟨b, others, first, ih.1 made, (Except.ok.inj same).symm⟩
    · rintro ⟨b, others, first, rest, rfl⟩
      exact ⟨b, first, bind_eq_ok_iff.2 ⟨others, ih.2 rest, rfl⟩⟩

theorem exists_of_mem_mapM {f : α → Except ε β} {items : List α} {results : List β}
    (made : items.mapM f = .ok results) {b : β} (inside : b ∈ results) :
    ∃ a ∈ items, f a = .ok b :=
  exists_of_mem_forall₂ (mapM_eq_ok_iff.1 made) inside

/-- Steps that all succeed give as many results as there are steps. -/
theorem length_mapM {f : α → Except ε β} {items : List α}
    (each : ∀ a ∈ items, ∃ b, f a = .ok b) :
    ∃ results, items.mapM f = .ok results ∧ results.length = items.length := by
  induction items with
  | nil => exact ⟨[], rfl, rfl⟩
  | cons a items ih =>
    obtain ⟨⟨b, first⟩, rest⟩ := List.forall_mem_cons.1 each
    obtain ⟨results, others, count⟩ := ih rest
    refine ⟨b :: results, ?_, congrArg (· + 1) count⟩
    rw [List.mapM_cons, first, others]
    rfl

/-! ### Two chains -/

section
variable {γ κ : Type} {R : α → β → Prop} {S : γ → δ → Prop}

/-- Where the first chain succeeds the second one does too, and their results are related. -/
def Follows (R : α → β → Prop) (x : Except ε α) (y : Except ε β) : Prop :=
  ∀ a, x = .ok a → ∃ b, y = .ok b ∧ R a b

theorem Follows.pure {a : α} {b : β} (related : R a b) :
    Follows R (pure a : Except ε α) (pure b) := by
  rintro _ ⟨⟩
  exact ⟨b, rfl, related⟩

theorem Follows.bind {x : Except ε α} {y : Except ε β} {f : α → Except ε γ} {g : β → Except ε δ}
    (first : Follows R x y) (rest : ∀ a b, R a b → Follows S (f a) (g b)) :
    Follows S (x >>= f) (y >>= g) := by
  intro c made
  obtain ⟨a, made, then'⟩ := bind_eq_ok_iff.1 made
  obtain ⟨b, made', related⟩ := first a made
  obtain ⟨d, then'', related'⟩ := rest a b related c then'
  exact ⟨d, bind_eq_ok_iff.2 ⟨b, made', then''⟩, related'⟩

theorem Follows.mapM {f : κ → Except ε α} {g : κ → Except ε β} {items : List κ}
    (each : ∀ item ∈ items, Follows R (f item) (g item)) :
    Follows (List.Forall₂ R) (items.mapM f) (items.mapM g) := by
  induction items with
  | nil => exact .pure .nil
  | cons item items ih =>
    obtain ⟨first, rest⟩ := List.forall_mem_cons.1 each
    rw [List.mapM_cons, List.mapM_cons]
    exact first.bind fun _ _ related => (ih rest).bind fun _ _ others =>
      .pure (.cons related others)

end

end UsageReport
