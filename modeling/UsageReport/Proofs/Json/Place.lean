import Mathlib
import UsageReport.Proofs.Json.Fields
import UsageReport.Proofs.Json.Plain

/-! The places of the reader of JSON text. The moves from place to place alone decide what becomes
of the open containers: the fields of the outermost object only grow, and so does an array that is
one of its values. -/

namespace UsageReport.Json

/-! ### Moves -/

namespace Place

/-- The containers that are open around a place. -/
def outer : Place → List Frame
  | .value outer => outer
  | .firstItem outer => outer
  | .key _ outer => outer
  | .firstKey outer => outer
  | .colon _ _ outer => outer
  | .ended _ outer => outer

/-- The places to which the start of a value leads. -/
inductive Start (outer : List Frame) : Place → Prop where
  | array : Start outer (.firstItem outer)
  | object : Start outer (.firstKey outer)
  | atom {v : Value} : v.Plain → Start outer (.ended v outer)

/-- The moves from a place to the next one. -/
inductive Move : Place → Place → Prop where
  | value {outer place} : Start outer place → Move (.value outer) place
  | firstItem {outer place} : Start (.items [] :: outer) place → Move (.firstItem outer) place
  | noItem {outer} : Move (.firstItem outer) (.ended (.array []) outer)
  | firstKey {name outer} : Move (.firstKey outer) (.colon [] name outer)
  | noKey {outer} : Move (.firstKey outer) (.ended (.object []) outer)
  | key {done name outer} : Move (.key done outer) (.colon done name outer)
  | colon {done name outer} : Move (.colon done name outer) (.value (.member done name :: outer))
  | nextItem {v done outer} :
    Move (.ended v (.items done :: outer)) (.value (.items (v :: done) :: outer))
  | lastItem {v done outer} :
    Move (.ended v (.items done :: outer)) (.ended (.array (v :: done).reverse) outer)
  | nextKey {v done name outer} :
    Move (.ended v (.member done name :: outer)) (.key (done.set name v) outer)
  | lastKey {v done name outer} :
    Move (.ended v (.member done name :: outer)) (.ended (.object (done.set name v)) outer)

variable {place place' : Place} {outer : List Frame} {token : Token} {v : Value}

theorem start_of_start (plain : token.Plain) (started : start outer token = some place) :
    Start outer place := by
  cases token <;> simp only [start, Option.ite_none_right_eq_some, Option.some.injEq,
    reduceCtorEq] at started
  case arrayStart => exact started.2 ▸ .array
  case objectStart => exact started.2 ▸ .object
  case text => exact started ▸ .atom ⟨rfl, rfl⟩
  case scalar => exact started ▸ .atom plain

theorem move_of_next (plain : token.Plain) (moved : place.next token = some place') :
    Move place place' := by
  revert moved
  fun_cases next place token <;> intro moved
  case case1 => exact .value (start_of_start plain moved)
  case case3 => exact .firstItem (start_of_start plain moved)
  all_goals cases moved
  case case2.refl => exact .noItem
  all_goals constructor

/-- A value that is neither text nor a container ends at once. -/
theorem ended_of_scalar (moved : place.next (.scalar v) = some place') :
    ∃ outer, place' = .ended v outer := by
  cases place <;> simp only [next, start, Option.some.injEq, reduceCtorEq] at moved
  all_goals exact ⟨_, moved.symm⟩

theorem not_ended_of_comma : place.next .comma ≠ some (.ended v outer) := by
  intro moved
  have plain : Token.comma.Plain := trivial
  cases move_of_next plain moved
  case value started =>
    cases started
    cases moved
  case firstItem started =>
    cases started
    cases moved
  all_goals cases moved

theorem ended_of_objectEnd (moved : place.next .objectEnd = some place') :
    ∃ fields outer, place' = .ended (.object fields) outer := by
  have plain : Token.objectEnd.Plain := trivial
  cases move_of_next plain moved
  case value started => cases started <;> cases moved
  case firstItem started => cases started <;> cases moved
  all_goals cases moved
  all_goals exact ⟨_, _, rfl⟩

/-- Open containers stay as they are until a value of the innermost one has ended. -/
theorem around_of_move {base : List Frame} (move : Move place place')
    (around : base <:+ place.outer) : base <:+ place'.outer ∨ ∃ v, place = .ended v base := by
  cases move
  case value start => cases start <;> exact .inl around
  case firstItem start => cases start <;> exact .inl (around.trans (List.suffix_cons _ _))
  case noItem => exact .inl around
  case firstKey => exact .inl around
  case noKey => exact .inl around
  case key => exact .inl around
  case colon => exact .inl (around.trans (List.suffix_cons _ _))
  all_goals
    rcases List.suffix_cons_iff.1 around with rfl | inner
    · exact .inr ⟨_, rfl⟩
    · exact .inl (by simp only [outer, List.suffix_cons_iff, inner, or_true])

/-! ### The outermost object -/

/-- The key that has just been read is one that the outermost object has already. -/
def Repeats : Place → Prop
  | .colon done name [] => name ∈ done.names
  | _ => False

instance : DecidablePred Repeats
  | .colon done name [] => inferInstanceAs (Decidable (name ∈ done.names))
  | .colon _ _ (_ :: _) | .value _ | .firstItem _ | .key _ _ | .firstKey _ | .ended _ _ =>
    inferInstanceAs (Decidable False)

/-- The value that is being read for the outermost object has a key of its own. -/
def Fresh (place : Place) : Prop :=
  ∀ done name, [.member done name] <:+ place.outer → name ∉ done.names

theorem fresh_of_move (new : ¬ place.Repeats) (fresh : place.Fresh) (move : Move place place') :
    place'.Fresh := by
  intro done name bottom
  cases move
  -- Only behind a colon does a member become the last of the open containers.
  case colon =>
    rcases List.suffix_cons_iff.1 bottom with outermost | inner
    · cases outermost
      exact new
    · exact fresh done name inner
  case value start => cases start <;> exact fresh done name bottom
  case firstItem start =>
    cases start <;> exact fresh done name (by simpa [outer, List.suffix_cons_iff] using bottom)
  case nextItem => exact fresh done name (by simpa [outer, List.suffix_cons_iff] using bottom)
  case lastItem => exact fresh done name (bottom.trans (List.suffix_cons _ _))
  case nextKey => exact fresh done name (bottom.trans (List.suffix_cons _ _))
  case lastKey => exact fresh done name (bottom.trans (List.suffix_cons _ _))
  all_goals exact fresh done name bottom

/-- The fields which the outermost object has so far. -/
inductive Outermost : Place → Object → Prop where
  | firstKey : Outermost (.firstKey []) []
  | key {done} : Outermost (.key done []) done
  | colon {done name} : Outermost (.colon done name []) done
  | member {place done name} : [.member done name] <:+ place.outer → Outermost place done
  | ended {done} : Outermost (.ended (.object done) []) done

theorem outermost_of_move {fields : Object} (fresh : place.Fresh)
    (outermost : place.Outermost fields) (move : Move place place') :
    ∃ fields', place'.Outermost fields' ∧ fields <+: fields' := by
  cases outermost
  case member name bottom =>
    rcases around_of_move move bottom with bottom' | ⟨v, rfl⟩
    · exact ⟨fields, .member bottom', List.prefix_rfl⟩
    -- The value of the member has ended and joins the fields under a key of its own.
    · have new : name ∉ fields.names := fresh _ _ bottom
      cases move
      case nextKey => exact ⟨_, .key, Fields.prefix_set new v⟩
      case lastKey => exact ⟨_, .ended, Fields.prefix_set new v⟩
  case ended => cases move
  case key =>
    cases move
    exact ⟨fields, .colon, List.prefix_rfl⟩
  case colon =>
    cases move
    exact ⟨fields, .member List.suffix_rfl, List.prefix_rfl⟩
  case firstKey =>
    cases move
    case firstKey => exact ⟨[], .colon, List.prefix_rfl⟩
    case noKey => exact ⟨[], .ended, List.prefix_rfl⟩

theorem eq_of_outermost {fields fields' : Object}
    (outermost : (ended (.object fields) []).Outermost fields') : fields' = fields := by
  cases outermost
  case member bottom => cases List.suffix_nil.1 bottom
  case ended => rfl

/-- An array of the outermost object, under the key `name` and behind `fields`, begins with the
items `front`. -/
inductive Lists (fields : Object) (name : String) (front : List Value) : Place → Prop where
  | inside {place done} : [.items done, .member fields name] <:+ place.outer →
    front <+: done.reverse → Lists fields name front place
  | closed {items} : front <+: items →
    Lists fields name front (.ended (.array items) [.member fields name])
  | behind {place fields' items} : place.Outermost fields' →
    fields.set name (.array items) <+: fields' → front <+: items →
    Lists fields name front place

theorem lists_of_move {fields : Object} {name : String} {front : List Value} (fresh : place.Fresh)
    (lists : place.Lists fields name front) (move : Move place place') :
    place'.Lists fields name front := by
  cases lists
  case inside done begins around =>
    rcases around_of_move move around with around' | ⟨v, rfl⟩
    · exact .inside around' begins
    · have longer : front <+: (v :: done).reverse := by
        rw [List.reverse_cons]
        exact begins.trans (List.prefix_append _ _)
      cases move
      case nextItem => exact .inside List.suffix_rfl longer
      case lastItem => exact .closed longer
  case closed items begins =>
    cases move
    case nextKey => exact .behind .key List.prefix_rfl begins
    case lastKey => exact .behind .ended List.prefix_rfl begins
  case behind before items kept begins outermost =>
    obtain ⟨after, outermost', kept'⟩ := outermost_of_move fresh outermost move
    exact .behind outermost' (kept.trans kept') begins

theorem fresh_lists_of_move {fields : Object} {name : String} {front : List Value}
    (new : ¬ place.Repeats) (move : Move place place')
    (kept : place.Fresh ∧ place.Lists fields name front) :
    place'.Fresh ∧ place'.Lists fields name front :=
  ⟨fresh_of_move new kept.1 move, lists_of_move kept.1 kept.2 move⟩

end Place

end UsageReport.Json
