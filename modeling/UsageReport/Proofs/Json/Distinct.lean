import Mathlib
import UsageReport.Proofs.Json.Reader

/-! Documents without repeated names. A name that is read again in an object replaces its field, so
that no object of a document that was read has two fields of one name. -/

namespace UsageReport.Json

/-! ### Values -/

/-- No object in the value has two fields of one name. -/
inductive Value.Distinct : Value → Prop where
  | null : Distinct .null
  | bool {b : Bool} : Distinct (.bool b)
  | integer {n : Int} : Distinct (.integer n)
  | real {x : Float} : Distinct (.real x)
  | string {s : String} : Distinct (.string s)
  | array {items : List Value} : (∀ v ∈ items, v.Distinct) → Distinct (.array items)
  | object {fields : List (String × Value)} : (fields.map Prod.fst).Nodup →
    (∀ field ∈ fields, field.2.Distinct) → Distinct (.object fields)

namespace Value

variable {v w : Value} {fields : Object} {items : List Value} {key : String}

theorem Distinct.names (distinct : (Value.object fields).Distinct) : fields.names.Nodup := by
  cases distinct with
  | object names _ => exact names

theorem Distinct.field (distinct : (Value.object fields).Distinct)
    (inside : fields.lookup key = some v) : v.Distinct := by
  cases distinct with
  | object names values =>
    exact values (key, v) ((Fields.lookup_eq_some_iff_mem names).1 inside)

theorem Distinct.item (distinct : (Value.array items).Distinct) (inside : v ∈ items) :
    v.Distinct := by
  cases distinct with
  | array values => exact values v inside

theorem Distinct.cons (value : v.Distinct) (distinct : (Value.array items).Distinct) :
    (Value.array (v :: items)).Distinct := by
  refine .array fun w inside => ?_
  rcases List.mem_cons.1 inside with rfl | inside
  · exact value
  · exact distinct.item inside

theorem Distinct.set (distinct : (Value.object fields).Distinct) (value : v.Distinct) :
    (Value.object (fields.set key v)).Distinct := by
  have names := Fields.names_set_nodup distinct.names key v
  refine .object names fun field inside => ?_
  have found := (Fields.lookup_eq_some_iff_mem names).2 inside
  rw [Fields.lookup_set] at found
  split at found
  · cases found
    exact value
  · exact distinct.field found

theorem object?_eq_some (fields? : v.object? = some fields) : v = .object fields := by
  cases v <;> cases fields?
  rfl

theorem array?_eq_some (items? : v.array? = some items) : v = .array items := by
  cases v <;> cases items?
  rfl

theorem Plain.distinct (plain : v.Plain) : v.Distinct := by
  obtain ⟨array, object⟩ := plain
  cases v with
  | null => exact .null
  | bool => exact .bool
  | integer => exact .integer
  | real => exact .real
  | string => exact .string
  | array => cases array
  | object => cases object

end Value

/-! ### Places -/

def Frame.Distinct : Frame → Prop
  | .items done => (Value.array done).Distinct
  | .member done _ => (Value.object done).Distinct

/-- What has been read so far has no repeated names. -/
def Place.Distinct (place : Place) : Prop :=
  (∀ frame ∈ place.outer, frame.Distinct) ∧ match place with
    | .key done _ | .colon done _ _ => (Value.object done).Distinct
    | .ended v _ => v.Distinct
    | _ => True

namespace Place

variable {place place' : Place} {outer : List Frame} {token : Token}

theorem distinct_of_start (plain : token.Plain) (around : ∀ frame ∈ outer, frame.Distinct)
    (started : start outer token = some place) : place.Distinct := by
  cases token <;> simp only [start, Option.ite_none_right_eq_some, Option.some.injEq,
    reduceCtorEq] at started
  case arrayStart =>
    obtain ⟨-, rfl⟩ := started
    exact ⟨around, trivial⟩
  case objectStart =>
    obtain ⟨-, rfl⟩ := started
    exact ⟨around, trivial⟩
  case text =>
    subst started
    exact ⟨around, .string⟩
  case scalar =>
    subst started
    exact ⟨around, Value.Plain.distinct plain⟩

theorem empty_array : (Value.array []).Distinct := .array nofun

theorem empty_object : (Value.object []).Distinct := .object .nil nofun

theorem distinct_of_next (plain : token.Plain) (distinct : place.Distinct)
    (moved : place.next token = some place') : place'.Distinct := by
  obtain ⟨around, here⟩ := distinct
  revert moved
  fun_cases next place token <;> intro moved
  case case1 => exact distinct_of_start plain around moved
  case case3 =>
    have inner : (Frame.items []).Distinct := empty_array
    exact distinct_of_start plain (List.forall_mem_cons.2 ⟨inner, around⟩) moved
  all_goals cases moved
  case case2.refl => exact ⟨around, empty_array⟩
  case case4.refl => exact ⟨around, here⟩
  case case5.refl => exact ⟨around, empty_object⟩
  case case6.refl => exact ⟨around, empty_object⟩
  case case7.refl => exact ⟨List.forall_mem_cons.2 ⟨here, around⟩, trivial⟩
  case case8.refl =>
    obtain ⟨done, around⟩ := List.forall_mem_cons.1 around
    exact ⟨List.forall_mem_cons.2 ⟨here.cons done, around⟩, trivial⟩
  case case9.refl =>
    obtain ⟨done, around⟩ := List.forall_mem_cons.1 around
    refine ⟨around, .array fun v inside => ?_⟩
    exact (here.cons done).item (List.mem_reverse.1 inside)
  case case10.refl =>
    obtain ⟨done, around⟩ := List.forall_mem_cons.1 around
    exact ⟨around, Value.Distinct.set done here⟩
  case case11.refl =>
    obtain ⟨done, around⟩ := List.forall_mem_cons.1 around
    exact ⟨around, Value.Distinct.set done here⟩

end Place

/-! ### Runs -/

namespace Reader

variable {r r' : Reader} {c : Char} {text : List Char}

theorem distinct_of_flush {place : Place} (distinct : r.place.Distinct)
    (flushed : r.flush = some place) : place.Distinct := by
  rcases cases_of_flush flushed with ⟨-, rfl⟩ | ⟨word, v, read, moved⟩
  · exact distinct
  · have plain : (Token.scalar v).Plain := plain_of_scalar? read
    exact Place.distinct_of_next plain distinct moved

theorem distinct_of_step (distinct : r.place.Distinct) (made : r.step c = some r') :
    r'.place.Distinct := by
  rcases cases_of_step made with ⟨place, flushed, made⟩ | ⟨s, -, moved, -⟩ | ⟨same, -⟩
  · have between := distinct_of_flush distinct flushed
    rcases cases_of_fresh made with ⟨-, rfl⟩ | ⟨token, is, moved, -⟩ | ⟨same, -⟩
    · exact between
    · exact Place.distinct_of_next (token_plain_of_punctuation? is) between moved
    · rwa [same]
  · have plain : (Token.text s).Plain := trivial
    exact Place.distinct_of_next plain distinct moved
  · rwa [same]

theorem distinct_of_run (distinct : r.place.Distinct) (ran : r.run text = some r') :
    r'.place.Distinct := by
  induction text generalizing r with
  | nil =>
    cases ran
    exact distinct
  | cons c text ih =>
    rw [run_cons] at ran
    obtain ⟨next, made, ran⟩ := Option.bind_eq_some_iff.1 ran
    exact ih (distinct_of_step distinct made) ran

end Reader

/-- No object of a document that was read has two fields of one name. -/
theorem distinct_of_parse? {text : String} {v : Value} (read : parse? text = some v) :
    v.Distinct := by
  obtain ⟨r, ran, ended⟩ := Option.bind_eq_some_iff.1 read
  have start : Reader.initial.place.Distinct := ⟨nofun, trivial⟩
  have distinct := Reader.distinct_of_run start ran
  unfold Reader.result at ended
  split at ended
  case h_1 flushed =>
    cases ended
    exact (Reader.distinct_of_flush distinct flushed).2
  case h_2 => cases ended

end UsageReport.Json
