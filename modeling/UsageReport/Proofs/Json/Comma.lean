import Mathlib
import UsageReport.Proofs.Json.Reader

/-! The commas of an array that is a value of the outermost object. Behind the first items of such
an array there is exactly one place in the text where its comma ends, unless these are all of its
items. -/

namespace UsageReport.Json

/-! ### Moves that led to a place -/

namespace Place

variable {place place' : Place} {base : List Frame} {name : String} {k : Nat}

/-- The moves that open a container, or go on in one behind another item. -/
inductive Opens : Place → List Frame → Place → Prop where
  | items {outer place'} : Opens (.firstItem outer) (.items [] :: outer) place'
  | member {done name outer place'} :
    Opens (.colon done name outer) (.member done name :: outer) place'
  | item {v done outer} : Opens (.ended v (.items done :: outer)) (.items (v :: done) :: outer)
    (.value (.items (v :: done) :: outer))

/-- Containers that are open behind a move were open before it, unless it opens the innermost. -/
theorem cases_of_outer (move : Move place place') (around : base <:+ place'.outer) :
    base <:+ place.outer ∨ Opens place base place' := by
  cases move
  case value start => cases start <;> exact .inl around
  case firstItem start =>
    cases start
    all_goals
      rcases List.suffix_cons_iff.1 around with rfl | inner
      · exact .inr .items
      · exact .inl inner
  case colon =>
    rcases List.suffix_cons_iff.1 around with rfl | inner
    · exact .inr .member
    · exact .inl inner
  case nextItem =>
    rcases List.suffix_cons_iff.1 around with rfl | inner
    · exact .inr .item
    · exact .inl (inner.trans (List.suffix_cons _ _))
  case lastItem => exact .inl (around.trans (List.suffix_cons _ _))
  case nextKey => exact .inl (around.trans (List.suffix_cons _ _))
  case lastKey => exact .inl (around.trans (List.suffix_cons _ _))
  all_goals exact .inl around

/-- The fields of the outermost object behind a move are those before it, or the last one of them
has just ended. -/
theorem cases_of_outermost {fields : Object} (outermost : place'.Outermost fields)
    (move : Move place place') : place.Outermost fields ∨ fields = []
      ∨ ∃ done name v, place = .ended v [.member done name] ∧ fields = done.set name v := by
  cases outermost
  case firstKey => exact .inr (.inl rfl)
  case key =>
    cases move
    case value start => cases start
    case firstItem start => cases start
    case nextKey => exact .inr (.inr ⟨_, _, _, rfl, rfl⟩)
  case colon =>
    cases move
    case value start => cases start
    case firstItem start => cases start
    case firstKey => exact .inr (.inl rfl)
    case key => exact .inl .key
  case member around =>
    rcases cases_of_outer move around with before | opened
    · exact .inl (.member before)
    · cases opened
      exact .inl .colon
  case ended =>
    cases move
    case value start =>
      cases start with
      | atom plain => cases plain.2
    case firstItem start => cases start
    case noKey => exact .inr (.inl rfl)
    case lastKey => exact .inr (.inr ⟨_, _, _, rfl, rfl⟩)

/-! ### Commas that were passed -/

/-- The comma behind the first `k` items of an array, which is the value of the field `name` of the
outermost object, has been read. -/
inductive Passed (name : String) (k : Nat) : Place → Prop where
  | inside {place done fields} : [.items done, .member fields name] <:+ place.outer →
    k ≤ done.length → Passed name k place
  | closed {items fields} : k < items.length →
    Passed name k (.ended (.array items) [.member fields name])
  | behind {place fields items} : place.Outermost fields →
    fields.lookup name = some (.array items) → k < items.length → Passed name k place

theorem not_passed_start : ¬ (value []).Passed name k := by
  intro passed
  cases passed
  case inside around => cases List.suffix_nil.1 around
  case behind outermost =>
    cases outermost
    case member around => cases List.suffix_nil.1 around

/-- The comma is passed by the move that it makes behind item number `k`. -/
theorem cases_of_passed (passed : place'.Passed name k) (positive : 1 ≤ k)
    (move : Move place place') : place.Passed name k
      ∨ ∃ v done fields, place = .ended v [.items done, .member fields name]
        ∧ place' = .value [.items (v :: done), .member fields name] ∧ done.length + 1 = k := by
  cases passed
  case inside done fields enough around =>
    rcases cases_of_outer move around with before | opened
    · exact .inl (.inside before enough)
    · cases opened
      case items => exact absurd (positive.trans enough) (by simp)
      case item v done =>
        rcases Nat.le_succ_iff.1 enough with earlier | last
        · exact .inl (.inside List.suffix_rfl earlier)
        · exact .inr ⟨v, done, fields, rfl, rfl, last.symm⟩
  case closed items fields more =>
    cases move
    case value start =>
      cases start with
      | atom plain => cases plain.1
    case firstItem start => cases start
    case noItem => cases more
    case lastItem =>
      rw [List.length_reverse] at more
      exact .inl (.inside List.suffix_rfl (Nat.le_of_lt_succ more))
  case behind fields items found more outermost =>
    rcases cases_of_outermost outermost move with before | rfl | ⟨done, name', v, rfl, rfl⟩
    · exact .inl (.behind before found more)
    · cases found
    · rw [Fields.lookup_set] at found
      split at found
      case isTrue same =>
        cases same
        cases found
        exact .inl (.closed more)
      case isFalse => exact .inl (.behind (.member List.suffix_rfl) found more)

/-- While an item is read, no more items than those in front of it have been read. -/
theorem length_le_of_lists {v : Value} {done front : List Value} {fields before : Object}
    (fresh : (ended v [.items done, .member fields name]).Fresh)
    (lists : (ended v [.items done, .member fields name]).Lists before name front) :
    front.length ≤ done.length := by
  cases lists
  case inside done' begins around =>
    cases List.IsSuffix.eq_of_length around rfl
    have fewer := begins.length_le
    rwa [List.length_reverse] at fewer
  -- The field would have been given a value before.
  case behind fields' items kept begins outermost =>
    cases outermost
    case member key around =>
      rcases List.suffix_cons_iff.1 around with same | inner
      · cases same
      · cases List.IsSuffix.eq_of_length inner rfl
        have given : (before.set name (.array items)).lookup name = some (.array items) := by
          rw [Fields.lookup_set, if_pos rfl]
        have known := Fields.mem_names_of_lookup (Fields.lookup_of_prefix kept given)
        exact absurd known (fresh _ _ (List.suffix_cons _ _))

theorem before_comma {items : List Value} {inner : List Frame}
    (moved : place.next .comma = some (.value (.items items :: inner))) :
    ∃ v done, place = .ended v (.items done :: inner) ∧ items = v :: done := by
  have plain : Token.comma.Plain := trivial
  cases move_of_next plain moved
  case value start => cases start
  case firstItem start => cases start
  case nextItem => exact ⟨_, _, rfl, rfl⟩

end Place

/-! ### Commas in a text -/

namespace Reader

variable {r r' : Reader} {c : Char} {text : List Char} {name : String} {k : Nat}

/-- Inside an array that is a value of the outermost object, behind the comma of `k` items. -/
def BehindComma (r : Reader) (name : String) (k : Nat) : Prop :=
  ∃ items fields, r = ⟨.blank, .value [.items items, .member fields name]⟩ ∧ items.length = k

theorem comma_of_punctuation? {token : Token} (mark : punctuation? c = some token)
    {v : Value} {outer inner : List Frame}
    (moved : (Place.ended v outer).next token = some (.value inner)) : c = ',' := by
  unfold punctuation? at mark
  split at mark
  case h_5 => rfl
  all_goals cases mark
  all_goals
    rcases outer with _ | ⟨⟨done⟩ | ⟨done, key⟩, outer⟩ <;> cases moved

/-- No comma is passed by the end of a word. -/
theorem passed_of_flush {place : Place} (passed : place.Passed name k) (positive : 1 ≤ k)
    (flushed : r.flush = some place) : r.place.Passed name k := by
  rcases cases_of_flush flushed with ⟨-, rfl⟩ | ⟨word, v, read, moved⟩
  · exact passed
  · obtain ⟨outer, rfl⟩ := Place.ended_of_scalar moved
    have plain : (Token.scalar v).Plain := plain_of_scalar? read
    rcases Place.cases_of_passed passed positive (Place.move_of_next plain moved) with
      before | ⟨v, done, fields, -, same, -⟩
    · exact before
    · cases same

theorem cases_of_passed_step (passed : r'.place.Passed name k) (positive : 1 ≤ k)
    (made : r.step c = some r') :
    r.place.Passed name k ∨ c = ',' ∧ r'.BehindComma name k := by
  rcases cases_of_step made with ⟨place, flushed, made⟩ | ⟨s, -, moved, -⟩ | ⟨same, -⟩
  · rcases cases_of_fresh made with ⟨-, rfl⟩ | ⟨token, mark, moved, blank⟩ | ⟨same, -⟩
    · exact .inl (passed_of_flush passed positive flushed)
    · have move := Place.move_of_next (token_plain_of_punctuation? mark) moved
      rcases Place.cases_of_passed passed positive move with
        before | ⟨v, done, fields, rfl, there, count⟩
      · exact .inl (passed_of_flush before positive flushed)
      · rw [there] at moved
        refine .inr ⟨comma_of_punctuation? mark moved, v :: done, fields, ?_, count⟩
        obtain ⟨lexeme, place⟩ := r'
        cases blank
        cases there
        rfl
    · rw [same] at passed
      exact .inl (passed_of_flush passed positive flushed)
  · have plain : (Token.text s).Plain := trivial
    rcases Place.cases_of_passed passed positive (Place.move_of_next plain moved) with
      before | ⟨v, done, fields, start, -, -⟩
    · exact .inl before
    · rw [start] at moved
      cases moved
  · rw [same] at passed
    exact .inl passed

/-- Behind a comma there is one item more than were known before it. -/
theorem length_lt_of_comma {fields : Object} {front : List Value} (new : ¬ r.place.Repeats)
    (kept : r.place.Fresh ∧ r.place.Lists fields name front) (made : r.step ',' = some r')
    (behind : r'.BehindComma name k) : front.length < k := by
  obtain ⟨items, inner, rfl, rfl⟩ := behind
  have mark : punctuation? ',' = some .comma := rfl
  rcases cases_of_punctuation mark made with ⟨_, -, text⟩ | ⟨place, next, flushed, moved, same⟩
  · cases text
  · cases same
    obtain ⟨v, done, rfl, rfl⟩ := Place.before_comma moved
    obtain ⟨-, fresh, lists⟩ :=
      place_of_flush (fun _ _ => Place.fresh_lists_of_move) flushed new kept
    exact Nat.lt_succ_of_le (Place.length_le_of_lists fresh lists)

end Reader

/-- The beginning of a text that ends with the comma behind the first `k` items of an array, which
is the value of the field `name` of the outermost object. -/
structure CommaAt (text : List Char) (name : String) (k : Nat) (cut : List Char) : Prop where
  before : cut <+: text
  comma : [','] <:+ cut
  behind : ∃ r, Reader.initial.run cut = some r ∧ r.BehindComma name k

namespace CommaAt

variable {r : Reader} {text cut cut' : List Char} {name : String} {k : Nat}

theorem exists_of_run (made : Reader.initial.run text = some r) (positive : 1 ≤ k)
    (passed : r.place.Passed name k) : ∃ cut, CommaAt text name k cut := by
  -- The comma is the last character, or it was passed before.
  induction text using List.reverseRecOn generalizing r with
  | nil =>
    cases made
    exact absurd passed Place.not_passed_start
  | append_singleton front c ih =>
    obtain ⟨between, first, last⟩ := Reader.run_append_eq_some_iff.1 made
    have step := Reader.run_singleton.symm.trans last
    rcases Reader.cases_of_passed_step passed positive step with earlier | ⟨rfl, behind⟩
    · obtain ⟨cut, before, comma, behind⟩ := ih first earlier
      exact ⟨cut, before.trans (List.prefix_append front [c]), comma, behind⟩
    · exact ⟨front ++ [','], List.prefix_rfl, List.suffix_append front [','], r, made, behind⟩

/-- From behind the comma on there are as many items, so that the comma is not met again. -/
theorem eq_of_prefix (distinct : Reader.initial.Distinct text) (first : CommaAt text name k cut)
    (second : CommaAt text name k cut') (before : cut <+: cut') : cut = cut' := by
  obtain ⟨start, rfl⟩ := second.comma
  rcases List.prefix_concat_iff.1 before with same | ⟨more, rfl⟩
  · exact same
  exfalso
  obtain ⟨_, opened, items, fields, rfl, count⟩ := first.behind
  obtain ⟨r', made, again⟩ := second.behind
  obtain ⟨r, made, comma⟩ := Reader.run_append_eq_some_iff.1 made
  have inside : cut ++ more <+: text := (List.prefix_append _ _).trans second.before
  have new := distinct (cut ++ more) r inside made
  obtain ⟨rest, rfl⟩ := inside
  have fresh := Reader.fresh_of_initial opened distinct.front.front
  obtain ⟨_, same, read⟩ := Reader.run_append_eq_some_iff.1 made
  obtain rfl := Option.some.inj (opened.symm.trans same)
  have kept := Reader.lists_of_run read (distinct.front.rest opened) fresh
    (.inside List.suffix_rfl List.prefix_rfl)
  have more := Reader.length_lt_of_comma new kept (Reader.run_singleton.symm.trans comma) again
  rw [List.length_reverse, count] at more
  exact Nat.lt_irrefl k more

theorem unique (distinct : Reader.initial.Distinct text) (first : CommaAt text name k cut)
    (second : CommaAt text name k cut') : cut = cut' := by
  rcases List.prefix_or_prefix_of_prefix first.before second.before with before | before
  · exact first.eq_of_prefix distinct second before
  · exact (second.eq_of_prefix distinct first before).symm

end CommaAt

/-- Where an array of a document has more than `k` items, `k` of them stand in front of exactly one
comma of the text. -/
theorem existsUnique_commaAt {text : String} {fields : Object} {name : String}
    {items : List Value} {k : Nat} (read : parse? text = some (.object fields))
    (distinct : DistinctKeys text) (found : fields.lookup name = some (.array items))
    (positive : 1 ≤ k) (more : k < items.length) : ∃! cut, CommaAt text.toList name k cut := by
  have passed : (Place.ended (.object fields) []).Passed name k := .behind .ended found more
  obtain ⟨cut, there⟩ := CommaAt.exists_of_run (parse?_eq_object_iff.1 read) positive passed
  exact ⟨cut, there, fun cut' other => other.unique distinct there⟩

end UsageReport.Json
