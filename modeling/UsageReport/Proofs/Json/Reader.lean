import Mathlib
import UsageReport.Proofs.Json.Place
import UsageReport.Text.Blank

/-! The steps of the reader of JSON text. A step moves the place or leaves it, so reading a text
keeps what moves keep; and a text that ends as an object ends with the brace of that object and
blanks. -/

namespace UsageReport.Json

/-! ### Steps -/

namespace Reader

variable {r r' : Reader} {c : Char} {place place' : Place} {text : List Char}

theorem cases_of_flush (flushed : r.flush = some place) :
    (r.lexeme = .blank ∧ r.place = place)
      ∨ ∃ word v, scalar? word = some v ∧ r.place.next (.scalar v) = some place := by
  obtain ⟨lexeme, start⟩ := r
  cases lexeme <;> simp only [flush, Option.some.injEq, Option.bind_eq_some_iff, reduceCtorEq]
    at flushed
  case blank => exact .inl ⟨rfl, flushed⟩
  case word read => exact .inr ⟨_, flushed⟩

theorem cases_of_fresh (made : fresh place c = some r') :
    (isSpace c = true ∧ r' = ⟨.blank, place⟩)
      ∨ (∃ token, punctuation? c = some token ∧ place.next token = some r'.place
          ∧ r'.lexeme = .blank)
      ∨ (r'.place = place ∧ r'.lexeme ≠ .blank) := by
  rw [fresh] at made
  split at made
  case isTrue space =>
    cases made
    exact .inl ⟨space, rfl⟩
  split at made
  · cases made
    exact .inr (.inr ⟨rfl, nofun⟩)
  split at made
  case h_1 token is =>
    obtain ⟨next, moved, rfl⟩ := Option.map_eq_some_iff.1 made
    exact .inr (.inl ⟨token, is, moved, rfl⟩)
  case h_2 =>
    cases made
    exact .inr (.inr ⟨rfl, nofun⟩)

theorem unitEnd_ne_blank {read : List Char} {high : Option Nat} {code : Nat} {lexeme : Lexeme}
    (ended : unitEnd read high code = some lexeme) : lexeme ≠ .blank := by
  unfold unitEnd at ended
  grind

/-- A step is made between two lexemes, or behind a text that it ends, or within a lexeme. -/
theorem cases_of_step (made : r.step c = some r') :
    (∃ place, r.flush = some place ∧ fresh place c = some r')
      ∨ (∃ s, c = '"' ∧ r.place.next (.text s) = some r'.place ∧ r'.lexeme = .blank)
      ∨ (r'.place = r.place ∧ r'.lexeme ≠ .blank) := by
  obtain ⟨lexeme, start⟩ := r
  unfold step at made
  cases lexeme
  case blank => exact .inl ⟨start, rfl, made⟩
  case word read =>
    dsimp only at made
    split at made
    · exact .inl (Option.bind_eq_some_iff.1 made)
    · cases made
      exact .inr (.inr ⟨rfl, nofun⟩)
  case text read =>
    dsimp only at made
    split at made
    case isTrue quote =>
      obtain ⟨next, moved, rfl⟩ := Option.map_eq_some_iff.1 made
      exact .inr (.inl ⟨_, quote, moved, rfl⟩)
    case isFalse =>
      right; right
      grind
  case escape read =>
    right; right
    dsimp only at made
    split at made
    · cases made
      exact ⟨rfl, nofun⟩
    · obtain ⟨e, -, rfl⟩ := Option.map_eq_some_iff.1 made
      exact ⟨rfl, nofun⟩
  case unit read high missing code =>
    right; right
    obtain ⟨digit, -, made⟩ := Option.bind_eq_some_iff.1 made
    cases missing
    case zero =>
      obtain ⟨lexeme, ended, rfl⟩ := Option.map_eq_some_iff.1 made
      exact ⟨rfl, unitEnd_ne_blank ended⟩
    case succ =>
      cases made
      exact ⟨rfl, nofun⟩
  case pair read high escaped =>
    right; right
    grind

/-- A word that ends is a move of its own. -/
theorem place_of_flush {I : Place → Prop}
    (keep : ∀ place place', ¬ place.Repeats → place.Move place' → I place → I place')
    (flushed : r.flush = some place) (new : ¬ r.place.Repeats) (holds : I r.place) :
    ¬ place.Repeats ∧ I place := by
  rcases cases_of_flush flushed with ⟨-, rfl⟩ | ⟨word, v, read, moved⟩
  · exact ⟨new, holds⟩
  · obtain ⟨outer, rfl⟩ := Place.ended_of_scalar moved
    have plain : (Token.scalar v).Plain := plain_of_scalar? read
    exact ⟨nofun, keep _ _ new (Place.move_of_next plain moved) holds⟩

/-- Steps keep what moves keep, also the two moves of a step that ends a word. -/
theorem place_of_step {I : Place → Prop}
    (keep : ∀ place place', ¬ place.Repeats → place.Move place' → I place → I place')
    (made : r.step c = some r') (new : ¬ r.place.Repeats) (holds : I r.place) : I r'.place := by
  rcases cases_of_step made with ⟨place, flushed, made⟩ | ⟨s, -, moved, -⟩ | ⟨same, -⟩
  · obtain ⟨new', holds'⟩ := place_of_flush keep flushed new holds
    rcases cases_of_fresh made with ⟨-, rfl⟩ | ⟨token, mark, moved, -⟩ | ⟨same, -⟩
    · exact holds'
    · exact keep _ _ new' (Place.move_of_next (token_plain_of_punctuation? mark) moved) holds'
    · rw [same]
      exact holds'
  · have plain : (Token.text s).Plain := trivial
    exact keep _ _ new (Place.move_of_next plain moved) holds
  · rw [same]
    exact holds

/-! ### Runs -/

theorem run_cons : r.run (c :: text) = (r.step c).bind (·.run text) := List.foldlM_cons

theorem run_singleton : r.run [c] = r.step c := by
  rw [run_cons]
  exact Option.bind_fun_some (r.step c)

theorem run_append_eq_some_iff {front rest : List Char} :
    r.run (front ++ rest) = some r'
      ↔ ∃ between, r.run front = some between ∧ between.run rest = some r' := by
  rw [run_append, Option.bind_eq_some_iff]

/-- No key of the outermost object is read twice in the text. -/
def Distinct (r : Reader) (text : List Char) : Prop :=
  ∀ front r', front <+: text → r.run front = some r' → ¬ r'.place.Repeats

theorem Distinct.front {front rest : List Char} (distinct : r.Distinct (front ++ rest)) :
    r.Distinct front :=
  fun part r' before => distinct part r' (before.trans (List.prefix_append front rest))

theorem Distinct.rest {front rest : List Char} (distinct : r.Distinct (front ++ rest))
    (made : r.run front = some r') : r'.Distinct rest := by
  intro part r'' before made'
  apply distinct (front ++ part) r'' ((List.prefix_append_right_inj front).2 before)
  rw [run_append, made]
  exact made'

/-- Reading a text keeps what moves keep. -/
theorem place_of_run {I : Place → Prop}
    (keep : ∀ place place', ¬ place.Repeats → place.Move place' → I place → I place')
    (made : r.run text = some r') (distinct : r.Distinct text) (holds : I r.place) :
    I r'.place := by
  induction text generalizing r with
  | nil =>
    cases made
    exact holds
  | cons c rest ih =>
    obtain ⟨next, step, made⟩ := Option.bind_eq_some_iff.1 (run_cons.symm.trans made)
    have new : ¬ r.place.Repeats := distinct [] r (List.nil_prefix) rfl
    have distinct' : next.Distinct rest := Distinct.rest distinct (run_singleton.trans step)
    exact ih made distinct' (place_of_step keep step new holds)

theorem fresh_of_run (made : r.run text = some r') (distinct : r.Distinct text)
    (fresh : r.place.Fresh) : r'.place.Fresh :=
  place_of_run (fun _ _ new move fresh => Place.fresh_of_move new fresh move) made distinct fresh

theorem fresh_of_initial (made : initial.run text = some r) (distinct : initial.Distinct text) :
    r.place.Fresh :=
  fresh_of_run made distinct fun _ _ bottom => by cases List.suffix_nil.1 bottom

theorem lists_of_run {fields : Object} {name : String} {front : List Value}
    (made : r.run text = some r') (distinct : r.Distinct text) (fresh : r.place.Fresh)
    (lists : r.place.Lists fields name front) :
    r'.place.Fresh ∧ r'.place.Lists fields name front :=
  place_of_run (fun _ _ => Place.fresh_lists_of_move) made distinct ⟨fresh, lists⟩

/-! ### The end of the text -/

theorem result_eq_some_iff {v : Value} : r.result = some v ↔ r.flush = some (.ended v []) := by
  unfold result
  grind

/-- A word is no object. -/
theorem between_of_object {fields : Object} {outer : List Frame}
    (flushed : r.flush = some (.ended (.object fields) outer)) :
    r = ⟨.blank, .ended (.object fields) outer⟩ := by
  rcases cases_of_flush flushed with ⟨blank, ended⟩ | ⟨word, v, read, moved⟩
  · obtain ⟨lexeme, place⟩ := r
    cases blank
    cases ended
    rfl
  · obtain ⟨outer', same⟩ := Place.ended_of_scalar moved
    cases same
    cases (plain_of_scalar? read).2

/-- What a character that is a token by itself is not. -/
theorem plain_of_punctuation? {token : Token} (mark : punctuation? c = some token) :
    isDelimiter c = true ∧ isSpace c = false ∧ c ≠ '"' ∧ c ≠ '\\' ∧ c ≠ 'u' ∧ ¬ c.toNat < 0x20
      ∧ escaped? c = none ∧ hexDigit? c = none ∧ Text.isBlank c = false := by
  unfold punctuation? at mark
  split at mark
  case h_7 => cases mark
  all_goals decide

/-- A character that is a token by itself is read inside a text, or as that token. -/
theorem cases_of_punctuation {token : Token} (mark : punctuation? c = some token)
    (made : r.step c = some r') :
    (∃ read, r.lexeme = .text read ∧ r' = ⟨.text (c :: read), r.place⟩)
      ∨ ∃ place next, r.flush = some place ∧ place.next token = some next
        ∧ r' = ⟨.blank, next⟩ := by
  obtain ⟨delimits, space, quote, backslash, u, low, escaped, digit, -⟩ :=
    plain_of_punctuation? mark
  have fresh_eq (place : Place) : fresh place c = (place.next token).map (⟨.blank, ·⟩) := by
    rw [fresh, space, if_neg quote, mark]
    rfl
  obtain ⟨lexeme, start⟩ := r
  cases lexeme
  case blank =>
    obtain ⟨next, moved, rfl⟩ := Option.map_eq_some_iff.1 ((fresh_eq start).symm.trans made)
    exact .inr ⟨start, next, rfl, moved, rfl⟩
  case word read =>
    simp only [step, if_pos delimits] at made
    obtain ⟨place, flushed, made⟩ := Option.bind_eq_some_iff.1 made
    obtain ⟨next, moved, rfl⟩ := Option.map_eq_some_iff.1 ((fresh_eq place).symm.trans made)
    exact .inr ⟨place, next, flushed, moved, rfl⟩
  case text read =>
    simp only [step, if_neg quote, if_neg backslash, if_neg low] at made
    cases made
    exact .inl ⟨read, rfl, rfl⟩
  case escape read =>
    simp only [step, if_neg u, escaped] at made
    cases made
  case unit read high missing code =>
    simp only [step, digit] at made
    cases made
  case pair read high escaped =>
    cases escaped
    · simp only [step, if_neg backslash] at made
      cases made
    · simp only [step, if_neg u] at made
      cases made

/-- A closing brace is read inside a text, or it ends an object. -/
theorem cases_of_brace (made : r.step '\x7d' = some r') :
    (∃ read place, r' = ⟨.text read, place⟩)
      ∨ ∃ fields outer, r' = ⟨.blank, .ended (.object fields) outer⟩ := by
  have mark : punctuation? '\x7d' = some .objectEnd := rfl
  rcases cases_of_punctuation mark made with ⟨read, -, rfl⟩ | ⟨place, next, -, moved, rfl⟩
  · exact .inl ⟨_, _, rfl⟩
  · obtain ⟨fields, outer, rfl⟩ := Place.ended_of_objectEnd moved
    exact .inr ⟨fields, outer, rfl⟩

/-- Blanks behind a document do not matter. -/
theorem complete_of_blank {fields : Object} (blank : Text.isBlank c = true)
    (made : r.step c = some ⟨.blank, .ended (.object fields) []⟩) :
    r = ⟨.blank, .ended (.object fields) []⟩ := by
  rcases cases_of_step made with ⟨place, flushed, made⟩ | ⟨s, rfl, -⟩ | ⟨-, other⟩
  · rcases cases_of_fresh made with ⟨-, same⟩ | ⟨token, mark, -⟩ | ⟨-, other⟩
    · cases same
      exact between_of_object flushed
    · obtain ⟨-, -, -, -, -, -, -, -, solid⟩ := plain_of_punctuation? mark
      rw [blank] at solid
      cases solid
    · exact absurd rfl other
  · exact absurd blank (by decide)
  · exact absurd rfl other

theorem complete_of_blanks {fields : Object} {blanks : List Char}
    (blank : ∀ b ∈ blanks, Text.isBlank b = true)
    (made : r.run (text ++ blanks) = some ⟨.blank, .ended (.object fields) []⟩) :
    r.run text = some ⟨.blank, .ended (.object fields) []⟩ := by
  induction blanks generalizing text with
  | nil => rwa [List.append_nil] at made
  | cons b blanks ih =>
    rw [List.append_cons] at made
    have one := ih (fun b' inside => blank b' (List.mem_cons_of_mem b inside)) made
    obtain ⟨before, readText, last⟩ := run_append_eq_some_iff.1 one
    rw [readText, complete_of_blank (blank b List.mem_cons_self) (run_singleton.symm.trans last)]

/-- A comma never ends a document. -/
theorem not_ended_of_comma {v : Value} {outer : List Frame} :
    r.step ',' ≠ some ⟨.blank, .ended v outer⟩ := by
  intro made
  have mark : punctuation? ',' = some .comma := rfl
  rcases cases_of_punctuation mark made with
    ⟨read, -, text⟩ | ⟨place, next, -, moved, same⟩
  · cases text
  · cases same
    exact Place.not_ended_of_comma moved

end Reader

/-- No key of the outermost object of a text stands twice. -/
def DistinctKeys (text : String) : Prop := Reader.initial.Distinct text.toList

instance (text : String) : Decidable (DistinctKeys text) :=
  decidable_of_iff (∀ front ∈ text.toList.inits, ∀ r ∈ Reader.initial.run front, ¬ r.place.Repeats)
    ⟨fun new front r before => new front ((List.mem_inits ..).2 before) r,
      fun new front inside r => new front r ((List.mem_inits ..).1 inside)⟩

example : ¬ DistinctKeys "\x7b\"a\":\x7b\"b\":1\x7d,\"a\":2\x7d" := by decide +kernel

theorem parse?_eq_object_iff {text : String} {fields : Object} :
    parse? text = some (.object fields)
      ↔ Reader.initial.run text.toList = some ⟨.blank, .ended (.object fields) []⟩ := by
  unfold parse?
  rw [Option.bind_eq_some_iff]
  constructor
  · rintro ⟨r, made, result⟩
    rw [made, Reader.between_of_object (Reader.result_eq_some_iff.1 result)]
  · intro made
    exact ⟨_, made, rfl⟩

end UsageReport.Json
