import Mathlib
import UsageReport.Proofs.Capture.Loaded

/-! Captures that were cut off. Closing a text behind a brace and a comma gives a document only
where exactly one array is open, as a value of the outermost object, so a capture that is read from
the beginning of a complete one has its header and its first samples. -/

namespace UsageReport.Capture

open UsageReport.Json

/-! ### Closing a text -/

theorem cases_of_repaired (text : String) :
    (∃ start, Text.trimEnd text.toList = start ++ ['\x7d', ',']
        ∧ repaired text = String.ofList (start ++ ['\x7d', ']', '\x7d']))
      ∨ ((∀ start, Text.trimEnd text.toList ≠ start ++ ['\x7d', ','])
        ∧ repaired text = String.ofList (Text.trimEnd text.toList)) := by
  unfold repaired
  split
  case h_1 start cutOff =>
    rw [List.reverse_eq_iff] at cutOff
    refine .inl ⟨start.reverse, ?_, rfl⟩
    rw [cutOff]
    simp
  case h_2 whole =>
    refine .inr ⟨fun start cutOff => whole start.reverse ?_, ?_⟩
    · rw [cutOff]
      simp
    · rw [List.reverse_reverse]

/-- Blanks at the end of a document make no difference, and a document is not closed. -/
theorem repaired_of_complete {text : String} {fields : Object}
    (complete : parse? text = some (.object fields)) :
    Reader.initial.run (Text.trimEnd text.toList) = some ⟨.blank, .ended (.object fields) []⟩
      ∧ repaired text = String.ofList (Text.trimEnd text.toList) := by
  have made : Reader.initial.run (Text.trimEnd text.toList)
      = some ⟨.blank, .ended (.object fields) []⟩ := by
    obtain ⟨blanks, blank, whole⟩ := Text.exists_blanks text.toList
    apply Reader.complete_of_blanks blank
    rw [whole]
    exact parse?_eq_object_iff.1 complete
  refine ⟨made, ?_⟩
  rcases cases_of_repaired text with ⟨start, cutOff, -⟩ | ⟨-, same⟩
  · rw [cutOff, List.append_cons start] at made
    obtain ⟨r, -, comma⟩ := Reader.run_append_eq_some_iff.1 made
    exact absurd (Reader.run_singleton.symm.trans comma) Reader.not_ended_of_comma
  · exact same

theorem parse_of_complete {text : String} {fields : Object} (least : Nat)
    (complete : parse? text = some (.object fields)) :
    Capture.parse least text = ofJson least (.object fields) := by
  obtain ⟨made, same⟩ := repaired_of_complete complete
  have whole : parse? (repaired text) = some (.object fields) := by
    rw [same, parse?_eq_object_iff, String.toList_ofList]
    exact made
  rw [Capture.parse, whole]

/-- Where a reader can go on behind a brace and a comma, and the text can also be closed behind the
brace, an array of the outermost object is open. -/
theorem open_of_repaired {r behind : Reader} {v : Value}
    (cutOff : r.run ['\x7d', ','] = some behind)
    (closed : (r.run ['\x7d', ']', '\x7d']).bind Reader.result = some v) :
    ∃ items fields name,
      behind = ⟨.blank, .value [.items items, .member fields name]⟩
        ∧ v = .object (fields.set name (.array items.reverse)) := by
  rw [Reader.run_cons, Option.bind_eq_some_iff] at cutOff
  obtain ⟨r', brace, comma⟩ := cutOff
  rw [Reader.run_cons, brace] at closed
  rcases Reader.cases_of_brace brace with ⟨read, place, rfl⟩ | ⟨o, outer, rfl⟩
  -- Inside a text the closing marks are read as text.
  · cases closed
  · rcases outer with _ | ⟨⟨done⟩ | ⟨done, name⟩, outer⟩
    · cases comma
    · rcases outer with _ | ⟨⟨done'⟩ | ⟨fields, name⟩, outer⟩
      · cases closed
      · cases closed
      · rcases outer with _ | ⟨frame, outer⟩
        · cases comma
          cases closed
          exact ⟨.object o :: done, fields, name, rfl, rfl⟩
        · cases closed
    · cases closed

/-! ### What a cut text holds -/

/-- Every field of `part` is one of `whole`, or an array that begins the one of its name in
`whole`. -/
def Begins (part whole : Object) : Prop :=
  ∀ key v, part.lookup key = some v → whole.lookup key = some v
    ∨ ∃ front items, v = .array front ∧ whole.lookup key = some (.array items) ∧ front <+: items

variable {fields part : Object} {front rest : List Char}

/-- Nothing but blanks stands behind an object. -/
theorem eq_of_ended (distinct : Reader.initial.Distinct (front ++ rest))
    (complete : Reader.initial.run (front ++ rest) = some ⟨.blank, .ended (.object fields) []⟩)
    (ended : Reader.initial.run front = some ⟨.blank, .ended (.object part) []⟩) :
    part = fields := by
  rw [Reader.run_append, ended] at complete
  have stays : Place.ended (.object fields) [] = .ended (.object part) [] := by
    refine Reader.place_of_run (I := (· = .ended (.object part) [])) ?_ complete
      (distinct.rest ended) rfl
    rintro _ place' - move rfl
    cases move
  cases stays
  rfl

/-- An array that is open behind `part` begins the array under its new name behind `part`. -/
theorem array_of_open {items : List Value} {name : String}
    (distinct : Reader.initial.Distinct (front ++ rest))
    (complete : Reader.initial.run (front ++ rest) = some ⟨.blank, .ended (.object fields) []⟩)
    (opened : Reader.initial.run front
      = some ⟨.blank, .value [.items items, .member part name]⟩) :
    name ∉ part.names ∧ ∃ all, part.set name (.array all) <+: fields ∧ items.reverse <+: all := by
  have fresh : (Place.value [.items items, .member part name]).Fresh :=
    Reader.fresh_of_initial opened distinct.front
  refine ⟨fresh part name (List.suffix_cons _ _), ?_⟩
  rw [Reader.run_append, opened] at complete
  obtain ⟨-, lists⟩ := Reader.lists_of_run complete (distinct.rest opened) fresh
    (.inside List.suffix_rfl List.prefix_rfl)
  cases lists
  case inside done begins around =>
    cases List.suffix_nil.1 around
  case behind fields' all kept begins outermost =>
    cases Place.eq_of_outermost outermost
    exact ⟨all, kept, begins⟩

theorem begins_of_open {items : List Value} {name : String}
    (distinct : Reader.initial.Distinct (front ++ rest))
    (complete : Reader.initial.run (front ++ rest) = some ⟨.blank, .ended (.object fields) []⟩)
    (opened : Reader.initial.run front
      = some ⟨.blank, .value [.items items, .member part name]⟩) :
    Begins (part.set name (.array items.reverse)) fields := by
  obtain ⟨-, all, kept, begins⟩ := array_of_open distinct complete opened
  intro key v inside
  rw [Fields.lookup_set] at inside
  split at inside
  case isTrue same =>
    cases inside
    refine .inr ⟨_, all, rfl, Fields.lookup_of_prefix kept ?_, begins⟩
    rw [Fields.lookup_set, if_pos same]
  case isFalse other =>
    refine .inl (Fields.lookup_of_prefix kept ?_)
    rw [Fields.lookup_set, if_neg other, inside]

/-- What is read from a text that was cut off begins what is read from the whole. -/
theorem begins_of_cut {text : String} {cut blanks : List Char} (distinct : DistinctKeys text)
    (complete : parse? text = some (.object fields)) (before : cut <+: text.toList)
    (blank : ∀ b ∈ blanks, Text.isBlank b = true)
    (read : parse? (repaired (String.ofList (cut ++ blanks))) = some (.object part)) :
    Begins part fields := by
  rw [parse?_eq_object_iff] at complete
  have trimmed : Text.trimEnd (String.ofList (cut ++ blanks)).toList <+: text.toList := by
    rw [String.toList_ofList, Text.trimEnd_append cut blank]
    obtain ⟨more, -, split⟩ := Text.exists_blanks cut
    exact List.IsPrefix.trans ⟨more, split⟩ before
  obtain ⟨rest, whole⟩ := trimmed
  rw [DistinctKeys, ← whole] at distinct
  rw [← whole] at complete
  rcases cases_of_repaired (String.ofList (cut ++ blanks)) with
    ⟨start, cutOff, closed⟩ | ⟨-, same⟩
  -- Both texts are read alike up to the brace; what follows it tells what is open there.
  · rw [cutOff] at distinct complete
    obtain ⟨behind, opened, -⟩ := Reader.run_append_eq_some_iff.1 complete
    obtain ⟨r, started, marks⟩ := Reader.run_append_eq_some_iff.1 opened
    rw [closed, parse?, String.toList_ofList, Reader.run_append, started] at read
    obtain ⟨items, fields', name, rfl, same⟩ := open_of_repaired marks read
    cases same
    exact begins_of_open distinct complete opened
  · rw [same, parse?_eq_object_iff, String.toList_ofList] at read
    rw [eq_of_ended distinct complete read]
    exact fun key v inside => .inl inside

/-! ### Captures of cut texts -/

theorem samples?_prefix {front items : List Value} {few many : List Sample}
    (begins : front <+: items) (readFew : samples? (.array front) = some few)
    (readMany : samples? (.array items) = some many) : few <+: many := by
  obtain ⟨more, rfl⟩ := begins
  change List.mapM _ front = some few at readFew
  change List.mapM _ (front ++ more) = some many at readMany
  rw [List.mapM_append, readFew, Option.bind_eq_bind, Option.bind_some,
    Option.bind_eq_some_iff] at readMany
  obtain ⟨others, -, whole⟩ := readMany
  cases whole
  exact List.prefix_append few others

/-- A document that begins another one with an object as its header has that header and the first
samples of the other one. -/
theorem prefix_of_begins {part fields header : Object} {least : Nat} {c c' : Capture}
    (begins : Begins part fields) (headerIs : fields.lookup "header" = some (.object header))
    (whole : ofJson least (.object fields) = .ok c) (cut : ofJson least (.object part) = .ok c') :
    c'.header = c.header ∧ c'.samples <+: c.samples := by
  obtain ⟨_, h, s, same, inH, inS, readH, readS⟩ := parts_of_ofJson whole
  cases same
  obtain ⟨_, h', s', same, inH', inS', readH', readS'⟩ := parts_of_ofJson cut
  cases same
  constructor
  -- An array in place of the header would stand in the whole document too.
  · have sameHeader : h' = h := by
      rcases begins _ _ inH' with inside | ⟨front, items, -, inside, -⟩
      · exact Option.some.inj (inside.symm.trans inH)
      · cases inside.symm.trans headerIs
    rw [sameHeader] at readH'
    exact Option.some.inj (readH'.symm.trans readH)
  · rcases begins _ _ inS' with inside | ⟨front, items, rfl, inside, first⟩
    · have sameSamples : s' = s := Option.some.inj (inside.symm.trans inS)
      rw [sameSamples] at readS'
      rw [Option.some.inj (readS'.symm.trans readS)]
    · have sameSamples : Value.array items = s := Option.some.inj (inside.symm.trans inS)
      rw [← sameSamples] at readS
      exact samples?_prefix first readS' readS

theorem document_of_parse {text : String} {least : Nat} {c : Capture}
    (accepted : Capture.parse least text = .ok c) :
    ∃ fields, parse? (repaired text) = some (.object fields)
      ∧ ofJson least (.object fields) = .ok c := by
  unfold Capture.parse at accepted
  split at accepted
  case h_1 document read =>
    obtain ⟨fields, -, -, rfl, -⟩ := parts_of_ofJson accepted
    exact ⟨fields, read, accepted⟩
  case h_2 => cases accepted

/-- A complete capture is read as the document it is. Whatever can be read of a text that was cut
off, with blanks behind it, has the header of the whole capture and its first samples, provided that
the header is an object and no key of the document stands twice. -/
theorem parse_cut_off {text : String} {document : Value} {header : Object} {least : Nat}
    {c : Capture} (complete : parse? text = some document)
    (accepted : Capture.parse least text = .ok c) (distinct : DistinctKeys text)
    (headerIs : document.field? "header" = some (.object header)) :
    repaired text = String.ofList (Text.trimEnd text.toList)
      ∧ Capture.parse least text = ofJson least document
      ∧ ∀ cut blanks c', cut <+: text.toList → (∀ b ∈ blanks, Text.isBlank b = true) →
        Capture.parse least (String.ofList (cut ++ blanks)) = .ok c' →
          c'.header = c.header ∧ c'.samples <+: c.samples := by
  cases document
  case object fields =>
    have same := parse_of_complete least complete
    refine ⟨(repaired_of_complete complete).2, same, ?_⟩
    intro cut blanks c' before blank accepted'
    obtain ⟨part, read, cutOff⟩ := document_of_parse accepted'
    have begins : Begins part fields := begins_of_cut distinct complete before blank read
    exact prefix_of_begins begins headerIs (same.symm.trans accepted) cutOff
  all_goals cases headerIs

/-- A text with an empty header and two empty samples. -/
def twoSamples : String := "\x7b\"header\":\x7b\x7d,\"samples\":[\x7b\x7d,\x7b\x7d]\x7d"

/-- What is left of that text up to the comma between the samples. -/
def firstSample : List Char := twoSamples.toList.take 27

theorem twoSamples_cut_off :
    ∃ c c', Capture.parse 1 twoSamples = .ok c
      ∧ Capture.parse 1 (String.ofList (firstSample ++ ['\n'])) = .ok c'
      ∧ c'.header = c.header ∧ c'.samples <+: c.samples := by
  let document : Value :=
    .object [("header", .object []), ("samples", .array [.object [], .object []])]
  have complete : parse? twoSamples = some document := rfl
  have accepted : Capture.parse 1 twoSamples = .ok ⟨{}, [⟨[]⟩, ⟨[]⟩]⟩ := rfl
  have distinct : DistinctKeys twoSamples := by decide +kernel
  have cutOff : Capture.parse 1 (String.ofList (firstSample ++ ['\n'])) = .ok ⟨{}, [⟨[]⟩]⟩ := rfl
  obtain ⟨-, -, kept⟩ := parse_cut_off complete accepted distinct rfl
  exact ⟨_, _, accepted, cutOff,
    kept firstSample ['\n'] _ (List.take_prefix 27 _) (List.forall_mem_singleton.2 rfl) cutOff⟩

end UsageReport.Capture
