import Mathlib
import UsageReport.Proofs.Capture.Truncated
import UsageReport.Proofs.Json.Comma

/-! Samples that outlive a cut. A capture that is cut off right behind the comma of a sample, whose
closing brace stands in front of the comma, is read with its header and all samples up to there. -/

namespace UsageReport.Capture

open UsageReport.Json

/-! ### Closing behind a sample -/

/-- Where the last item of an array of the outermost object has ended with a brace, a bracket and
another brace end the document. -/
theorem closed_of_open {r : Reader} {items : List Value} {fields : Object} {name : String}
    (cutOff : r.run ['\x7d', ',']
      = some ⟨.blank, .value [.items items, .member fields name]⟩) :
    r.run ['\x7d', ']', '\x7d']
      = some ⟨.blank, .ended (.object (fields.set name (.array items.reverse))) []⟩ := by
  rw [Reader.run_cons, Option.bind_eq_some_iff] at cutOff
  obtain ⟨r', brace, comma⟩ := cutOff
  rw [Reader.run_cons, brace]
  rcases Reader.cases_of_brace brace with ⟨read, place, rfl⟩ | ⟨o, outer, rfl⟩
  · cases comma
  · rcases outer with _ | ⟨⟨done⟩ | ⟨done, key⟩, outer⟩
    · cases comma
    · cases comma
      rfl
    · cases comma

theorem repaired_of_cut (start : List Char) {blanks : List Char}
    (blank : ∀ b ∈ blanks, Text.isBlank b = true) :
    repaired (String.ofList (start ++ ['\x7d', ','] ++ blanks))
      = String.ofList (start ++ ['\x7d', ']', '\x7d']) := by
  have trimmed : Text.trimEnd (String.ofList (start ++ ['\x7d', ','] ++ blanks)).toList
      = start ++ ['\x7d', ','] := by
    rw [String.toList_ofList, Text.trimEnd_append _ blank, Text.trimEnd, List.reverse_append]
    show (List.dropWhile Text.isBlank (',' :: '\x7d' :: start.reverse)).reverse = _
    rw [List.dropWhile_cons_of_neg (by decide)]
    simp
  rcases cases_of_repaired (String.ofList (start ++ ['\x7d', ','] ++ blanks)) with
    ⟨start', cutOff, closed⟩ | ⟨whole, -⟩
  · rw [closed, List.append_cancel_right (cutOff.symm.trans trimmed)]
  · exact absurd trimmed (whole start)

/-- A text that is cut off behind a brace and the comma of an array of the outermost object is read
with the items in front of the comma. -/
theorem parse?_of_cut {start blanks : List Char} {items : List Value} {fields : Object}
    {name : String} (blank : ∀ b ∈ blanks, Text.isBlank b = true)
    (opened : Reader.initial.run (start ++ ['\x7d', ','])
      = some ⟨.blank, .value [.items items, .member fields name]⟩) :
    parse? (repaired (String.ofList (start ++ ['\x7d', ','] ++ blanks)))
      = some (.object (fields.set name (.array items.reverse))) := by
  obtain ⟨r, started, marks⟩ := Reader.run_append_eq_some_iff.1 opened
  rw [repaired_of_cut start blank, parse?_eq_object_iff, String.toList_ofList, Reader.run_append,
    started]
  exact closed_of_open marks

/-! ### Recovered samples -/

/-- The text `cut` ends with the comma behind the first `k` samples of the text. -/
abbrev CutBehind (text : String) (k : Nat) (cut : List Char) : Prop :=
  CommaAt text.toList "samples" k cut

/-- The text is read as the first `k` samples of the capture `c` with its header, as often as so
many samples are enough. -/
structure RecoversFirst (c : Capture) (k : Nat) (text : String) : Prop where
  enough : ∀ least ≤ k, Capture.parse least text = .ok ⟨c.header, c.samples.take k⟩
  tooFew : ∀ least > k, Capture.parse least text = .error (.tooFewSamples k least)

variable {text : String} {front back header : Object} {listed : Value} {least k : Nat}
  {c : Capture} {cut blanks : List Char}

/-- The document that is read from a text that was cut off behind a sample. -/
theorem document_of_cut
    (complete : parse? text = some (.object (front ++ ("samples", listed) :: back)))
    (distinct : DistinctKeys text) (there : CutBehind text k cut) (brace : ['\x7d', ','] <:+ cut)
    (blank : ∀ b ∈ blanks, Text.isBlank b = true) :
    ∃ items all, listed = .array all ∧ items <+: all ∧ items.length = k
      ∧ parse? (repaired (String.ofList (cut ++ blanks)))
        = some (.object (front ++ [("samples", .array items)])) := by
  obtain ⟨start, rfl⟩ := brace
  obtain ⟨⟨rest, whole⟩, -, _, opened, items, fields, rfl, count⟩ := there
  have names := (distinct_of_parse? complete).names
  rw [parse?_eq_object_iff, ← whole] at complete
  rw [DistinctKeys, ← whole] at distinct
  obtain ⟨new, all, ⟨others, kept⟩, begins⟩ := array_of_open distinct complete opened
  rw [Fields.set_of_new new, List.append_assoc] at kept
  obtain ⟨rfl, rfl, -⟩ := Fields.split_unique names kept.symm
  refine ⟨items.reverse, all, rfl, begins, List.length_reverse.trans count, ?_⟩
  rw [parse?_of_cut blank opened, Fields.set_of_new new]

theorem lookups_of_front (names : (Fields.names (front ++ ("samples", listed) :: back)).Nodup)
    (headerFirst : ("header", .object header) ∈ front) :
    List.lookup "header" (front ++ ("samples", listed) :: back) = some (.object header)
      ∧ List.lookup "samples" (front ++ ("samples", listed) :: back) = some listed := by
  rw [Fields.lookup_eq_some_iff_mem names, Fields.lookup_eq_some_iff_mem names]
  exact ⟨List.mem_append_left _ headerFirst, List.mem_append_right front List.mem_cons_self⟩

theorem recoversFirst_of_document {items : List Value}
    (read : parse? (repaired text) = some (.object (front ++ [("samples", .array items)])))
    (headerFirst : ("header", .object header) ∈ front)
    (readHeader : Header.ofJson? (.object header) = some c.header)
    (readItems : samples? (.array items) = some (c.samples.take k)) (more : k ≤ c.samples.length) :
    RecoversFirst c k text := by
  obtain ⟨headerIs, samplesIs⟩ := lookups_of_front (distinct_of_parse? read).names headerFirst
  have result (least : Nat) : Capture.parse least text
      = if k < least then .error (.tooFewSamples k least)
        else .ok ⟨c.header, c.samples.take k⟩ := by
    rw [Capture.parse, read]
    show ofJson least _ = _
    rw [ofJson_eq least headerIs samplesIs readHeader readItems, List.length_take,
      Nat.min_eq_left more]
  constructor
  case enough =>
    intro least enough
    rw [result, if_neg (Nat.not_lt.2 enough)]
  case tooFew =>
    intro least less
    rw [result, if_pos less]

/-- In a complete capture with its header in front of the samples and no key twice, every sample but
the last one stands in front of exactly one comma. If the brace of the sample stands right in front
of the comma, what is left of the text up to there is read as the samples up to there, whatever
blanks are behind it. -/
theorem recovered_behind_comma
    (complete : parse? text = some (.object (front ++ ("samples", listed) :: back)))
    (headerFirst : ("header", .object header) ∈ front) (distinct : DistinctKeys text)
    (accepted : Capture.parse least text = .ok c) (positive : 1 ≤ k) (more : k < c.samples.length) :
    (∃! cut, CutBehind text k cut)
      ∧ ∀ cut blanks, CutBehind text k cut → ['\x7d', ','] <:+ cut →
        (∀ b ∈ blanks, Text.isBlank b = true) →
          RecoversFirst c k (String.ofList (cut ++ blanks)) := by
  obtain ⟨headerThere, samplesThere⟩ :=
    lookups_of_front (distinct_of_parse? complete).names headerFirst
  rw [parse_of_complete least complete] at accepted
  obtain ⟨_, h, s, same, headerIs, samplesIs, readHeader, readSamples⟩ := parts_of_ofJson accepted
  cases same
  obtain rfl := Option.some.inj (headerThere.symm.trans headerIs)
  obtain rfl := Option.some.inj (samplesThere.symm.trans samplesIs)
  obtain rfl := samples?_eq_some_iff.1 readSamples
  constructor
  · refine existsUnique_commaAt complete distinct samplesIs positive ?_
    rwa [List.length_map]
  · intro cut blanks there brace blank
    obtain ⟨items, all, same, begins, count, read⟩ :=
      document_of_cut complete distinct there brace blank
    obtain rfl := Value.array.inj same
    refine recoversFirst_of_document read headerFirst readHeader ?_ more.le
    rw [samples?_eq_some_iff, List.map_take, ← count, ← List.prefix_iff_eq_take.1 begins]

/-- A text with two samples behind its header, the first one with a comma of its own. -/
def commaInside : String :=
  "\x7b\"header\":\x7b\x7d,\"samples\":[\x7b\"a\":[1,2]\x7d,\x7b\x7d],\"end\":0\x7d"

theorem recovered_comma_inside : ∃ c, Capture.parse 2 commaInside = .ok c
    ∧ CutBehind commaInside 1 (commaInside.toList.take 36)
    ∧ RecoversFirst c 1 (String.ofList (commaInside.toList.take 36 ++ ['\n'])) := by
  let first : Object := [("a", .array [.integer 1, .integer 2])]
  have complete : parse? commaInside = some (.object ([("header", .object [])]
      ++ ("samples", .array [.object first, .object []]) :: [("end", .integer 0)])) := rfl
  have accepted : Capture.parse 2 commaInside = .ok ⟨{}, [⟨first⟩, ⟨[]⟩]⟩ := rfl
  have distinct : DistinctKeys commaInside := by decide +kernel
  have there : CutBehind commaInside 1 (commaInside.toList.take 36) :=
    ⟨List.take_prefix _ _, by decide, _, rfl, _, _, rfl, rfl⟩
  obtain ⟨-, recovered⟩ :=
    recovered_behind_comma complete List.mem_cons_self distinct accepted (Nat.le_refl 1)
      (by decide)
  exact ⟨_, accepted, there, recovered _ _ there (by decide) (List.forall_mem_singleton.2 rfl)⟩

end UsageReport.Capture
