import Mathlib
import UsageReport.Proofs.Json.Fields
import UsageReport.Proofs.Metric.Processes
import UsageReport.Statistics.Summary

/-! The mode of readings. The readings are counted one by one under their bits, and the mode is read
off the counts in whatever order these are enumerated: it is the reading that occurs more often than
every other one, so that neither that order nor the order of the readings has a part in it. -/

namespace UsageReport.Statistics

open UsageReport.Json.Fields (lookup_eq_some_iff_mem lookup_eq_none_iff_keys)
open UsageReport.Metric (Keyed nodup_eraseDups)
open UsageReport.Metric.Keyed (keys_update lookup_update)

variable {xs ys : List Number} {x : Number} {entries : Keyed UInt64 Nat}

/-! ### Counts -/

/-- One more reading. -/
def count (known : Keyed UInt64 Nat) (x : Number) : Keyed UInt64 Nat :=
  known.update x.bits fun found => found.getD 0 + 1

/-- How often each reading occurs, in the order in which they come first. -/
def counts (xs : List Number) : Keyed UInt64 Nat := xs.foldl count []

/-- The entries are those of a mapping from the bits of each reading to how often it occurs. -/
structure Counts (xs : List Number) (entries : Keyed UInt64 Nat) : Prop where
  once : (entries.map Prod.fst).Nodup
  mem_iff : ∀ bits n, (bits, n) ∈ entries ↔ n = occurrences xs bits ∧ 0 < n

theorem Counts.perm {entries' : Keyed UInt64 Nat} (counts : Counts xs entries)
    (same : entries'.Perm entries) : Counts xs entries' where
  once := (same.map Prod.fst).nodup_iff.2 counts.once
  mem_iff bits n := same.mem_iff.trans (counts.mem_iff bits n)

theorem Counts.lookup (counts : Counts xs entries) (bits : UInt64) :
    (List.lookup bits entries).getD 0 = occurrences xs bits := by
  cases found : List.lookup bits entries with
  | some n =>
    have inside := (lookup_eq_some_iff_mem counts.once).1 found
    exact ((counts.mem_iff bits n).1 inside).1
  | none =>
    rw [lookup_eq_none_iff_keys] at found
    by_contra other
    have inside := (counts.mem_iff bits _).2 ⟨rfl, Nat.pos_of_ne_zero (Ne.symm other)⟩
    exact found (List.mem_map_of_mem inside)

theorem occurrences_concat (xs : List Number) (x : Number) (bits : UInt64) :
    occurrences (xs ++ [x]) bits = occurrences xs bits + if bits = x.bits then 1 else 0 := by
  rw [occurrences, List.map_append, List.count_append, List.map_singleton, occurrences]
  by_cases same : bits = x.bits
  · rw [same, List.count_singleton_self, if_pos rfl]
  · rw [List.count_eq_zero.2 fun inside => same (List.mem_singleton.1 inside), if_neg same]

theorem Counts.count (counts : Counts xs entries) (x : Number) :
    Counts (xs ++ [x]) (count entries x) := by
  have once : ((Statistics.count entries x).map Prod.fst).Nodup := by
    rw [Statistics.count, keys_update]
    split
    case isTrue => exact counts.once
    case isFalse new => exact List.concat_eq_append ▸ counts.once.concat new
  refine ⟨once, fun bits n => ?_⟩
  rw [← lookup_eq_some_iff_mem once, Statistics.count, lookup_update, counts.lookup,
    occurrences_concat]
  by_cases same : bits = x.bits
  · subst same
    simp only [if_pos, Option.some.injEq]
    omega
  · rw [if_neg same, if_neg same, lookup_eq_some_iff_mem counts.once, counts.mem_iff, Nat.add_zero]

theorem counts_counts (xs : List Number) : Counts xs (counts xs) := by
  induction xs using List.reverseRecOn with
  | nil => exact ⟨.nil, by simp [counts, occurrences]⟩
  | append_singleton xs x ih =>
    rw [counts, List.foldl_concat]
    exact ih.count x

/-! ### The most frequent reading -/

/-- The mode by the entries of a mapping of counts, in the order in which they are enumerated: at
most two of the entries with the largest count are looked at. -/
def Mode.ofCounts (entries : Keyed UInt64 Nat) : Mode :=
  match (entries.map Prod.snd).max? with
  | none => .notUnique
  | some most =>
    match entries.filter (·.2 = most) with
    | [(bits, _)] => .unique ⟨bits⟩
    | _ => .notUnique

/-- The reading occurs more often than every other one. -/
structure Winner (xs : List Number) (x : Number) : Prop where
  mem : x ∈ xs
  most : ∀ y ∈ xs, y ≠ x → occurrences xs y.bits < occurrences xs x.bits

theorem Counts.mem (counts : Counts xs entries) (inside : x ∈ xs) :
    (x.bits, occurrences xs x.bits) ∈ entries := by
  refine (counts.mem_iff _ _).2 ⟨rfl, ?_⟩
  exact List.count_pos_iff.2 (List.mem_map_of_mem inside)

theorem Counts.reading {bits : UInt64} {n : Nat} (counts : Counts xs entries)
    (inside : (bits, n) ∈ entries) : ⟨bits⟩ ∈ xs ∧ n = occurrences xs bits := by
  obtain ⟨rfl, positive⟩ := (counts.mem_iff bits n).1 inside
  obtain ⟨x, mem, rfl⟩ := List.mem_map.1 (List.count_pos_iff.1 positive)
  exact ⟨mem, rfl⟩

theorem Counts.ofCounts_of_winner (counts : Counts xs entries) (winner : Winner xs x) :
    Mode.ofCounts entries = .unique x := by
  have inside := counts.mem winner.mem
  have most : (entries.map Prod.snd).max? = some (occurrences xs x.bits) := by
    rw [List.max?_eq_some_iff, List.forall_mem_map]
    refine ⟨List.mem_map_of_mem inside, fun ⟨bits, n⟩ mem => ?_⟩
    obtain ⟨reading, rfl⟩ := counts.reading mem
    by_cases same : (⟨bits⟩ : Number) = x
    · rw [← same]
    · exact (winner.most _ reading same).le
  have alone : entries.filter (·.2 = occurrences xs x.bits)
      = [(x.bits, occurrences xs x.bits)] := by
    rw [← List.perm_singleton]
    refine (List.perm_ext_iff_of_nodup (counts.once.of_map.filter _) (List.nodup_singleton _)).2 ?_
    rintro ⟨bits, n⟩
    rw [List.mem_filter, decide_eq_true_iff, List.mem_singleton]
    constructor
    · rintro ⟨mem, equal⟩
      obtain ⟨reading, rfl⟩ := counts.reading mem
      by_contra other
      have less := winner.most _ reading fun same => other (by rw [← same])
      exact less.ne equal
    · rintro same
      rw [same]
      exact ⟨inside, rfl⟩
  rw [Mode.ofCounts, most]
  simp only [alone]

theorem Counts.winner_of_ofCounts (counts : Counts xs entries)
    (found : Mode.ofCounts entries = .unique x) : Winner xs x := by
  unfold Mode.ofCounts at found
  split at found
  case h_1 => cases found
  case h_2 most largest =>
    split at found
    case h_2 => cases found
    case h_1 bits n alone =>
      obtain rfl := Mode.unique.inj found
      have first : (bits, n) ∈ entries.filter (·.2 = most) := alone ▸ List.mem_singleton_self _
      obtain ⟨inside, equal⟩ := List.mem_filter.1 first
      obtain ⟨reading, count⟩ := counts.reading inside
      obtain rfl : n = most := of_decide_eq_true equal
      refine ⟨reading, fun y mem other => ?_⟩
      have inside' := counts.mem mem
      have atMost := (List.max?_eq_some_iff.1 largest).2 _ (List.mem_map_of_mem inside')
      refine lt_of_le_of_ne (count ▸ atMost) fun equal' => other (Number.ext ?_)
      -- A second reading with the largest count would stand beside the first.
      have second : (y.bits, occurrences xs y.bits) ∈ entries.filter (·.2 = n) :=
        List.mem_filter.2 ⟨inside', decide_eq_true (equal'.trans count.symm)⟩
      rw [alone, List.mem_singleton] at second
      exact congrArg Prod.fst second

theorem Counts.ofCounts_eq_unique_iff (counts : Counts xs entries) :
    Mode.ofCounts entries = .unique x ↔ Winner xs x :=
  ⟨counts.winner_of_ofCounts, counts.ofCounts_of_winner⟩

/-- A mode is known by the readings it can be. -/
theorem Mode.ext {m m' : Mode} (same : ∀ x, m = .unique x ↔ m' = .unique x) : m = m' := by
  cases m with
  | unique x => exact ((same x).1 rfl).symm
  | notUnique =>
    cases m' with
    | unique x => exact (same x).2 rfl
    | notUnique => rfl

/-! ### The mode -/

/-- The counts as the mode takes them. -/
def tally (xs : List Number) : Keyed UInt64 Nat :=
  (xs.map Number.bits).eraseDups.map fun bits => (bits, occurrences xs bits)

theorem counts_tally (xs : List Number) : Counts xs (tally xs) where
  once := by
    rw [tally, List.map_map]
    exact (List.map_id _).symm ▸ nodup_eraseDups _
  mem_iff bits n := by
    have positive : 0 < occurrences xs bits ↔ bits ∈ xs.map Number.bits := List.count_pos_iff
    simp only [tally, List.mem_map, List.mem_eraseDups, Prod.mk.injEq]
    constructor
    · rintro ⟨b, inside, rfl, rfl⟩
      exact ⟨rfl, positive.2 (List.mem_map.2 inside)⟩
    · rintro ⟨rfl, some⟩
      exact ⟨bits, List.mem_map.1 (positive.1 some), rfl, rfl⟩

theorem mode_eq (xs : List Number) : mode xs = .ofCounts (tally xs) := by
  unfold mode Mode.ofCounts tally
  generalize (xs.map Number.bits).eraseDups = distinct
  cases distinct with
  | nil => rfl
  | cons first rest =>
    have largest : (((first :: rest).map fun bits => (bits, occurrences xs bits)).map
        Prod.snd).max? = some (((first :: rest).map (occurrences xs)).foldl max 0) := by
      rw [List.map_map, List.map_cons, List.map_cons, List.max?_cons', List.foldl_cons,
        Nat.zero_max]
      rfl
    simp only [largest, List.filter_map]
    generalize ((first :: rest).map (occurrences xs)).foldl max 0 = most
    have same : (((first :: rest).filter
        ((fun x : UInt64 × Nat => decide (x.2 = most)) ∘ fun bits => (bits, occurrences xs bits))))
        = (first :: rest).filter (occurrences xs · = most) := rfl
    rw [same]
    match (first :: rest).filter (occurrences xs · = most) with
    | [] => rfl
    | [_] => rfl
    | _ :: _ :: _ => rfl

theorem mode_eq_unique_iff : mode xs = .unique x ↔ Winner xs x :=
  mode_eq xs ▸ (counts_tally xs).ofCounts_eq_unique_iff

theorem Winner.perm (same : ys.Perm xs) (winner : Winner xs x) : Winner ys x := by
  have equal (bits : UInt64) : occurrences ys bits = occurrences xs bits :=
    (same.map Number.bits).count_eq bits
  refine ⟨same.mem_iff.2 winner.mem, fun y inside other => ?_⟩
  rw [equal, equal]
  exact winner.most y (same.mem_iff.1 inside) other

/-- The mode is the reading that occurs more often than every other one, if there is one: in
whatever order the counts are enumerated and the readings come. -/
theorem mode_of_counts (xs : List Number) :
    (∀ entries, entries.Perm (counts xs) → Mode.ofCounts entries = mode xs)
    ∧ (∀ x, mode xs = .unique x ↔ Winner xs x)
    ∧ (mode xs = .notUnique ↔ ∀ x, ¬ Winner xs x)
    ∧ ∀ ys, ys.Perm xs → mode ys = mode xs := by
  refine ⟨fun entries same => ?_, fun x => mode_eq_unique_iff, ?_, fun ys same => ?_⟩
  · have counted := (counts_counts xs).perm same
    exact Mode.ext fun x => counted.ofCounts_eq_unique_iff.trans mode_eq_unique_iff.symm
  · have known (x : Number) : mode xs = .unique x ↔ Winner xs x := mode_eq_unique_iff
    simp only [← known]
    cases mode xs <;> simp
  · refine Mode.ext fun x => ?_
    rw [mode_eq_unique_iff, mode_eq_unique_iff]
    exact ⟨.perm same.symm, .perm same⟩

/-- Two readings of `2` win against one of `1` and one of `3`, two of `1` do not, and `-0` and `0`
are two readings. -/
example : mode [1, 2, 2, 3] = .unique 2 ∧ mode [1, 1, 2, 2] = .notUnique ∧ mode [] = .notUnique
    ∧ mode [0, -0] = .notUnique := by
  exact ⟨rfl, rfl, rfl, rfl⟩

end UsageReport.Statistics
