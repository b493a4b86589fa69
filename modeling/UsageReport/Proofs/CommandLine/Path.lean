import Mathlib
import UsageReport.CommandLine.Path

/-! Paths and their components. Two paths are the same if they have the same components, whatever
slashes and idle segments stand between these. A path is printed so that it is read back. -/

namespace UsageReport.CommandLine

/-- One step of the way that a path describes. -/
inductive Component where
  | root
  /-- The directory that a relative path starts in, where the path says so. -/
  | here
  | above
  | named (name : List Char)
deriving DecidableEq, Repr

def Component.name? : Component → Option (List Char)
  | .named name => some name
  | _ => none

namespace Path

def stepOf (segment : List Char) : Component :=
  if segment = ['.', '.'] then .above else .named segment

def steps (segments : List (List Char)) : List Component :=
  (segments.filter fun s => !isIdle s).map stepOf

/-- A single point says where a relative path starts and leads nowhere in all other places. -/
def leading (first : List Char) : List Component :=
  if first = ['.'] then [.here] else steps [first]

def components (p : Path) : List Component :=
  match p.rooted, p.segments with
  | true, segments => .root :: steps segments
  | false, [] => []
  | false, first :: rest => leading first ++ steps rest

/-! ### Idle segments -/

theorem isIdle_iff {segment : List Char} :
    isIdle segment = true ↔ segment = [] ∨ segment = ['.'] := by
  rw [isIdle, decide_eq_true_iff]

theorem trimSegments_concat {front : List (List Char)} {last : List Char}
    (busy : isIdle last = false) : trimSegments (front ++ [last]) = front ++ [last] :=
  List.rdropWhile_concat_neg _ _ _ (by simp [busy])

theorem trimSegments_trimSegments (segments : List (List Char)) :
    trimSegments (trimSegments segments) = trimSegments segments :=
  List.rdropWhile_idempotent _ _

theorem busy_of_trimSegments {segments : List (List Char)} {last : List Char}
    (ends : (trimSegments segments).getLast? = some last) : isIdle last = false := by
  have some : trimSegments segments ≠ [] := by
    rintro none
    simp [none] at ends
  rw [List.getLast?_eq_some_getLast some, Option.some.injEq] at ends
  exact Bool.eq_false_of_not_eq_true (ends ▸ List.rdropWhile_last_not isIdle segments some)

theorem getLast?_steps (segments : List (List Char)) :
    (steps segments).getLast? = (trimSegments segments).getLast?.map stepOf := by
  induction segments using List.reverseRecOn with
  | nil => rfl
  | append_singleton front last ih =>
    cases idle : isIdle last with
    | true =>
      have same : trimSegments (front ++ [last]) = trimSegments front :=
        List.rdropWhile_concat_pos _ _ _ idle
      rw [same, ← ih]
      simp [steps, idle]
    | false =>
      rw [trimSegments_concat idle]
      simp [steps, idle]

theorem trimmed_concat (rooted : Bool) {front : List (List Char)} {last : List Char}
    (busy : isIdle last = false) :
    trimmed ⟨rooted, front ++ [last]⟩ = ⟨rooted, front ++ [last]⟩ := by
  cases rooted with
  | true => exact congrArg (Path.mk true) (trimSegments_concat busy)
  | false =>
    cases front with
    | nil => rfl
    | cons first rest =>
      exact congrArg (fun rest => Path.mk false (first :: rest)) (trimSegments_concat busy)

theorem trimmed_trimmed (p : Path) : p.trimmed.trimmed = p.trimmed := by
  obtain ⟨_ | _, segments⟩ := p
  · cases segments with
    | nil => rfl
    | cons first rest =>
      exact congrArg (fun rest => Path.mk false (first :: rest)) (trimSegments_trimSegments rest)
  · exact congrArg (Path.mk true) (trimSegments_trimSegments segments)

/-! ### Names -/

theorem name?_stepOf {segment : List Char} (busy : isIdle segment = false) :
    (stepOf segment).name?
      = (some segment).filter fun s => ¬ isIdle s ∧ s ≠ ['.', '.'] := by
  rw [stepOf, Option.filter_some]
  by_cases above : segment = ['.', '.'] <;> simp [above, busy, Component.name?]

theorem name?_leading (first : List Char) :
    (leading first).getLast?.bind Component.name?
      = (some first).filter fun s => ¬ isIdle s ∧ s ≠ ['.', '.'] := by
  by_cases here : first = ['.']
  · subst here
    rfl
  · rw [leading, if_neg here]
    cases idle : isIdle first with
    | true =>
      obtain rfl := (isIdle_iff.1 idle).resolve_right here
      rfl
    | false =>
      rw [← name?_stepOf idle, steps, List.filter_singleton, idle]
      rfl

/-- The name of the file is that of the last component. -/
theorem name?_eq (p : Path) : p.name? = p.components.getLast?.bind Component.name? := by
  obtain ⟨_ | _, segments⟩ := p
  · cases segments with
    | nil => rfl
    | cons first rest =>
      change (first :: trimSegments rest).getLast?.filter _
        = (leading first ++ steps rest).getLast?.bind _
      rw [List.getLast?_cons, List.getLast?_append, getLast?_steps]
      cases last : (trimSegments rest).getLast? with
      | none => exact (name?_leading first).symm
      | some => exact (name?_stepOf (busy_of_trimSegments last)).symm
  · change (trimSegments segments).getLast?.filter _
      = (Component.root :: steps segments).getLast?.bind _
    rw [List.getLast?_cons, getLast?_steps]
    cases last : (trimSegments segments).getLast? with
    | none => rfl
    | some => exact (name?_stepOf (busy_of_trimSegments last)).symm

/-- The segment is a name: it leads on, and neither nowhere nor back. -/
structure Proper (segment : List Char) : Prop where
  busy : isIdle segment = false
  onward : segment ≠ ['.', '.']

theorem proper_iff {segment : List Char} : Proper segment ↔ segment ∉ [[], ['.'], ['.', '.']] := by
  have busy : isIdle segment = false ↔ ¬ (segment = [] ∨ segment = ['.']) := by
    rw [← isIdle_iff, Bool.not_eq_true]
  simp only [List.mem_cons, List.not_mem_nil, or_false, ← or_assoc, not_or (p := _ ∨ _), ← busy]
  exact ⟨fun proper => ⟨proper.busy, proper.onward⟩, fun proper => ⟨proper.1, proper.2⟩⟩

theorem proper_of_length {segment : List Char} (long : 2 < segment.length) : Proper segment where
  busy := by
    rw [Bool.eq_false_iff, ne_eq, isIdle_iff]
    rintro (rfl | rfl) <;> simp at long
  onward := by
    rintro rfl
    simp at long

theorem name?_concat (rooted : Bool) (front : List (List Char)) {last : List Char}
    (proper : Proper last) : name? ⟨rooted, front ++ [last]⟩ = some last := by
  rw [name?, trimmed_concat rooted proper.busy, List.getLast?_concat, Option.filter_some]
  simp [proper.busy, proper.onward]

theorem proper_of_name? {p : Path} {name : List Char} (named : p.name? = some name) :
    Proper name := by
  obtain ⟨-, proper⟩ := Option.filter_eq_some_iff.1 named
  rw [decide_eq_true_iff] at proper
  exact ⟨Bool.eq_false_of_not_eq_true proper.1, proper.2⟩

theorem Proper.ne_nil {segment : List Char} (proper : Proper segment) : segment ≠ [] := by
  rintro rfl
  cases proper.busy

/-- The segments of a path with a file's name end with that name. -/
theorem segments_of_name? {p : Path} {name : List Char} (named : p.name? = some name) :
    p.trimmed.segments = p.trimmed.segments.dropLast ++ [name] := by
  obtain ⟨last, -⟩ := Option.filter_eq_some_iff.1 named
  obtain ⟨front, eq⟩ := List.getLast?_eq_some_iff.1 last
  rw [eq, List.dropLast_concat]

theorem segments_ne_nil_of_name? {p : Path} {name : List Char} (named : p.name? = some name) :
    p.segments ≠ [] := by
  intro none
  have ends := segments_of_name? named
  obtain ⟨_ | _, segments⟩ := p <;> cases none <;> cases ends

theorem parent?_of_name? {p : Path} {name : List Char} (named : p.name? = some name) :
    p.parent? = some p.directory := by
  have segments := segments_of_name? named
  refine if_neg ?_
  rintro (none | root)
  · rw [none] at segments
    simp at segments
  · rw [root] at segments
    exact (proper_of_name? named).ne_nil (by simpa using segments.symm)

/-! ### Paths and texts -/

/-- The path is one that a text is split into. -/
structure Sound (p : Path) : Prop where
  slashless : ∀ s ∈ p.segments, '/' ∉ s
  /-- A path that is not rooted has no slash in front. -/
  unrooted : p.rooted = false → p.segments.head? = some [] → p.segments = [[]]

theorem slashless_of_split {text segment : List Char} (inside : segment ∈ text.splitOn '/') :
    '/' ∉ segment := by
  induction text generalizing segment with
  | nil =>
    rw [List.splitOn_nil, List.mem_singleton] at inside
    simp [inside]
  | cons c text ih =>
    obtain ⟨first, rest, split⟩ := List.exists_cons_of_ne_nil (List.splitOn_ne_nil '/' text)
    rw [List.splitOn_cons_eq_if_modifyHead, split] at inside
    rw [split] at ih
    by_cases slash : c = '/'
    · rw [if_pos (beq_iff_eq.2 slash)] at inside
      rcases List.mem_cons.1 inside with rfl | inside
      · simp
      · exact ih inside
    · rw [if_neg (by simpa using slash)] at inside
      rcases List.mem_cons.1 inside with rfl | inside
      · have := ih (List.mem_cons_self)
        simp [Ne.symm slash, this]
      · exact ih (List.mem_cons_of_mem _ inside)

theorem sound_ofString (s : String) : (ofString s).Sound := by
  unfold ofString
  split
  case h_1 rest eq => exact ⟨fun _ => slashless_of_split, nofun⟩
  case h_2 unrooted =>
    refine ⟨fun _ => slashless_of_split, fun _ first => ?_⟩
    have whole : ['/'].intercalate (s.toList.splitOn '/') = s.toList := List.intercalate_splitOn _
    obtain ⟨_ | ⟨next, rest⟩, split⟩ := List.head?_eq_some_iff.1 first
    · exact split
    · rw [show s.toList.splitOn '/' = _ from split, List.intercalate_cons_cons] at whole
      exact (unrooted _ whole.symm).elim

theorem toList_toString (p : Path) : p.toString.toList
    = (if p.rooted then ['/'] else []) ++ ['/'].intercalate p.segments := by
  have segments : (p.segments.map String.ofList).map String.toList = p.segments := by
    simp [Function.comp_def]
  rw [toString, String.toList_append, String.toList_intercalate, segments]
  cases p.rooted <;> rfl

theorem Sound.text_unrooted {p : Path} (sound : p.Sound) (unrooted : p.rooted = false)
    (text : List Char) : ['/'].intercalate p.segments ≠ '/' :: text := by
  intro slash
  have slashless := sound.slashless
  rcases segments : p.segments with _ | ⟨first, _ | ⟨next, rest⟩⟩
  · rw [segments] at slash
    cases slash
  · rw [segments, List.intercalate_singleton] at slash
    exact slashless first (by simp [segments]) (by simp [slash])
  · rw [segments, List.intercalate_cons_cons] at slash
    cases first with
    | nil => simpa [segments] using sound.unrooted unrooted (by rw [segments]; rfl)
    | cons c first =>
      obtain ⟨rfl, -⟩ := List.cons.inj slash
      exact slashless ('/' :: first) (by simp [segments]) List.mem_cons_self

theorem eq_of_parts {p q : Path} (rooted : p.rooted = q.rooted)
    (segments : p.segments = q.segments) : p = q := by
  cases p
  cases q
  congr

/-- A sound path is read back from its text. -/
theorem ofString_toString {p : Path} (sound : p.Sound) (some : p.segments ≠ []) :
    ofString p.toString = p := by
  have split : (['/'].intercalate p.segments).splitOn '/' = p.segments :=
    List.splitOn_intercalate '/' sound.slashless some
  have text := toList_toString p
  unfold ofString
  cases rooted : p.rooted with
  | true =>
    rw [rooted, if_pos rfl, List.singleton_append] at text
    rw [text]
    exact eq_of_parts rooted.symm split
  | false =>
    rw [rooted, if_neg Bool.false_ne_true, List.nil_append] at text
    rw [text]
    split
    case h_1 rest slash => exact absurd slash (sound.text_unrooted rooted rest)
    case h_2 => exact eq_of_parts rooted.symm split

/-! ### Changes to a path -/

theorem segments_trimmed (p : Path) : p.trimmed.segments <+: p.segments := by
  obtain ⟨_ | _, segments⟩ := p
  · cases segments with
    | nil => exact List.prefix_rfl
    | cons first rest =>
      exact (List.prefix_cons_inj first).2 (List.rdropWhile_prefix isIdle rest)
  · exact List.rdropWhile_prefix isIdle segments

theorem rooted_trimmed (p : Path) : p.trimmed.rooted = p.rooted := by
  obtain ⟨_ | _, _ | _⟩ := p <;> rfl

theorem head?_of_start {front whole : List (List Char)} (start : front <+: whole)
    {first : List Char} (here : front.head? = some first) : whole.head? = some first := by
  obtain ⟨rest, rfl⟩ := List.head?_eq_some_iff.1 here
  obtain ⟨more, rfl⟩ := start
  rfl

theorem Sound.of_prefix {p : Path} (sound : p.Sound) {segments : List (List Char)}
    (start : segments <+: p.segments) : Sound ⟨p.rooted, segments⟩ where
  slashless s inside := sound.slashless s (start.subset inside)
  unrooted unrooted first := by
    obtain ⟨rest, eq⟩ : ∃ rest, segments = [] :: rest := List.head?_eq_some_iff.1 first
    rw [sound.unrooted unrooted (head?_of_start start first), eq] at start
    have none : rest = [] := List.prefix_nil.1 (List.cons_prefix_cons.1 start).2
    rw [eq, none]

theorem Sound.trimmed {p : Path} (sound : p.Sound) : p.trimmed.Sound := by
  have := sound.of_prefix (segments_trimmed p)
  rwa [← rooted_trimmed] at this

/-- The path is not the empty text, which turns into a rooted path where a segment is added. -/
def Extends (p : Path) : Prop := p.rooted = false → p.segments.head? ≠ some []

theorem Sound.extends_dropLast {p : Path} (sound : p.Sound) :
    Extends ⟨p.rooted, p.segments.dropLast⟩ := by
  intro unrooted first
  have single := sound.unrooted unrooted (head?_of_start (List.dropLast_prefix _) first)
  simp [single] at first

theorem Extends.getLast?_trimmed {p : Path} (extend : p.Extends) :
    p.trimmed.segments.getLast? ≠ some [] := by
  have busy (segments : List (List Char)) : (trimSegments segments).getLast? ≠ some [] :=
    fun ends => by simpa [isIdle] using busy_of_trimSegments ends
  obtain ⟨_ | _, segments⟩ := p
  · cases segments with
    | nil => nofun
    | cons first rest =>
      change (first :: trimSegments rest).getLast? ≠ _
      rw [List.getLast?_cons]
      cases last : (trimSegments rest).getLast? with
      | none => exact extend rfl
      | some => exact last ▸ busy rest
  · exact busy segments

theorem Sound.concat {p : Path} (sound : p.Sound) (extend : p.Extends) {name : List Char}
    (slashless : '/' ∉ name) (some : name ≠ []) : Sound ⟨p.rooted, p.segments ++ [name]⟩ where
  slashless s inside := by
    rcases List.mem_append.1 inside with front | last
    · exact sound.slashless s front
    · rw [List.mem_singleton.1 last]
      exact slashless
  unrooted unrooted first := by
    have start := extend unrooted
    cases segments : p.segments with
    | nil =>
      rw [segments] at first
      exact absurd (Option.some.inj first) some
    | cons =>
      rw [segments] at first start
      exact absurd first start

/-- The path in front of the last segment, with the idle ones that it ends with. -/
def front (p : Path) : Path := ⟨p.rooted, p.trimmed.segments.dropLast⟩

theorem Sound.front {p : Path} (sound : p.Sound) : p.front.Sound :=
  sound.of_prefix ((List.dropLast_prefix _).trans (segments_trimmed p))

theorem Sound.extends_front {p : Path} (sound : p.Sound) : p.front.Extends := by
  have := sound.trimmed.extends_dropLast
  rwa [rooted_trimmed] at this

theorem Sound.directory {p : Path} (sound : p.Sound) : p.directory.Sound := sound.front.trimmed

theorem join_eq {p : Path} {name : List Char} (ends : p.segments.getLast? ≠ some []) :
    p.join name = ⟨p.rooted, p.segments ++ [name]⟩ := by
  simp only [join, if_neg ends]

theorem Sound.join {p : Path} (sound : p.Sound) {name : List Char} (slashless : '/' ∉ name)
    (some : name ≠ []) : (p.join name).Sound := by
  by_cases ends : p.segments.getLast? = Option.some []
  · have eq : p.join name = ⟨p.rooted, p.segments.dropLast ++ [name]⟩ := by
      simp only [Path.join, if_pos ends]
    rw [eq]
    exact (sound.of_prefix (List.dropLast_prefix _)).concat sound.extends_dropLast slashless some
  · rw [join_eq ends]
    refine sound.concat (fun unrooted first => ends ?_) slashless some
    rw [sound.unrooted unrooted first]
    rfl

theorem directory_join {p : Path} (sound : p.Sound) {name : List Char}
    (busy : isIdle name = false) : (p.directory.join name).directory = p.directory := by
  have ends : p.directory.segments.getLast? ≠ some [] := sound.extends_front.getLast?_trimmed
  rw [join_eq ends]
  change trimmed ⟨_, (trimmed ⟨_, p.directory.segments ++ [name]⟩).segments.dropLast⟩ = _
  rw [trimmed_concat _ busy, List.dropLast_concat]
  exact trimmed_trimmed p.front

end Path

end UsageReport.CommandLine
