/-! Paths of files, and the path of the report that belongs to a capture. Segments of a path that
are empty or a single point say nothing, and neither do slashes at its end. -/

namespace UsageReport.CommandLine

/-- A path as the text between its slashes. -/
structure Path where
  /-- The path starts with a slash, behind which its segments stand. -/
  rooted : Bool
  segments : List (List Char)
deriving DecidableEq

namespace Path

def ofString (s : String) : Path :=
  match s.toList with
  | '/' :: rest => ⟨true, rest.splitOn '/'⟩
  | text => ⟨false, text.splitOn '/'⟩

def toString (p : Path) : String :=
  (if p.rooted then "/" else "") ++ "/".intercalate (p.segments.map String.ofList)

/-- A segment that leads nowhere. -/
def isIdle (segment : List Char) : Bool := segment = [] ∨ segment = ['.']

def trimSegments (segments : List (List Char)) : List (List Char) :=
  (segments.reverse.dropWhile isIdle).reverse

/-- The path without idle segments at its end. A first segment without a slash before it stays. -/
def trimmed (p : Path) : Path :=
  match p.rooted, p.segments with
  | false, first :: rest => ⟨false, first :: trimSegments rest⟩
  | rooted, segments => ⟨rooted, trimSegments segments⟩

/-- The name of the file, none where the path ends with its root, with `..` or with no name. -/
def name? (p : Path) : Option (List Char) :=
  p.trimmed.segments.getLast?.filter fun s => ¬ isIdle s ∧ s ≠ ['.', '.']

def directory (p : Path) : Path := trimmed { p with segments := p.trimmed.segments.dropLast }

/-- The path without its last segment, none where it has no segment that leads somewhere. -/
def parent? (p : Path) : Option Path :=
  if p.trimmed.segments = [] ∨ p.trimmed.segments = [[]] then none else some p.directory

def join (p : Path) (name : List Char) : Path :=
  let segments := if p.segments.getLast? = some [] then p.segments.dropLast else p.segments
  { p with segments := segments ++ [name] }

/-- The parts of a name before and behind its last point, where something stands before it. -/
def splitName? (name : List Char) : Option (List Char × List Char) :=
  let extension := (name.reverse.takeWhile (· ≠ '.')).reverse
  let stem := name.take (name.length - extension.length - 1)
  if stem = [] then none else some (stem, extension)

def extension? (p : Path) : Option (List Char) := (p.name?.bind splitName?).map Prod.snd

/-- The path with the end of the file's name cut off, where its extension is one of the given. -/
def cutExtension? (extensions : List (List Char)) (p : Path) : Option Path := do
  let (stem, extension) ← p.name?.bind splitName?
  if extension ∈ extensions then
    some { p with segments := p.trimmed.segments.dropLast ++ [stem] }
  else none

def size (p : Path) : Nat := p.segments.flatten.length

theorem length_flatten_trimSegments_le (segments : List (List Char)) :
    (trimSegments segments).flatten.length ≤ segments.flatten.length := by
  obtain ⟨idle, shape⟩ : ∃ idle, segments = trimSegments segments ++ idle := by
    refine ⟨(segments.reverse.takeWhile isIdle).reverse, ?_⟩
    rw [trimSegments, ← List.reverse_append, List.takeWhile_append_dropWhile,
      List.reverse_reverse]
  have whole := congrArg (List.length ∘ List.flatten) shape
  simp only [Function.comp_apply, List.flatten_append, List.length_append] at whole
  omega

theorem size_trimmed_le (p : Path) : p.trimmed.size ≤ p.size := by
  unfold trimmed size
  split
  · rename_i first rest _ shape
    have := length_flatten_trimSegments_le rest
    simp only [shape, List.flatten_cons, List.length_append]
    omega
  · exact length_flatten_trimSegments_le p.segments

theorem size_cutExtension? {extensions : List (List Char)} {p q : Path}
    (h : cutExtension? extensions p = some q) : q.size < p.size := by
  have bound := size_trimmed_le p
  unfold cutExtension? at h
  cases found : p.name?.bind splitName? with
  | none => simp [found] at h
  | some parts =>
    obtain ⟨stem, extension⟩ := parts
    obtain ⟨name, named, split⟩ := Option.bind_eq_some_iff.1 found
    unfold name? at named
    obtain ⟨last, -⟩ := Option.filter_eq_some_iff.1 named
    have shape : p.trimmed.segments = p.trimmed.segments.dropLast ++ [name] := by
      obtain ⟨before, eq⟩ := List.getLast?_eq_some_iff.1 last
      simp [eq]
    have less : stem.length < name.length := by
      unfold splitName? at split
      dsimp only at split
      split at split
      · simp at split
      · rename_i some_stem
        obtain ⟨rfl, -⟩ := Prod.mk.inj (Option.some.inj split)
        rw [List.length_take]
        have : name ≠ [] := by
          rintro rfl
          simp at some_stem
        have := List.length_pos_iff.2 this
        omega
    simp only [found, Option.bind_eq_bind, Option.bind_some] at h
    split at h
    · obtain rfl := Option.some.inj h
      have whole : p.trimmed.size
          = p.trimmed.segments.dropLast.flatten.length + name.length := by
        rw [size, shape]
        simp
      simp only [size, List.flatten_append, List.length_append, List.flatten_cons,
        List.flatten_nil, List.append_nil] at *
      omega
    · simp at h

def captureExtensions : List (List Char) := [['g', 'z'], ['j', 's', 'o', 'n']]

/-- The path without the extensions of captures. -/
def stem (p : Path) : Path :=
  match _cut : p.cutExtension? captureExtensions with
  | some q => stem q
  | none => p
termination_by p.size
decreasing_by exact size_cutExtension? _cut

end Path

def standardInput : String := "-"

def reportExtension : List Char := ".report.json".toList

/-- The path of the report of a capture: beside it, with its name. -/
def reportPath (input : String) : String :=
  if input = standardInput then "report.json"
  else
    let stem := (Path.ofString input).stem
    let path := match stem.name? with
      | some name => stem.directory.join (name ++ reportExtension)
      | none => stem.join ("report".toList ++ reportExtension)
    path.toString

end UsageReport.CommandLine
