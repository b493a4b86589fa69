import Mathlib
import UsageReport.Proofs.CommandLine.Path

/-! The path of a report. The loop that strips the extensions of captures ends on every path, and
the report stands beside its capture unless the name that is left is read as a direction instead of
a name. No report has the path of its capture. -/

namespace UsageReport.CommandLine

namespace Path

/-! ### Names and extensions -/

theorem forall_of_pointless {text : List Char} (pointless : '.' ∉ text) :
    ∀ c ∈ text.reverse, decide (c ≠ '.') = true :=
  fun _ inside => decide_eq_true fun same => pointless (same ▸ List.mem_reverse.1 inside)

theorem splitName?_append (front : List Char) {extension : List Char}
    (pointless : '.' ∉ extension) : splitName? (front ++ '.' :: extension)
      = if front = [] then none else some (front, extension) := by
  have behind : ((front ++ '.' :: extension).reverse.takeWhile (· ≠ '.')).reverse = extension := by
    rw [List.reverse_append, List.reverse_cons, List.append_assoc,
      List.takeWhile_append_of_pos (forall_of_pointless pointless), List.singleton_append,
      List.takeWhile_cons_of_neg (by simp), List.append_nil, List.reverse_reverse]
  have before : (front ++ '.' :: extension).take
      ((front ++ '.' :: extension).length - extension.length - 1) = front := by
    refine List.take_left' ?_
    rw [List.length_append, List.length_cons]
    omega
  simp only [splitName?, behind, before]

theorem splitName?_eq_some_iff {name front extension : List Char} :
    splitName? name = some (front, extension)
      ↔ front ≠ [] ∧ '.' ∉ extension ∧ name = front ++ '.' :: extension := by
  constructor
  · intro split
    by_cases pointed : '.' ∈ name
    · obtain ⟨rest, start, eq, pointless⟩ :=
        List.eq_append_cons_of_mem (List.mem_reverse.2 pointed)
      obtain rfl : name = start.reverse ++ '.' :: rest.reverse := by
        rw [← List.reverse_reverse name, eq]
        simp
      rw [splitName?_append _ (by simpa using pointless)] at split
      split at split
      · cases split
      · cases split
        exact ⟨‹_›, by simpa using pointless, rfl⟩
    · have alone : splitName? name = none := by
        rw [splitName?, List.takeWhile_eq_self_iff.2 (forall_of_pointless pointed)]
        simp
      cases alone.symm.trans split
  · rintro ⟨some, pointless, rfl⟩
    rw [splitName?_append front pointless, if_neg some]

/-- The second name is the first one without the extensions of captures at its end. -/
@[mk_iff]
inductive Stripped : List Char → List Char → Prop
  | bare {name : List Char}
      (bare : ∀ front ≠ [], ∀ e ∈ captureExtensions, name ≠ front ++ '.' :: e) : Stripped name name
  | cut {front e stem : List Char} (some : front ≠ []) (extension : e ∈ captureExtensions)
      (rest : Stripped front stem) : Stripped (front ++ '.' :: e) stem

theorem pointless {e : List Char} (extension : e ∈ captureExtensions) : '.' ∉ e :=
  (by decide : ∀ e ∈ captureExtensions, '.' ∉ e) e extension

theorem extension_pos {e : List Char} (extension : e ∈ captureExtensions) : 0 < e.length :=
  (by decide : ∀ e ∈ captureExtensions, 0 < e.length) e extension

theorem stripped_cut {front e : List Char} (some : front ≠ []) (extension : e ∈ captureExtensions)
    {stem : List Char} : Stripped (front ++ '.' :: e) stem ↔ Stripped front stem := by
  refine ⟨fun stripped => ?_, .cut some extension⟩
  rcases (stripped_iff _ _).1 stripped with ⟨bare, -⟩ | ⟨front', e', some', extension', rest, same⟩
  · exact absurd rfl (bare front some e extension)
  · have split := splitName?_append front (pointless extension)
    rw [same, splitName?_append front' (pointless extension'), if_neg some, if_neg some'] at split
    cases split
    exact rest

theorem stripped_bare {name : List Char}
    (whole : ∀ front ≠ [], ∀ e ∈ captureExtensions, name ≠ front ++ '.' :: e) {stem : List Char} :
    Stripped name stem ↔ stem = name := by
  refine ⟨fun stripped => ?_, fun same => same.symm ▸ .bare whole⟩
  rcases (stripped_iff _ _).1 stripped with ⟨-, same⟩ | ⟨front, e, some, extension, -, same⟩
  · exact same
  · exact absurd same (whole front some e extension)

theorem stripped_self {name : List Char}
    (other : ∀ front e, splitName? name = some (front, e) → e ∉ captureExtensions) :
    Stripped name name :=
  .bare fun front some e extension same =>
    other front e (splitName?_eq_some_iff.2 ⟨some, pointless extension, same⟩) extension

/-- Every name has one stem. -/
theorem exists_stripped (name : List Char) : ∃ stem, ∀ s, Stripped name s ↔ s = stem := by
  induction count : name.length using Nat.strong_induction_on generalizing name with
  | h n ih =>
    by_cases whole : ∃ front ≠ [], ∃ e ∈ captureExtensions, name = front ++ '.' :: e
    · obtain ⟨front, some, e, extension, rfl⟩ := whole
      have less : front.length < n := by
        rw [List.length_append, List.length_cons] at count
        omega
      simp only [stripped_cut some extension]
      exact ih front.length less front rfl
    · push Not at whole
      exact ⟨name, fun s => stripped_bare whole⟩

/-! ### The loop -/

variable {p q : Path} {name : List Char}

/-- The path with another name. -/
def rename (p : Path) (name : List Char) : Path := ⟨p.rooted, p.front.segments ++ [name]⟩

theorem cutExtension?_eq_some_iff {extensions : List (List Char)} :
    p.cutExtension? extensions = some q ↔ ∃ front ≠ [], ∃ e ∈ extensions, '.' ∉ e
      ∧ p.name? = some (front ++ '.' :: e) ∧ q = p.rename front := by
  simp only [cutExtension?, Option.bind_eq_bind, Option.bind_eq_some_iff,
    Option.ite_none_right_eq_some, Option.some.injEq, Prod.exists, splitName?_eq_some_iff]
  constructor
  · rintro ⟨front, e, ⟨name, named, some, pointless, rfl⟩, inside, rfl⟩
    exact ⟨front, some, e, inside, pointless, named, rfl⟩
  · rintro ⟨front, some, e, inside, pointless, named, rfl⟩
    exact ⟨front, e, ⟨_, named, some, pointless, rfl⟩, inside, rfl⟩

/-- One turn of the loop takes an extension off the name. -/
def Turns (p q : Path) : Prop := p.cutExtension? captureExtensions = some q

theorem turns_of_name? {front e : List Char} (some : front ≠ []) (extension : e ∈ captureExtensions)
    (named : p.name? = Option.some (front ++ '.' :: e)) : Turns p (p.rename front) :=
  cutExtension?_eq_some_iff.2 ⟨front, some, e, extension, pointless extension, named, rfl⟩

theorem wellFounded_turns : WellFounded (Function.swap Turns) :=
  Subrelation.wf (fun turn => size_cutExtension? turn) (measure size).wf

theorem stem_of_turns (turn : Turns p q) : p.stem = q.stem := by
  rw [stem]
  split
  case h_1 q' cut => rw [Option.some.inj (cut.symm.trans turn)]
  case h_2 none => cases none.symm.trans turn

theorem stem_of_end (ends : p.cutExtension? captureExtensions = none) : p.stem = p := by
  rw [stem]
  split
  case h_1 q cut => cases cut.symm.trans ends
  case h_2 => rfl

/-- The loop runs from the one path to the other and ends there. -/
structure RunsTo (p q : Path) : Prop where
  run : Relation.ReflTransGen Turns p q
  ends : q.cutExtension? captureExtensions = none

theorem runsTo_stem (p : Path) : RunsTo p p.stem := by
  induction p using wellFounded_turns.induction with
  | h p ih =>
    cases turn : p.cutExtension? captureExtensions with
    | none =>
      rw [stem_of_end turn]
      exact ⟨.refl, turn⟩
    | some q =>
      rw [stem_of_turns turn]
      have rest := ih q turn
      exact ⟨.head turn rest.run, rest.ends⟩

/-- What holds of a path and is kept by every turn holds where the loop ends. -/
theorem stem_induction {motive : Path → Prop} (turn : ∀ p q, Turns p q → motive p → motive q)
    (start : motive p) : motive p.stem := by
  have run := (runsTo_stem p).run
  generalize p.stem = q at run ⊢
  induction run with
  | refl => exact start
  | tail _ last ih => exact turn _ _ last ih

/-! ### The name that is left -/

theorem name?_rename (proper : Proper name) : (p.rename name).name? = some name :=
  name?_concat _ _ proper

theorem directory_rename (proper : Proper name) : (p.rename name).directory = p.directory := by
  change trimmed ⟨_, (trimmed ⟨_, _ ++ [name]⟩).segments.dropLast⟩ = _
  rw [trimmed_concat _ proper.busy, List.dropLast_concat]
  rfl

theorem Stripped.proper {stem : List Char} (stripped : Stripped name stem) (proper : Proper stem) :
    Proper name := by
  cases stripped with
  | bare => exact proper
  | @cut front e _ some extension rest =>
    have before := List.length_pos_iff.2 some
    have behind := extension_pos extension
    refine proper_of_length ?_
    rw [List.length_append, List.length_cons]
    omega

theorem Stripped.ne_nil {stem : List Char} (stripped : Stripped name stem)
    (whole : name ≠ []) : stem ≠ [] := by
  induction stripped with
  | bare => exact whole
  | cut some _ _ ih => exact ih some

theorem stem_of_whole (named : p.name? = some name)
    (whole : ∀ front ≠ [], ∀ e ∈ captureExtensions, name ≠ front ++ '.' :: e) : p.stem = p := by
  refine stem_of_end (Option.eq_none_iff_forall_ne_some.2 fun q turn => ?_)
  obtain ⟨front, some, e, extension, -, named', -⟩ := cutExtension?_eq_some_iff.1 turn
  exact whole front some e extension (Option.some.inj (named.symm.trans named'))

/-- If the name that is left is one, the loop ends at the path with that name. -/
theorem Stripped.name?_stem {stem : List Char} (stripped : Stripped name stem)
    (proper : Proper stem) (named : p.name? = some name) :
    p.stem.name? = some stem ∧ p.stem.directory = p.directory := by
  induction stripped generalizing p with
  | bare whole =>
    rw [stem_of_whole named whole]
    exact ⟨named, rfl⟩
  | @cut front e stem some extension rest ih =>
    have shorter := rest.proper proper
    obtain ⟨left, directory⟩ := ih proper (name?_rename (p := p) shorter)
    rw [stem_of_turns (turns_of_name? some extension named)]
    exact ⟨left, directory.trans (directory_rename shorter)⟩

/-! ### The report -/

/-- The path of the report of a capture in a file. -/
def report (p : Path) : Path :=
  match p.stem.name? with
  | some name => p.stem.directory.join (name ++ reportExtension)
  | none => p.stem.join ("report".toList ++ reportExtension)

/-- The name of the report without its extension. -/
def reportStem (p : Path) : List Char := p.stem.name?.getD "report".toList

theorem reportStem_of_name? (left : p.stem.name? = some name) : p.reportStem = name := by
  rw [reportStem, left, Option.getD_some]

theorem proper_reportStem (p : Path) : Proper p.reportStem := by
  unfold reportStem
  cases left : p.stem.name? with
  | none => exact proper_of_length (by decide)
  | some name => exact proper_of_name? left

theorem proper_append (name : List Char) {extension : List Char} (long : 2 < extension.length) :
    Proper (name ++ extension) := by
  refine proper_of_length ?_
  rw [List.length_append]
  omega

theorem proper_extended (name : List Char) : Proper (name ++ reportExtension) :=
  proper_append name (by decide)

theorem name?_report (p : Path) : p.report.name? = some (p.reportStem ++ reportExtension) := by
  unfold report reportStem
  cases p.stem.name? with
  | none => exact name?_concat _ _ (proper_extended _)
  | some name => exact name?_concat _ _ (proper_extended name)

theorem report_of_name? (left : p.stem.name? = some name) :
    p.report = p.stem.directory.join (name ++ reportExtension) := by
  rw [report, left]

theorem report_of_none (left : p.stem.name? = none) :
    p.report = p.stem.join ("report".toList ++ reportExtension) := by
  rw [report, left]

theorem Sound.rename (sound : p.Sound) (slashless : '/' ∉ name) (some : name ≠ []) :
    (p.rename name).Sound :=
  sound.front.concat sound.extends_front slashless some

theorem Sound.slashless_name (sound : p.Sound) (named : p.name? = some name) : '/' ∉ name := by
  refine sound.slashless name ((segments_trimmed p).subset ?_)
  rw [segments_of_name? named]
  exact List.mem_append_right _ (List.mem_singleton_self name)

theorem Sound.stem (sound : p.Sound) : p.stem.Sound := by
  refine stem_induction (fun p q turn sound => ?_) sound
  obtain ⟨front, some, e, -, -, named, rfl⟩ := cutExtension?_eq_some_iff.1 turn
  have slashless := sound.slashless_name named
  exact sound.rename (fun slash => slashless (List.mem_append_left _ slash)) some

theorem Sound.report (sound : p.Sound) : p.report.Sound := by
  have extension (name : List Char) : name ++ reportExtension ≠ [] :=
    List.append_ne_nil_of_right_ne_nil name (by decide)
  have slashless : '/' ∉ reportExtension := by decide
  cases left : p.stem.name? with
  | none =>
    rw [report_of_none left]
    exact sound.stem.join (by decide) (extension _)
  | some name =>
    rw [report_of_name? left]
    refine sound.stem.directory.join (fun slash => ?_) (extension name)
    exact (List.mem_append.1 slash).elim (sound.stem.slashless_name left) slashless

theorem parent?_report (sound : p.Sound) (left : p.stem.name? = some name) :
    p.report.parent? = some p.stem.directory := by
  rw [parent?_of_name? (name?_report p), report_of_name? left,
    directory_join sound.stem (proper_extended name).busy]

/-- From a report's name only the last extension is taken away. -/
theorem stripped_report {stem : List Char} (some : stem ≠ []) :
    Stripped (stem ++ reportExtension) (stem ++ ".report".toList) := by
  have parts : stem ++ reportExtension = (stem ++ ".report".toList) ++ '.' :: "json".toList := by
    rw [List.append_assoc]
    rfl
  rw [parts]
  refine .cut (List.append_ne_nil_of_left_ne_nil some _) (by decide) (stripped_self ?_)
  intro front e split
  rw [show stem ++ ".report".toList = stem ++ '.' :: "report".toList from rfl,
    splitName?_append stem (by decide), if_neg some] at split
  cases split
  decide

end Path

open UsageReport.CommandLine.Path (Stripped)

theorem ofString_reportPath {input : String} (given : input ≠ standardInput) :
    Path.ofString (reportPath input) = (Path.ofString input).report := by
  have sound := (Path.sound_ofString input).report
  have text : reportPath input = (Path.ofString input).report.toString := if_neg given
  rw [text]
  exact Path.ofString_toString sound (Path.segments_ne_nil_of_name? (Path.name?_report _))

/-- The report stands in the directory of the capture, under the capture's name without the
extensions of captures. -/
structure Beside (capture report : Path) (stem : List Char) : Prop where
  directory : report.parent? = capture.parent?
  name : report.name? = some (stem ++ reportExtension)

/-- The loop that strips a path ends, and the report stands beside its capture exactly if the name
that is left is no direction. -/
theorem report_beside_iff {input : String} (given : input ≠ standardInput) {name : List Char}
    (named : (Path.ofString input).name? = some name) :
    WellFounded (Function.swap Path.Turns)
    ∧ (Path.ofString input).RunsTo (Path.ofString input).stem
    ∧ ∃ stem, (∀ s, Stripped name s ↔ s = stem)
      ∧ (Beside (Path.ofString input) (Path.ofString (reportPath input)) stem
        ↔ stem ∉ [['.'], ['.', '.']]) := by
  refine ⟨Path.wellFounded_turns, Path.runsTo_stem _, ?_⟩
  obtain ⟨stem, unique⟩ := Path.exists_stripped name
  have stripped : Stripped name stem := (unique stem).2 rfl
  rw [ofString_reportPath given]
  refine ⟨stem, unique, fun beside => ?_, fun onward => ?_⟩
  · -- The name of every report is that of some file, and never that of a direction.
    have same := Option.some.inj ((Path.name?_report _).symm.trans beside.name)
    have proper := Path.proper_reportStem (Path.ofString input)
    rw [List.append_cancel_right same, Path.proper_iff] at proper
    exact fun direction => proper (List.mem_cons_of_mem _ direction)
  · have some := stripped.ne_nil (Path.proper_of_name? named).ne_nil
    have proper : Path.Proper stem := Path.proper_iff.2 (by simpa [some] using onward)
    obtain ⟨left, directory⟩ := stripped.name?_stem proper named
    constructor
    case directory =>
      rw [Path.parent?_report (Path.sound_ofString input) left, directory,
        Path.parent?_of_name? named]
    case name => rw [Path.name?_report, Path.reportStem_of_name? left]

/-- A path with idle segments around a name that has another extension below those of captures. -/
def archive : String := "data//capture.v2.json.gz/."

theorem report_beside_archive : archive ≠ standardInput
    ∧ (Path.ofString archive).name? = some "capture.v2.json.gz".toList
    ∧ Stripped "capture.v2.json.gz".toList "capture.v2".toList
    ∧ (Path.ofString (reportPath archive)).name? = some "capture.v2.report.json".toList
    ∧ (Path.ofString (reportPath archive)).parent? = some (Path.ofString "data") := by
  have given : archive ≠ standardInput := by decide
  have named : (Path.ofString archive).name? = some "capture.v2.json.gz".toList := by decide
  have stripped : Stripped "capture.v2.json.gz".toList "capture.v2".toList := by
    refine @Stripped.cut "capture.v2.json".toList "gz".toList _ (by decide) (by decide) ?_
    refine @Stripped.cut "capture.v2".toList "json".toList _ (by decide) (by decide) ?_
    refine Path.stripped_self fun front e split => ?_
    cases (by decide : Path.splitName? _ = some ("capture".toList, "v2".toList)).symm.trans split
    decide
  obtain ⟨-, -, stem, unique, beside⟩ := report_beside_iff given named
  obtain rfl := (unique _).1 stripped
  obtain ⟨directory, name⟩ := beside.2 (by decide)
  exact ⟨given, named, stripped, name, directory⟩

/-- What is left of this name is a direction: the directory itself. -/
def pointed : String := "a/..json"

theorem report_outside_pointed : pointed ≠ standardInput
    ∧ (Path.ofString pointed).name? = some "..json".toList
    ∧ Stripped "..json".toList ".".toList
    ∧ reportPath pointed = "a.report.json"
    ∧ ¬ Beside (Path.ofString pointed) (Path.ofString (reportPath pointed)) ".".toList := by
  have stem : (Path.ofString pointed).stem = ⟨false, ["a".toList, ".".toList]⟩ := by
    have turn : Path.Turns (Path.ofString pointed) ⟨false, ["a".toList, ".".toList]⟩ := by
      change Path.cutExtension? _ _ = _
      decide
    rw [Path.stem_of_turns turn]
    exact Path.stem_of_end (by decide)
  have path : reportPath pointed = "a.report.json" := by
    have given : reportPath pointed = (Path.ofString pointed).report.toString :=
      if_neg (by decide)
    rw [given, Path.report, stem]
    decide
  refine ⟨by decide, by decide, ?_, path, fun beside => ?_⟩
  · refine @Stripped.cut ".".toList "json".toList _ (by decide) (by decide) ?_
    exact Path.stripped_self fun front e split => by cases split
  · rw [path] at beside
    exact absurd beside.directory (by decide)

/-- No report has the path of its capture. -/
theorem report_elsewhere (input : String) :
    (Path.ofString (reportPath input)).components ≠ (Path.ofString input).components := by
  intro same
  have names : (Path.ofString (reportPath input)).name? = (Path.ofString input).name? := by
    rw [Path.name?_eq, same, ← Path.name?_eq]
  by_cases given : input = standardInput
  · subst given
    revert names
    decide
  · rw [ofString_reportPath given, Path.name?_report] at names
    have proper := Path.proper_reportStem (Path.ofString input)
    -- Stripping the name of a report leaves more than the report's own stem.
    have stripped := Path.stripped_report proper.ne_nil
    have longer := Path.proper_append (Path.ofString input).reportStem
      (by decide : 2 < ".report".toList.length)
    have stem := Path.reportStem_of_name? (stripped.name?_stem longer names.symm).1
    exact absurd (List.self_eq_append_right.1 stem) (by decide)

end UsageReport.CommandLine
