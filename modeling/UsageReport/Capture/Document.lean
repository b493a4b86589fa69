import UsageReport.Capture.Sample
import UsageReport.Json.Fields
import UsageReport.Time.Reader

/-! Cutting a capture down as a document, so that all other fields stay as they are: by a window of
time, and by the commands of tasks. A cut that fails changes nothing. -/

namespace UsageReport.Capture

open UsageReport.Json (Value Object Fields)
open UsageReport.Time (Instant Unreadable)

/-- A document with its samples taken out. -/
structure Document where
  others : Object
  samples : List Value

inductive CutFault where
  | noBounds
  | missingTimestamp (index : Nat)
  | timestamp (index : Nat) (text : Unreadable)
deriving DecidableEq, Repr

def CutFault.message : CutFault → String
  | .noBounds => "time filter needs a start or an end timestamp"
  | .missingTimestamp index => "sample " ++ toString index ++ " has no timestamp.UTC"
  | .timestamp index text => "sample " ++ toString index ++ ": " ++ text.message

namespace Document

def samplesKey : String := "samples"

/-- Takes the samples out of a document, none where it has no list of samples. -/
def ofJson? (v : Value) : Option Document := do
  let fields ← v.object?
  let samples ← (fields.lookup samplesKey).bind Value.array?
  return ⟨Fields.swapRemove fields samplesKey, samples⟩

def json (d : Document) : Value :=
  .object (Fields.set d.others samplesKey (.array d.samples))

def timeOf (index : Nat) (sample : Value) : Except CutFault Instant :=
  match ((sample.field? "timestamp").bind (·.field? "UTC")).bind Value.string? with
  | none => .error (.missingTimestamp index)
  | some utc => (Instant.parse utc).mapError (.timestamp index)

/-- The timestamps of samples that start at `index`. The first one that cannot be read is
reported. -/
def timesFrom (index : Nat) : List Value → Except CutFault (List Instant)
  | [] => .ok []
  | sample :: rest => do
    let t ← timeOf index sample
    return t :: (← timesFrom (index + 1) rest)

/-- The instant lies between the bounds, each of which belongs to the window. -/
def inWindow (first last : Option Instant) (t : Instant) : Bool :=
  first.all (· ≤ t) && last.all (t ≤ ·)

/-- Keeps the samples between the bounds, of which at least one is given. -/
def keepWindow (d : Document) (first last : Option Instant) : Except CutFault Document := do
  if first.isNone ∧ last.isNone then throw .noBounds
  let times ← timesFrom 0 d.samples
  let kept := (d.samples.zip times).filter fun (_, t) => inWindow first last t
  return { d with samples := kept.map Prod.fst }

def tasksKey : String := "cgroup_tasks"

def occursIn (part : List Char) : List Char → Bool
  | [] => part.isEmpty
  | c :: rest => part.isPrefixOf (c :: rest) || occursIn part rest

def runs (name : String) (task : Value) : Bool :=
  ((task.field? "cmd").bind Value.string?).any fun command =>
    occursIn name.toList command.toList

def keepTasksOf (name : String) : Value → Value
  | .object fields => .object (fields.map fun (key, v) =>
    match v with
    | .object tasks =>
      if key = tasksKey then (key, .object (tasks.filter fun (_, task) => runs name task))
      else (key, v)
    | _ => (key, v))
  | v => v

def keepTasks (d : Document) (name : String) : Document :=
  { d with samples := d.samples.map (keepTasksOf name) }

def taskCountOf (sample : Value) : Nat :=
  (((sample.field? tasksKey).bind Value.object?).map List.length).getD 0

def taskCount (d : Document) : Nat := d.samples.foldl (fun n sample => n + taskCountOf sample) 0

/-- What a document may be cut down to. -/
inductive Cut where
  /-- The samples between two bounds. -/
  | window (first last : Option Instant)
  /-- The tasks whose commands contain the name. -/
  | tasks (name : String)

/-- Makes a cut. Also gives the number of samples, or of entries of tasks, that it takes out. -/
def cut (d : Document) : Cut → Except CutFault Nat × Document
  | .window first last =>
    match d.keepWindow first last with
    | .ok kept => (.ok (d.samples.length - kept.samples.length), kept)
    | .error fault => (.error fault, d)
  | .tasks name =>
    let kept := d.keepTasks name
    (.ok (d.taskCount - kept.taskCount), kept)

end Document

end UsageReport.Capture
