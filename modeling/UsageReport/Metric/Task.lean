import UsageReport.Metric.Context
import UsageReport.Metric.Keyed
import UsageReport.Number.Order

/-! Tasks of the monitored cgroup and their ranking by CPU time. A task counts with what was last
seen of it, and tasks of equal CPU time are in the order in which they were first seen. -/

namespace UsageReport.Metric

open UsageReport.Capture (number?)
open UsageReport.Json (Object Value)
open UsageReport.Number (totalLE)

def tasksSection : String := "cgroup_tasks"

abbrev TaskId := UInt64

/-- A task as it was last seen. -/
structure Task where
  id : TaskId
  /-- The process that the task belongs to. -/
  mainId : TaskId
  command : String
  /-- Seconds of CPU time from the start of the task. -/
  cpuSeconds : Number
  /-- Bytes read and written from the start of the task. -/
  ioBytes : Number
  rssBytes : Number

namespace Task

def label (command : String) (id : TaskId) : String :=
  command ++ " (" ++ toString id.toNat ++ ")"

def displayName (t : Task) : String := label t.command t.id

def isMain (t : Task) : Bool := t.id = t.mainId

/-- The number of a task: its field `pid`, or else the number in its key. -/
def id? (key : String) (fields : Object) : Option TaskId :=
  let ofKey : Option TaskId :=
    match key.toList with
    | 'p' :: 'i' :: 'd' :: '_' :: digits =>
      (Decimal.natural? (UInt64.size - 1) digits).map UInt64.ofNat
    | _ => none
  match number? fields "pid" with
  | some pid => if 0 ≤ pid then some pid.value.toUInt64 else ofKey
  | none => ofKey

/-- The process of a task: its field `tgid`, or else the task itself. -/
def mainIdOf (id : TaskId) (fields : Object) : TaskId :=
  match number? fields "tgid" with
  | some tgid => if 0 < tgid then tgid.value.toUInt64 else id
  | none => id

/-- The tasks of a section with their numbers. -/
def entries (tasks : Object) : List (TaskId × Object) :=
  tasks.filterMap fun (key, v) => do
    let fields ← v.object?
    let id ← id? key fields
    return (id, fields)

def total (fields : Object) (key key' : String) : Number :=
  (number? fields key).getD 0 + (number? fields key').getD 0

def ioTotal (fields : Object) : Number := total fields "io_total_read" "io_total_write"

def rss (fields : Object) : Number := (number? fields "mem_rss_bytes").getD 0

def ofEntry (id : TaskId) (fields : Object) : Task where
  id
  mainId := mainIdOf id fields
  command := ((fields.lookup "cmd").bind Value.string?).getD ""
  cpuSeconds := total fields "cpu_usr_total_secs" "cpu_sys_total_secs"
  ioBytes := ioTotal fields
  rssBytes := rss fields

end Task

structure Ranking where
  /-- The tasks, the one with the most CPU time first. -/
  ranked : List Task
  /-- The command of every task, ranked or not. -/
  commands : Keyed TaskId String
  /-- The number of samples with readings that have no tasks. -/
  invalidSamples : Nat

namespace Ranking

def sightings (c : Capture) : List (TaskId × Task) :=
  c.dataSamples.flatMap fun s =>
    (((s.section? tasksSection).map Task.entries).getD []).map fun (id, fields) =>
      (id, Task.ofEntry id fields)

/-- The first `topN` tasks, or all of them where that is zero. -/
def cut (topN : Nat) (tasks : List Task) : List Task :=
  if topN = 0 then tasks else tasks.take topN

def ofCapture (c : Capture) (topN : Nat) : Ranking :=
  let seen := Keyed.latest (sightings c)
  let tasks := (seen.map Prod.snd).mergeSort fun a b => totalLE b.cpuSeconds a.cpuSeconds
  { ranked := cut topN tasks
    commands := seen.map fun (id, task) => (id, task.command)
    invalidSamples := c.dataSamples.countP fun s => ¬ s.hasSection tasksSection }

def mainIds (r : Ranking) : List TaskId := (r.ranked.map Task.mainId).eraseDups

/-- The label of a process. Its command is empty where the process was not seen. -/
def mainLabel (r : Ranking) (id : TaskId) : String :=
  Task.label ((r.commands.lookup id).getD "") id

end Ranking

end UsageReport.Metric
