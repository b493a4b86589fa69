import UsageReport.Capture.Document
import UsageReport.Codec.Wire
import UsageReport.CommandLine.Arguments
import UsageReport.CommandLine.Host
import UsageReport.Json.Printer
import UsageReport.Report.Basic
import UsageReport.Settings
import UsageReport.Statistics.Basic

/-! One run of the program: it reads the settings and the input, does what the command asks, and
writes one output, to a file or to standard output. -/

namespace UsageReport.CommandLine

open UsageReport.Report (Spelling)
open UsageReport.Time (Instant Unreadable)

/-- Why a run fails, in the words of its message. -/
inductive Failure where
  | settings (fault : Settings.Fault)
  /-- A step of the run fails at a path. -/
  | atPath (step path : String)
  | readingInput
  | nothingToFilter
  | statistics (fault : Statistics.TooFewSamples)
  | capture (fault : Capture.Fault)
  | bound (text : Unreadable)
  | cut (fault : Capture.CutFault)
  | report (fault : Report.Fault)

def Failure.message : Failure → String
  | .settings fault => fault.message
  | .atPath step path => step ++ " " ++ path
  | .readingInput => "reading standard input"
  | .nothingToFilter => "filter needs --start, --end or --task-name"
  | .statistics fault => fault.message
  | .capture fault => fault.message
  | .bound text => text.message
  | .cut fault => fault.message
  | .report fault => fault.message

def orFail {α : Type} (failure : Failure) : Option α → Except Failure α
  | some a => .ok a
  | none => .error failure

/-- The settings of a run without a file of settings, or with the contents of that file. -/
def settingsOf (file : Option (String × Except ReadFault (List UInt8))) :
    Except Failure Settings :=
  match file with
  | none => .ok {}
  | some (path, contents) => do
    let text ← orFail (.atPath "reading config" path) (contents.toOption.bind Codec.text?)
    (Settings.parse text).mapError .settings

def Command.check : Command → Except Failure Unit
  | .filter none none none => .error .nothingToFilter
  | _ => .ok ()

/-- The text of an input with the given bytes. Those of a `.gz` file are compressed. -/
def documentOf (path : String) (contents : Except ReadFault (List UInt8)) :
    Except Failure String := do
  let compressed := (Path.ofString path).extension? = some ['g', 'z']
  let step := if compressed then "decompressing" else "reading"
  match contents with
  | .error .missing => throw (.atPath "opening" path)
  | .error .unreadable => throw (.atPath step path)
  | .ok bytes =>
    let plain := if compressed then Codec.Gzip.decompress? bytes else some bytes
    orFail (.atPath step path) (plain.bind Codec.text?)

def captureOf (settings : Settings) (path text : String) : Except Failure Capture :=
  (Capture.parse settings.loaderLeast text).mapError fun _ => .atPath "loading" path

def boundOf (text : Option String) : Except Failure (Option Instant) :=
  match text with
  | none => .ok none
  | some text => ((Instant.parseBound text).map some).mapError .bound

def filtered (path text : String) (start stop taskName : Option String) :
    Except Failure Json.Value := do
  let document ← orFail (.atPath "parsing" path) (Json.parse? text)
  let document ← orFail (.capture (.missingKey Capture.Document.samplesKey))
    (Capture.Document.ofJson? document)
  let document ←
    if start.isSome ∨ stop.isSome then do
      let first ← boundOf start
      let last ← boundOf stop
      (document.keepWindow first last).mapError .cut
    else pure document
  return (match taskName with
    | some name => document.keepTasks name
    | none => document).json

/-- The output of a command on the text of its input. Tables over time are written by `spell`. -/
def outputOf (spell : Spelling) (settings : Settings) (i : Invocation) (text : String) :
    Except Failure String :=
  match i.command with
  | .chart topN => do
    let capture ← captureOf settings i.input text
    let context : Metric.Context := ⟨capture, settings.margin, topN.getD settings.topN⟩
    let report ← (Report.generate spell context).mapError .report
    return report.json.compact
  | .stats => do
    let capture ← captureOf settings i.input text
    let statistics ← (Statistics.ofCapture settings.statisticsLeast capture).mapError
      .statistics
    return (statistics.json i.verbose).pretty
  | .filter start stop taskName => do
    return (← filtered i.input text start stop taskName).compact

/-- The path of the output, none for standard output. -/
def Invocation.target (i : Invocation) : Option String :=
  match i.output, i.command with
  | some path, _ => some path
  | none, .chart _ => some (reportPath i.input)
  | none, _ => none

section

variable {m : Type → Type} [Monad m]

def Host.settings (h : Host m) (i : Invocation) : ExceptT Failure m Settings := do
  let file ← match i.config with
    | none => pure none
    | some path => do pure (some (path, ← h.readFile path))
  settingsOf file

def Host.document (h : Host m) (i : Invocation) : ExceptT Failure m String := do
  if i.input = standardInput then
    orFail .readingInput (Codec.text? (← h.readInput))
  else documentOf i.input (← h.readFile i.input)

def Host.makeParent (h : Host m) (path : String) : ExceptT Failure m Unit := do
  let parent := ((Path.ofString path).parent?.map Path.toString).getD ""
  if parent ≠ "" then
    if ¬ (← h.makeDirectory parent) then throw (.atPath "creating directory" parent)

def Host.save (h : Host m) (path contents : String) : ExceptT Failure m Unit := do
  h.makeParent path
  if ¬ (← h.writeFile path contents) then throw (.atPath "writing" path)

/-- Runs the program. The result is what goes to standard output. -/
def Host.execute (h : Host m) (spell : Spelling) (i : Invocation) :
    ExceptT Failure m String := do
  let settings ← h.settings i
  i.command.check
  let text ← h.document i
  let output ← outputOf spell settings i text
  match i.target with
  | none => return output ++ "\n"
  | some path => do
    h.save path output
    return ""

end

/-- What a run leaves behind, its files apart. -/
structure Outcome where
  code : Nat
  output : String := ""
  /-- The complaint on standard error. -/
  complaint : Option String := none

def help : String :=
  "Chart data, statistics and filtering for cmonitor collector captures\n\n"
    ++ "Usage: cmonitor-report [OPTIONS] <COMMAND>\n\n"
    ++ "Commands:\n"
    ++ "  chart <INPUT> [-o <OUTPUT>] [-t <TOP_N>]\n"
    ++ "  stats <INPUT> [-o <OUTPUT>]\n"
    ++ "  filter <INPUT> [-o <OUTPUT>] [--start <START>] [--end <END>]"
    ++ " [--task-name <TASK_NAME>]\n\n"
    ++ "Options:\n"
    ++ "  -c, --config <CONFIG>  TOML configuration file\n"
    ++ "  -v, --verbose          More detail in the output\n"
    ++ "  -h, --help             Print help\n"
    ++ "  -V, --version          Print version\n"

/-- Runs the program with the given arguments. `environment` is the path of the settings in the
environment. -/
def Host.run {m : Type → Type} [Monad m] (h : Host m) (spell : Spelling)
    (environment : Option String) (arguments : List String) : m Outcome := do
  match Invocation.parse environment arguments with
  | .error .usage => return { code := 2, complaint := some "the arguments are wrong" }
  | .error .help => return { code := 0, output := help }
  | .error .version => return { code := 0, output := Report.generatedBy ++ "\n" }
  | .ok i =>
    match ← (h.execute spell i).run with
    | .error failure => return { code := 1, complaint := some failure.message }
    | .ok output => return { code := 0, output }

end UsageReport.CommandLine
