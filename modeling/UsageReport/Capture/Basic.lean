import UsageReport.Capture.Header
import UsageReport.Capture.Sample
import UsageReport.Json.Reader

/-! Captures: a header and samples in order. The first sample is the collector's start and carries
no readings; the second one, the template, tells which sections were collected. A capture that was
cut off behind a sample is closed before it is read. -/

namespace UsageReport

open UsageReport.Json (Value Object)

namespace Capture

/-- Why a text is no capture. -/
inductive Fault where
  | invalidJson
  | missingKey (key : String)
  | tooFewSamples (found required : Nat)
deriving DecidableEq, Repr

def Fault.message : Fault → String
  | .invalidJson => "invalid JSON document"
  | .missingKey key => "missing required top-level key '" ++ key ++ "'"
  | .tooFewSamples found required =>
    "found " ++ toString found ++ " samples, at least " ++ toString required ++ " are required"

end Capture

structure Capture where
  header : Capture.Header
  samples : List Capture.Sample

namespace Capture

def samples? (v : Value) : Option (List Sample) := do
  (← v.array?).mapM fun item => item.object?.map Sample.mk

/-- The capture of a JSON document with at least `least` samples. -/
def ofJson (least : Nat) (document : Value) : Except Fault Capture := do
  let some header := document.field? "header" | throw (.missingKey "header")
  let some samples := document.field? "samples" | throw (.missingKey "samples")
  let some header := Header.ofJson? header | throw .invalidJson
  let some samples := samples? samples | throw .invalidJson
  if samples.length < least then throw (.tooFewSamples samples.length least)
  return ⟨header, samples⟩

/-- The text without the blanks at its end. A text that then ends with a brace and a comma was cut
off behind a sample: the comma gives way to the ends of the list of samples and of the document. -/
def repaired (text : String) : String :=
  match (Text.trimEnd text.toList).reverse with
  | ',' :: '\x7d' :: start => String.ofList (start.reverse ++ ['\x7d', ']', '\x7d'])
  | rest => String.ofList rest.reverse

def parse (least : Nat) (text : String) : Except Fault Capture :=
  match Json.parse? (repaired text) with
  | some document => ofJson least document
  | none => .error .invalidJson

/-- The index of the first sample with readings. -/
def firstReading : Nat := 1

def template? (c : Capture) : Option Sample := c.samples[firstReading]?

def templateSection? (c : Capture) (name : String) : Option Object :=
  c.template?.bind (·.section? name)

def hasSection (c : Capture) (name : String) : Bool := (c.templateSection? name).isSome

def dataSamples (c : Capture) : List Sample := c.samples.drop firstReading

def indexedSamples (c : Capture) : List (Sample × Nat) := c.samples.zipIdx.drop firstReading

def sectionKeys (c : Capture) (name : String) : List String :=
  ((c.templateSection? name).map (·.names)).getD []

abbrev CpuIndex := Nat

/-- The keys that hold totals over all CPUs. -/
def totalKeys : List String := ["cpu_total", "cpu_tot"]

/-- The number of the CPU whose counters a key holds. -/
def cpuIndex? (key : String) : Option CpuIndex :=
  if key ∈ totalKeys then none
  else
    match key.toList with
    | 'c' :: 'p' :: 'u' :: digits => Decimal.natural? (UInt32.size - 1) digits
    | _ => none

def logicalCpus (c : Capture) (name : String) : List CpuIndex :=
  ((c.sectionKeys name).filterMap cpuIndex?).mergeSort fun i j => i ≤ j

end Capture

end UsageReport
