import UsageReport.Json.Value
import UsageReport.Number.Order

/-! The summary of readings: their extremes, mean, median and mode. Neither the median nor the mode
depends on the order of the readings. -/

namespace UsageReport.Statistics

open UsageReport.Json (Value)
open UsageReport.Number (largest? smallest? sum totalLE)

/-- The most frequent of some readings. -/
inductive Mode where
  | unique (x : Number)
  /-- No reading is more frequent than all others. -/
  | notUnique

def Mode.json : Mode → Value
  | .unique x => .real x.value
  | .notUnique => .string "no unique mode"

def occurrences (xs : List Number) (bits : UInt64) : Nat := (xs.map Number.bits).count bits

/-- The reading that is more frequent than all others. Readings are told apart by their bits. -/
def mode (xs : List Number) : Mode :=
  let distinct := (xs.map Number.bits).eraseDups
  let most := (distinct.map (occurrences xs)).foldl max 0
  match distinct.filter (occurrences xs · = most) with
  | [bits] => .unique ⟨bits⟩
  | _ => .notUnique

def sorted (xs : List Number) : List Number := xs.mergeSort totalLE

/-- The reading in the middle, or the mean of the two in the middle. -/
def median? (xs : List Number) : Option Number :=
  let ordered := sorted xs
  let middle := xs.length / 2
  if xs.length % 2 = 1 then ordered[middle]?
  else
    match ordered[middle - 1]?, ordered[middle]? with
    | some a, some b => some ((a + b) / 2)
    | _, _ => none

def mean (xs : List Number) : Number := sum xs / .ofFloat xs.length.toFloat

/-- The summary of readings, with the readings themselves on demand. Without readings it is
empty. -/
def summary (unit : String) (verbose : Bool) (xs : List Number) : Value :=
  match smallest? xs, largest? xs, median? xs with
  | some least, some most, some middle =>
    let readings : List (String × Value) :=
      [("stats", .array (xs.map fun x => .real x.value)), ("samples", .integer xs.length)]
    .object ([("minimum", .real least.value), ("maximum", .real most.value),
      ("mean", .real (mean xs).value), ("median", .real middle.value), ("mode", (mode xs).json),
      ("unit", .string unit)] ++ if verbose then readings else [])
  | _, _, _ => .object []

end UsageReport.Statistics
