import UsageReport.Chart.Axis
import UsageReport.Decimal.Layout
import UsageReport.Toml.Reader

/-! The settings of a run, read from TOML. Missing settings have defaults, unknown ones are ignored,
and values out of range are refused. -/

namespace UsageReport

open UsageReport.Decimal (Layout)
open UsageReport.Json (Fields)

structure Settings where
  /-- The number of tasks in the charts of tasks, zero for all. -/
  topN : Nat := 20
  /-- The factor and the margin of caps that follow from data. -/
  margin : Chart.MarginPolicy := {}
  /-- The least number of samples for statistics. -/
  statisticsLeast : Nat := 3
  /-- The least number of samples of a capture. -/
  loaderLeast : Nat := 2

namespace Settings

/-- A value out of range. -/
inductive Invalid where
  | factor (x : Float)
  | margin (x : Float)
  | statisticsLeast (n : Nat)
  | loaderLeast (n : Nat)

def Invalid.message : Invalid → String
  | .factor x => "chart.secondary_axis_factor must be > 0, got " ++ Layout.plain.render x
  | .margin x => "chart.secondary_axis_margin must be >= 0, got " ++ Layout.plain.render x
  | .statisticsLeast n => "statistics.min_samples must be >= 2, got " ++ toString n
  | .loaderLeast n => "loader.min_samples must be >= 2, got " ++ toString n

/-- Why a text holds no settings. -/
inductive Fault where
  /-- The text is no TOML, or a setting has the wrong type. -/
  | unreadable
  | invalid (fault : Invalid)

def Fault.message : Fault → String
  | .unreadable => "TOML parse error"
  | .invalid fault => fault.message

/-- A section of the settings: by name, or the settings alone in order. -/
inductive Section where
  | named (fields : Fields Toml.Value)
  | listed (items : List Toml.Value)

namespace Section

/-- The section of a value. A date counts as a section without settings. All numbers in settings
that are not known have to be within the limits. -/
def ofValue? (known : List String) : Toml.Value → Option Section
  | .table fields =>
    if fields.all fun (name, v) => known.contains name || v.isSound then some (.named fields)
    else none
  | .array items => some (.listed items)
  | .dateTime => some (.named [])
  | _ => none

/-- A setting, with a default. -/
def setting? {α : Type} (s : Section) (index : Nat) (name : String) (default : α)
    (read : Toml.Value → Option α) : Option α :=
  let found := match s with
    | .named fields => fields.lookup name
    | .listed items => items[index]?
  match found with
  | none => some default
  | some v => read v

end Section

/-- The section `name` of a document, empty where it is missing. -/
def section? (document : Fields Toml.Value) (name : String) (known : List String) :
    Option Section :=
  match document.lookup name with
  | none => some (.named [])
  | some v => Section.ofValue? known v

/-- The settings of a document. -/
def ofToml? (document : Fields Toml.Value) : Option Settings := do
  let sections := ["chart", "statistics", "loader"]
  if document.any fun (name, v) => ! sections.contains name && ! v.isSound then none
  let chart ← section? document "chart"
    ["top_n", "secondary_axis_factor", "secondary_axis_margin"]
  let statistics ← section? document "statistics" ["min_samples"]
  let loader ← section? document "loader" ["min_samples"]
  let initial : Settings := {}
  return {
    topN := ← chart.setting? 0 "top_n" initial.topN Toml.Value.natural?
    margin := {
      factor := ← chart.setting? 1 "secondary_axis_factor" initial.margin.factor Toml.Value.float?
      margin := ← chart.setting? 2 "secondary_axis_margin" initial.margin.margin Toml.Value.float? }
    statisticsLeast :=
      ← statistics.setting? 0 "min_samples" initial.statisticsLeast Toml.Value.natural?
    loaderLeast := ← loader.setting? 0 "min_samples" initial.loaderLeast Toml.Value.natural? }

/-- The first value out of range. -/
def invalid? (s : Settings) : Option Invalid :=
  if ¬ (s.margin.factor.isFinite ∧ 0 < s.margin.factor) then some (.factor s.margin.factor)
  else if ¬ (s.margin.margin.isFinite ∧ 0 ≤ s.margin.margin) then some (.margin s.margin.margin)
  else if s.statisticsLeast < 2 then some (.statisticsLeast s.statisticsLeast)
  else if s.loaderLeast < 2 then some (.loaderLeast s.loaderLeast)
  else none

def parse (text : String) : Except Fault Settings :=
  match (Toml.parse? text).bind ofToml? with
  | none => .error .unreadable
  | some settings =>
    match settings.invalid? with
    | some fault => .error (.invalid fault)
    | none => .ok settings

end Settings

end UsageReport
