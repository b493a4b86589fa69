import UsageReport.Decimal.Numeral
import UsageReport.Json.Value
import UsageReport.Text.Blank

/-! Samples: what the collector read at one instant, in sections that are JSON objects, and the
numbers in such objects. -/

namespace UsageReport.Capture

open UsageReport.Json (Value Object)

/-- The number of a value. Texts that spell a number count as numbers. -/
def numberOf? : Value → Option Number
  | .string s => Decimal.numeral? (Text.trim s.toList)
  | v => v.float?.map .ofFloat

def number? (o : Object) (key : String) : Option Number := (o.lookup key).bind numberOf?

/-- The number under the first of the given names, joined by points, or else in the object that the
first name alone leads to, under the names that follow. -/
def numberAlong? (o : Object) : List String → Option Number
  | [] => none
  | name :: names =>
    match o.lookup (".".intercalate (name :: names)) with
    | some v => numberOf? v
    | none =>
      if names = [] then none
      else ((o.lookup name).bind Value.object?).bind fun inner => numberAlong? inner names

/-- The number under a path with points: flat, as one key, or nested, in the object under the part
before the first point. -/
def lookupNumber? (o : Object) (path : String) : Option Number :=
  numberAlong? o ((path.toList.splitOn '.').map String.ofList)

def fieldOrZero (o : Object) (entry key : String) : Number :=
  (((o.lookup entry).bind Value.object?).bind (number? · key)).getD 0

/-- What the collector read at one instant. -/
structure Sample where
  fields : Object
deriving BEq

namespace Sample

def utc? (s : Sample) : Option String :=
  ((s.fields.lookup "timestamp").bind (·.field? "UTC")).bind Value.string?

def section? (s : Sample) (name : String) : Option Object :=
  (s.fields.lookup name).bind Value.object?

def hasSection (s : Sample) (name : String) : Bool := (s.section? name).isSome

end Sample

end UsageReport.Capture
