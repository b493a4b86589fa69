import UsageReport.Json.Fields

/-! The values of JSON documents. Whole numbers and reals are kept apart, and an object keeps its
fields in document order. -/

namespace UsageReport.Json

inductive Value where
  | null
  | bool (b : Bool)
  | integer (n : Int)
  | real (x : Float)
  | string (s : String)
  | array (items : List Value)
  | object (fields : List (String × Value))
deriving BEq, Inhabited

abbrev Object := Fields Value

namespace Value

def object? : Value → Option Object
  | .object fields => some fields
  | _ => none

def array? : Value → Option (List Value)
  | .array items => some items
  | _ => none

def string? : Value → Option String
  | .string s => some s
  | _ => none

def float? : Value → Option Float
  | .integer n => some (Float.ofInt n)
  | .real x => some x
  | _ => none

def field? (v : Value) (key : String) : Option Value :=
  v.object?.bind (·.lookup key)

end Value

end UsageReport.Json
