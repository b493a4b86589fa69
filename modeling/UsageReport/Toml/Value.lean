import UsageReport.Json.Fields

/-! The values of TOML documents. -/

namespace UsageReport.Toml

inductive Value where
  | string (s : String)
  | integer (n : Int)
  /-- A number with a fraction or an exponent, none where it is too large for binary64. -/
  | float (x : Option Float)
  | bool (b : Bool)
  /-- A date, a time, or both. -/
  | dateTime
  | array (items : List Value)
  | table (fields : List (String × Value))

namespace Value

/-- An integer fits 128 bits, with a sign or without. -/
def fits128 (n : Int) : Bool := -(1 <<< 127 : Nat) ≤ n ∧ n < (1 <<< 128 : Nat)

mutual

/-- All numbers in the value are within the limits. -/
def isSound : Value → Bool
  | .integer n => fits128 n
  | .float x => x.isSome
  | .array items => areSound items
  | .table fields => haveSound fields
  | _ => true

def areSound : List Value → Bool
  | [] => true
  | v :: rest => v.isSound && areSound rest

def haveSound : List (String × Value) → Bool
  | [] => true
  | (_, v) :: rest => v.isSound && haveSound rest

end

/-- The number, where the value is a whole number from zero that fits 64 bits. -/
def natural? : Value → Option Nat
  | .integer n => if 0 ≤ n ∧ n < UInt64.size then some n.toNat else none
  | _ => none

/-- The number as a binary64 value. A whole number has to fit 64 bits. -/
def float? : Value → Option Float
  | .integer n => if Int64.minValue.toInt ≤ n ∧ n < UInt64.size then some (Float.ofInt n) else none
  | .float x => x
  | _ => none

end Value

end UsageReport.Toml
