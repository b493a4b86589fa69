import UsageReport.Decimal.Layout
import UsageReport.Json.Value

/-! Writing JSON values, on one line without blanks or over many lines with two blanks for each
level. Numbers that are not finite are written as `null`. -/

namespace UsageReport.Json

open UsageReport.Decimal (Layout)

/-- Reals have a point or a power of ten; powers of ten from `10 ^ -5` to `10 ^ 15` are written in
positions. -/
def numberLayout : Layout := ⟨fun power => -5 ≤ power ∧ power ≤ 15, true, .even⟩

def hexPair (n : Nat) : List Char := [Nat.digitChar (n / 16), Nat.digitChar (n % 16)]

/-- One character inside a text. Only the quote, the backslash and controls are escaped. -/
def escapedChar (c : Char) : List Char :=
  match c with
  | '"' => ['\\', '"']
  | '\\' => ['\\', '\\']
  | '\x08' => ['\\', 'b']
  | '\x0c' => ['\\', 'f']
  | '\n' => ['\\', 'n']
  | '\r' => ['\\', 'r']
  | '\t' => ['\\', 't']
  | _ => if c.toNat < 0x20 then ['\\', 'u', '0', '0'] ++ hexPair c.toNat else [c]

def quote (s : String) : String :=
  "\"" ++ String.ofList (s.toList.flatMap escapedChar) ++ "\""

def realText (x : Float) : String :=
  if x.isFinite then numberLayout.render x else "null"

namespace Value

mutual

/-- The value on one line without blanks. -/
def compact : Value → String
  | .null => "null"
  | .bool b => if b then "true" else "false"
  | .integer n => toString n
  | .real x => realText x
  | .string s => quote s
  | .array items => "[" ++ ",".intercalate (compactItems items) ++ "]"
  | .object fields => "\x7b" ++ ",".intercalate (compactFields fields) ++ "\x7d"

def compactItems : List Value → List String
  | [] => []
  | v :: rest => compact v :: compactItems rest

def compactFields : List (String × Value) → List String
  | [] => []
  | (key, v) :: rest => (quote key ++ ":" ++ compact v) :: compactFields rest

end

/-- A container over several lines: its parts one level deeper than its brackets. -/
def block (level : Nat) (first last : String) (parts : List String) : String :=
  let margin (n : Nat) := "\n" ++ String.ofList (List.replicate (2 * n) ' ')
  first ++ margin (level + 1) ++ ("," ++ margin (level + 1)).intercalate parts
    ++ margin level ++ last

mutual

/-- The value over several lines, at a level of nesting. -/
def prettyAt (level : Nat) : Value → String
  | .array [] => "[]"
  | .array items => block level "[" "]" (prettyItems (level + 1) items)
  | .object [] => "\x7b\x7d"
  | .object fields => block level "\x7b" "\x7d" (prettyFields (level + 1) fields)
  | v => compact v

def prettyItems (level : Nat) : List Value → List String
  | [] => []
  | v :: rest => prettyAt level v :: prettyItems level rest

def prettyFields (level : Nat) : List (String × Value) → List String
  | [] => []
  | (key, v) :: rest => (quote key ++ ": " ++ prettyAt level v) :: prettyFields level rest

end

def pretty (v : Value) : String := prettyAt 0 v

end Value

end UsageReport.Json
