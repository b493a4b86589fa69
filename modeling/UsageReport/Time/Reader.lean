import UsageReport.Decimal.Numeral
import UsageReport.Text.Blank
import UsageReport.Text.Quoted
import UsageReport.Time.Instant

/-! Reading timestamps of the form `2022-01-18T00:02:47.897`. Fields are read from left to right,
blanks before a number are skipped, and the first fault is reported. -/

namespace UsageReport.Time

open UsageReport.Text (trimStart trim quoted)

/-- Why a text is no timestamp. -/
inductive Fault where
  | tooShort
  | invalidCharacter
  | outOfRange
  | trailing
deriving DecidableEq, Repr

def Fault.message : Fault → String
  | .tooShort => "premature end of input"
  | .invalidCharacter => "input contains invalid characters"
  | .outOfRange => "input is out of range"
  | .trailing => "trailing input"

/-- A text that is no timestamp. -/
structure Unreadable where
  value : String
  fault : Fault
deriving DecidableEq, Repr

def Unreadable.message (u : Unreadable) : String :=
  "cannot parse timestamp " ++ quoted u.value ++ ": " ++ u.fault.message

/-- A number of one or more digits, at most `width`, below `2 ^ 63`, and the text behind it. -/
def digits (width : Option Nat) (s : List Char) : Except Fault (Nat × List Char) :=
  let window := match width with
    | some n => s.take n
    | none => s
  let found := window.takeWhile Char.isDigit
  if s = [] then .error .tooShort
  else if found = [] then .error .invalidCharacter
  else
    let n := Decimal.digitsValue found
    if n < UInt64.size / 2 then .ok (n, s.drop found.length) else .error .outOfRange

/-- A field of one or two digits within a range, blanks before it. -/
def field (low high : Nat) (s : List Char) : Except Fault (Nat × List Char) := do
  let (n, rest) ← digits (some 2) (trimStart s)
  if low ≤ n ∧ n ≤ high then return (n, rest) else throw .outOfRange

/-- The year, of up to four digits, or of any number of them behind a sign. -/
def year (s : List Char) : Except Fault (Int × List Char) := do
  let (y, rest) ← match trimStart s with
    | '-' :: more => (digits none more).map fun (n, rest) => (-(n : Int), rest)
    | '+' :: more => (digits none more).map fun (n, rest) => ((n : Int), rest)
    | s => (digits (some 4) s).map fun (n, rest) => ((n : Int), rest)
  if Int32.minValue.toInt ≤ y ∧ y ≤ Int32.maxValue.toInt then return (y, rest) else throw .outOfRange

def mark (c : Char) : List Char → Except Fault (List Char)
  | [] => .error .tooShort
  | d :: rest => if d = c then .ok rest else .error .invalidCharacter

/-- The nanoseconds of an optional fraction. Digits after the ninth are skipped. -/
def fraction : List Char → Except Fault (Nat × List Char)
  | '.' :: more => do
    let (n, rest) ← digits (some 9) more
    return (n * Nat.pow 10 (9 - (more.length - rest.length)), rest.dropWhile Char.isDigit)
  | s => .ok (0, s)

/-- The instant of a date and a time of day, where both exist. Second 60 is the leap second. -/
def instantOf (date : Date) (hour minute second nanos : Nat) : Except Fault Instant :=
  let leap := second = 60
  let clock := 3600 * hour + 60 * minute + if leap then 59 else second
  if date.Valid then
    match Instant.ofParts? date.dayNumber clock (if leap then nanos + 1000000000 else nanos) with
    | some t => .ok t
    | none => .error .outOfRange
  else .error .outOfRange

def read (s : List Char) : Except Fault Instant := do
  let (year, s) ← year s
  let s ← mark '-' s
  let (month, s) ← field 1 12 s
  let s ← mark '-' s
  let (day, s) ← field 1 31 s
  let s ← mark 'T' s
  let (hour, s) ← field 0 23 s
  let s ← mark ':' s
  let (minute, s) ← field 0 59 s
  let s ← mark ':' s
  let (second, s) ← field 0 60 s
  let (nanos, s) ← fraction s
  if s ≠ [] then throw .trailing
  instantOf ⟨year, month, day⟩ hour minute second nanos

def Instant.parse (value : String) : Except Unreadable Instant :=
  (read value.toList).mapError (⟨value, ·⟩)

/-- Reads a timestamp between blanks. -/
def Instant.parseBound (value : String) : Except Unreadable Instant :=
  Instant.parse (String.ofList (trim value.toList))

end UsageReport.Time
