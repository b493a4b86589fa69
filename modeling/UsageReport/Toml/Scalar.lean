import UsageReport.Decimal.Numeral
import UsageReport.Time.Calendar
import UsageReport.Toml.Value

/-! The values of TOML documents that are single words: numbers, truth values, dates and times. -/

namespace UsageReport.Toml

open UsageReport.Decimal (digitsValue splitSign numeral?)
open UsageReport.Time (monthLength)

/-- Digits with single underscores between them, without the underscores. -/
def ungrouped? (isDigit : Char → Bool) : List Char → Option (List Char)
  | [] => none
  | [c] => if isDigit c then some [c] else none
  | c :: '_' :: rest => if isDigit c then (ungrouped? isDigit rest).map (c :: ·) else none
  | c :: rest => if isDigit c then (ungrouped? isDigit rest).map (c :: ·) else none

def wholeDigits? (word : List Char) : Option (List Char) :=
  match ungrouped? Char.isDigit word with
  | some ('0' :: _ :: _) => none
  | digits => digits

/-- The value of a hexadecimal digit; those of other bases are among them. -/
def digitValue (c : Char) : Nat :=
  if c.isDigit then c.toNat - '0'.toNat else c.toLower.toNat - 'a'.toNat + 10

def isDigitOf (base : Nat) (c : Char) : Bool :=
  (c.isDigit || ('a' ≤ c.toLower && c.toLower ≤ 'f')) && digitValue c < base

def inBase? (base : Nat) (word : List Char) : Option Int :=
  (ungrouped? (isDigitOf base) word).map fun digits =>
    digits.foldl (fun n c => base * n + digitValue c) (0 : Nat)

def integer? (word : List Char) : Option Int :=
  match word with
  | '0' :: 'x' :: digits => inBase? 16 digits
  | '0' :: 'o' :: digits => inBase? 8 digits
  | '0' :: 'b' :: digits => inBase? 2 digits
  | _ =>
    let (negative, body) := splitSign word
    (wholeDigits? body).map fun digits =>
      if negative then -(digitsValue digits : Int) else digitsValue digits

def fraction? : List Char → Option (List Char)
  | [] => some []
  | '.' :: digits => (ungrouped? Char.isDigit digits).map ('.' :: ·)
  | _ => none

/-- An exponent, which may be missing. -/
def exponent? : List Char → Option (List Char)
  | [] => some []
  | _ :: rest =>
    let (negative, digits) := splitSign rest
    (ungrouped? Char.isDigit digits).map fun digits =>
      'e' :: (if negative then ['-'] else []) ++ digits

/-- A number with a fraction or an exponent, or the name of one. -/
def float? (word : List Char) : Option (Option Float) :=
  let (negative, body) := splitSign word
  let signed (x : Float) := if negative then -x else x
  if body = ['i', 'n', 'f'] then some (some (signed (1 / 0)))
  else if body = ['n', 'a', 'n'] then some (some (signed (0 / 0)))
  else do
    let isMark (c : Char) := c = 'e' || c = 'E'
    let mantissa := body.takeWhile (! isMark ·)
    let whole ← wholeDigits? (mantissa.takeWhile (· ≠ '.'))
    let fraction ← fraction? (mantissa.dropWhile (· ≠ '.'))
    let exponent ← exponent? (body.dropWhile (! isMark ·))
    let x ← numeral? (whole ++ fraction ++ exponent)
    return if x.value.isInf then none else some (signed x.value)

/-- A number of two digits within a range, and the text behind it. -/
def two? (low high : Nat) : List Char → Option (Nat × List Char)
  | a :: b :: rest =>
    let n := digitsValue [a, b]
    if a.isDigit ∧ b.isDigit ∧ low ≤ n ∧ n ≤ high then some (n, rest) else none
  | _ => none

def after? (mark : Char) : List Char → Option (List Char)
  | c :: rest => if c = mark then some rest else none
  | [] => none

/-- The text behind a date. -/
def afterDate? (word : List Char) : Option (List Char) := do
  let (century, rest) ← two? 0 99 word
  let (yearOfCentury, rest) ← two? 0 99 rest
  let (month, rest) ← two? 1 12 (← after? '-' rest)
  let (_, rest) ← two? 1 (monthLength (100 * century + yearOfCentury) month) (← after? '-' rest)
  return rest

/-- The text behind a time of day. Its seconds may be missing, and so may their fraction. -/
def afterTime? (word : List Char) : Option (List Char) := do
  let (_, rest) ← two? 0 23 word
  let (_, rest) ← two? 0 59 (← after? ':' rest)
  match rest with
  | ':' :: seconds =>
    let (_, rest) ← two? 0 60 seconds
    match rest with
    | '.' :: digits =>
      if (digits.head?.any Char.isDigit) then some (digits.dropWhile Char.isDigit) else none
    | _ => some rest
  | _ => some rest

/-- The difference from universal time, which may be missing. -/
def isOffset : List Char → Bool
  | [] => true
  | ['Z'] => true
  | ['z'] => true
  | sign :: rest =>
    (sign == '+' || sign == '-') &&
      ((two? 0 23 rest).bind fun (_, rest) => (after? ':' rest).bind (two? 0 59)).any
        fun (_, rest) => rest.isEmpty

/-- The word is a date, a time, or both. -/
def isDateTime (word : List Char) : Bool :=
  afterTime? word == some [] ||
    match afterDate? word with
    | none => false
    | some [] => true
    | some (mark :: time) => mark ∈ ['T', 't', ' '] && (afterTime? time).any isOffset

/-- The value of a word. -/
def scalar? (word : List Char) : Option Value :=
  if word = "true".toList then some (.bool true)
  else if word = "false".toList then some (.bool false)
  else
    match integer? word with
    | some n => some (.integer n)
    | none =>
      match float? word with
      | some x => some (.float x)
      | none => if isDateTime word then some .dateTime else none

end UsageReport.Toml
