import UsageReport.Decimal.Numeral
import UsageReport.Json.Value

/-! The numbers of JSON text. A whole number that fits 64 bits stays whole. Any other number
becomes a real by one multiplication or division of a 64-bit significand with a power of ten, so
long numerals are not read to the nearest value. -/

namespace UsageReport.Json

open UsageReport.Decimal (digitsValue splitSign)

def significandLimit : Nat := UInt64.size - 1

/-- Appends digits to a significand while the result fits; also gives the digits left over. -/
def absorb (significand : Nat) : List Char → Nat × List Char
  | [] => (significand, [])
  | c :: rest =>
    let next := 10 * significand + digitsValue [c]
    if next ≤ significandLimit then absorb next rest else (significand, c :: rest)

/-- The largest power of ten that one factor may have. -/
def powerLimit : Int := 308

def powerOfTen (n : Nat) : Float := Float.ofScientific 1 false n

/-- `x * 10 ^ exponent`, in steps of at most `10 ^ 308`; none where the result is infinite. -/
def scaled? (x : Float) (exponent : Int) : Option Float :=
  if 0 ≤ exponent ∧ exponent ≤ powerLimit then
    let y := x * powerOfTen exponent.toNat
    if y.isInf then none else some y
  else if exponent < 0 ∧ -powerLimit ≤ exponent then some (x / powerOfTen (-exponent).toNat)
  else if x == 0 then some x
  else if 0 ≤ exponent then none
  else scaled? (x / powerOfTen powerLimit.toNat) (exponent + powerLimit)
termination_by (-exponent).toNat
decreasing_by simp only [powerLimit] at *; omega

/-- An exponent of at most 31 bits. -/
inductive Exponent where
  | of (n : Int)
  | tooLarge (negative : Bool)

/-- Reads the exponent after a mantissa; it fills the rest of the numeral. -/
def Exponent.read? : List Char → Option Exponent
  | [] => some (.of 0)
  | mark :: rest =>
    let (negative, digits) := splitSign rest
    if (mark = 'e' ∨ mark = 'E') ∧ digits ≠ [] ∧ digits.all Char.isDigit then
      let n := digitsValue digits
      if n < UInt32.size / 2 then some (.of (if negative then -n else n)) else some (.tooLarge negative)
    else none

/-- The real of the whole digits, the fraction's digits and the exponent. -/
def real? (whole fraction : List Char) (exponent : Exponent) : Option Float :=
  let (high, dropped) := absorb 0 whole
  let (significand, ignored) := absorb high fraction
  match exponent with
  | .of n => scaled? significand.toFloat (n + dropped.length - (fraction.length - ignored.length))
  | .tooLarge negative => if significand ≠ 0 ∧ ¬ negative then none else some 0

/-- A whole number, as an integer where it fits 64 bits. Minus zero is a real. -/
def whole? (negative : Bool) (digits : List Char) : Option Value :=
  let n := digitsValue digits
  if negative then
    if 0 < n ∧ n ≤ UInt64.size / 2 then some (.integer (-n))
    else (real? digits [] (.of 0)).map fun x => .real (-x)
  else if n ≤ significandLimit then some (.integer n)
  else (real? digits [] (.of 0)).map .real

/-- Reads a numeral: a minus sign, digits without a leading zero, a fraction, an exponent. -/
def number? (text : List Char) : Option Value :=
  let (negative, body) := match text with
    | '-' :: rest => (true, rest)
    | _ => (false, text)
  let whole := body.takeWhile Char.isDigit
  let rest := body.dropWhile Char.isDigit
  if whole = [] ∨ (whole.head? = some '0' ∧ 1 < whole.length) then none
  else
    let signed (x : Float) : Value := .real (if negative then -x else x)
    match rest with
    | [] => whole? negative whole
    | '.' :: more =>
      let fraction := more.takeWhile Char.isDigit
      if fraction = [] then none
      else (Exponent.read? (more.dropWhile Char.isDigit)).bind fun e =>
        (real? whole fraction e).map signed
    | _ => (Exponent.read? rest).bind fun e => (real? whole [] e).map signed

end UsageReport.Json
