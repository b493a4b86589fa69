import UsageReport.Number.Basic

/-! Reading decimal text as the nearest binary64 number. The grammar is an optional sign, then a
name of infinity or NaN in any case, or digits with an optional point and an optional exponent. -/

namespace UsageReport.Decimal

def digitsValue (digits : List Char) : Nat :=
  digits.foldl (fun n c => 10 * n + (c.toNat - '0'.toNat)) 0

def splitSign : List Char → Bool × List Char
  | '-' :: rest => (true, rest)
  | '+' :: rest => (false, rest)
  | rest => (false, rest)

/-- The value nearest to the digits times `10 ^ exponent`. Exponents far out of range are settled
before any power is formed. -/
def nearest (digits : List Char) (exponent : Int) : Float :=
  let value := digitsValue digits
  if value = 0 ∨ digits.length + exponent < -400 then 0
  else if 400 < exponent then 1 / 0
  else Float.ofScientific value (exponent < 0) exponent.natAbs

/-- The infinities and NaN by name. -/
def special? (body : List Char) : Option Float :=
  match String.ofList (body.map Char.toLower) with
  | "inf" | "infinity" => some (1 / 0)
  | "nan" => some (0 / 0)
  | _ => none

/-- An exponent, sign and digits, that fills the rest of the text; no exponent is zero. -/
def exponent? : List Char → Option Int
  | [] => some 0
  | mark :: rest =>
    let (negative, digits) := splitSign rest
    if (mark = 'e' ∨ mark = 'E') ∧ digits ≠ [] ∧ digits.all Char.isDigit then
      some (if negative then -digitsValue digits else digitsValue digits)
    else none

/-- Digits with an optional point and exponent; at least one digit stands around the point. -/
def unsigned? (body : List Char) : Option Float :=
  let whole := body.takeWhile Char.isDigit
  let rest := body.dropWhile Char.isDigit
  let (fraction, tail) :=
    match rest with
    | '.' :: more => (more.takeWhile Char.isDigit, more.dropWhile Char.isDigit)
    | _ => ([], rest)
  if whole = [] ∧ fraction = [] then none
  else (exponent? tail).map fun e => nearest (whole ++ fraction) (e - fraction.length)

def numeral? (text : List Char) : Option Number :=
  let (negative, body) := splitSign text
  ((special? body).or (unsigned? body)).map fun x =>
    if negative then -Number.ofFloat x else .ofFloat x

/-- An unsigned integer of at most `limit`, with an optional plus sign. -/
def natural? (limit : Nat) (text : List Char) : Option Nat :=
  let digits := match text with
    | '+' :: rest => rest
    | _ => text
  if digits ≠ [] ∧ digits.all Char.isDigit ∧ digitsValue digits ≤ limit then
    some (digitsValue digits)
  else none

end UsageReport.Decimal
