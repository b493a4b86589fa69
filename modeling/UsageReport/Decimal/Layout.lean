import UsageReport.Decimal.Shortest

/-! How the shortest digits of a number are laid out as text: in positions around a point, or as
one digit, a fraction and a power of ten. A `Layout` holds the choices of one output format. -/

namespace UsageReport.Decimal

/-- The choices of one number format. -/
structure Layout where
  /-- The powers of ten of the leading digit that are written in positions. -/
  positional : Int → Bool
  /-- Whether an integral value is followed by `.0`. -/
  pointZero : Bool
  tie : Tie

def Layout.plain : Layout := ⟨fun _ => true, false, .up⟩

/-- Digits around a point; `power` is the power of ten of the leading digit. -/
def Layout.inPositions (l : Layout) (digits : List Char) (power : Int) : List Char :=
  let whole := (power + 1).toNat
  if power < 0 then '0' :: '.' :: (List.replicate (-power - 1).toNat '0' ++ digits)
  else if digits.length ≤ whole then
    digits ++ List.replicate (whole - digits.length) '0' ++ if l.pointZero then ['.', '0'] else []
  else digits.take whole ++ '.' :: digits.drop whole

/-- One digit, the others behind a point, and a signed power of ten. -/
def withPower (digits : List Char) (power : Int) : List Char :=
  let fraction := digits.drop 1
  let sign := if power < 0 then '-' else '+'
  digits.take 1 ++ (if fraction.isEmpty then [] else '.' :: fraction)
    ++ 'e' :: sign :: Nat.toDigits 10 power.natAbs

def Layout.text (l : Layout) (d : Scaled) : List Char :=
  let digits := Nat.toDigits 10 d.digits
  let power := d.exponent + digits.length - 1
  if l.positional power then l.inPositions digits power else withPower digits power

def Layout.magnitude (l : Layout) (x : Binary) : List Char :=
  if x.mantissa = 0 then l.text ⟨0, 0⟩ else l.text (x.shortest l.tie)

/-- The text of a number: a sign where the sign bit is set, then the magnitude. -/
def Layout.render (l : Layout) (x : Float) : String :=
  if x.isNaN then "NaN"
  else
    let sign := if isNegative x then "-" else ""
    sign ++ if x.isInf then "inf" else String.ofList (l.magnitude (.ofBits x.toBits))

end UsageReport.Decimal
