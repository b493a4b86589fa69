import UsageReport.Decimal.Binary

/-! Numbers with a fixed count of decimal places. The exact binary value is rounded, and a tie goes
to the even neighbour. -/

namespace UsageReport.Decimal

/-- `num / den` rounded to an integer, a half to the even neighbour. -/
def roundEven (num den : Nat) : Nat :=
  let low := num / den
  match compare (2 * (num % den)) den with
  | .lt => low
  | .gt => low + 1
  | .eq => if low % 2 = 0 then low else low + 1

/-- The text of a finite magnitude with `places` digits behind the point, for `0 < places`. -/
def Binary.fixed (x : Binary) (places : Nat) : List Char :=
  let (num, den) := x.quotient (-places)
  let digits := Nat.toDigits 10 (roundEven num den)
  let padded := List.replicate (places + 1 - digits.length) '0' ++ digits
  let whole := padded.length - places
  padded.take whole ++ '.' :: padded.drop whole

/-- The text of a finite number with `places` digits behind the point. The sign stays where all
digits round to zero. -/
def fixed (places : Nat) (x : Float) : String :=
  let sign := if isNegative x then "-" else ""
  sign ++ String.ofList ((Binary.ofBits x.toBits).fixed places)

end UsageReport.Decimal
