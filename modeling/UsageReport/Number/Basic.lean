/-! Numbers as binary64 data. A number is known by its bits, so that NaNs of different sign are told
apart. Arithmetic is that of binary64; it hands a NaN on, and makes a negative NaN where the result
is undefined. -/

namespace UsageReport

/-- A binary64 number. -/
@[ext] structure Number where
  bits : UInt64
deriving Inhabited

namespace Number

/-- The value of a number, in which all NaNs are one. -/
def value (a : Number) : Float := Float.ofBits a.bits

def ofFloat (x : Float) : Number := ⟨x.toBits⟩

instance (n : Nat) : OfNat Number n := ⟨ofFloat n.toFloat⟩

def isNaN (a : Number) : Bool := a.value.isNaN

/-- A NaN with the mark of one that causes no fault. -/
def quiet (a : Number) : Number := ⟨a.bits ||| 0x0008000000000000⟩

def undefined : Number := ⟨0xFFF8000000000000⟩

/-- An operation on values as one on numbers. The first NaN is handed on. -/
def lift (f : Float → Float → Float) (a b : Number) : Number :=
  if a.isNaN then a.quiet
  else if b.isNaN then b.quiet
  else
    let x := f a.value b.value
    if x.isNaN then undefined else ofFloat x

instance : Add Number := ⟨lift (· + ·)⟩

instance : Sub Number := ⟨lift (· - ·)⟩

instance : Mul Number := ⟨lift (· * ·)⟩

instance : Div Number := ⟨lift (· / ·)⟩

instance : Neg Number := ⟨fun a => ⟨a.bits ^^^ 0x8000000000000000⟩⟩

/-- Numbers are equal by value: zeros of either sign are equal, and a NaN equals no number. -/
instance : BEq Number := ⟨fun a b => a.value == b.value⟩

instance : LT Number := ⟨fun a b => a.value < b.value⟩

instance : LE Number := ⟨fun a b => a.value ≤ b.value⟩

instance (a b : Number) : Decidable (a < b) := inferInstanceAs (Decidable (a.value < b.value))

instance (a b : Number) : Decidable (a ≤ b) := inferInstanceAs (Decidable (a.value ≤ b.value))

end Number

end UsageReport
