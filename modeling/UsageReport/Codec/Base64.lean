/-! Bytes as text over 64 symbols, four symbols for three bytes, with `=` to complete the last four.
Only the text that encoding produces is accepted. -/

namespace UsageReport.Codec.Base64

/-- The symbol of a number below 64. -/
def symbol (n : Nat) : UInt8 :=
  if n < 26 then UInt8.ofNat (n + 65)
  else if n < 52 then UInt8.ofNat (n - 26 + 97)
  else if n < 62 then UInt8.ofNat (n - 52 + 48)
  else if n = 62 then 43
  else 47

/-- The number of a symbol. -/
def value? (b : UInt8) : Option Nat :=
  let n := b.toNat
  if 65 ≤ n ∧ n ≤ 90 then some (n - 65)
  else if 97 ≤ n ∧ n ≤ 122 then some (n - 97 + 26)
  else if 48 ≤ n ∧ n ≤ 57 then some (n - 48 + 52)
  else if n = 43 then some 62
  else if n = 47 then some 63
  else none

def padding : UInt8 := 61

def encode : List UInt8 → List UInt8
  | a :: b :: c :: rest =>
    let n := (a.toNat * 256 + b.toNat) * 256 + c.toNat
    symbol (n / 262144) :: symbol (n / 4096 % 64) :: symbol (n / 64 % 64) :: symbol (n % 64)
      :: encode rest
  | [a, b] =>
    let n := (a.toNat * 256 + b.toNat) * 4
    [symbol (n / 4096), symbol (n / 64 % 64), symbol (n % 64), padding]
  | [a] =>
    let n := a.toNat * 16
    [symbol (n / 64), symbol (n % 64), padding, padding]
  | [] => []

/-- Why a text is not the encoding of any bytes. -/
inductive Fault where
  /-- A byte at an offset where it may not stand. -/
  | symbol (byte : UInt8) (offset : Nat)
  /-- A single symbol after complete fours. -/
  | length (symbols : Nat)
  /-- The last four are not completed. -/
  | padding
  /-- The last symbol has bits that no byte uses. -/
  | lastSymbol (byte : UInt8) (offset : Nat)
deriving DecidableEq, Repr

def Fault.message : Fault → String
  | .symbol byte offset =>
    "Invalid symbol " ++ toString byte.toNat ++ ", offset " ++ toString offset ++ "."
  | .length symbols => "Invalid input length: " ++ toString symbols
  | .padding => "Invalid padding"
  | .lastSymbol byte offset =>
    "Invalid last symbol " ++ toString byte.toNat ++ ", offset " ++ toString offset ++ "."

/-- The numbers of symbols that start at `offset`. -/
def values (offset : Nat) : List UInt8 → Except Fault (List Nat)
  | [] => .ok []
  | b :: rest =>
    match value? b with
    | none => .error (.symbol b offset)
    | some n => (values (offset + 1) rest).map (n :: ·)

def triple (w x y z : Nat) : List UInt8 :=
  let n := ((w * 64 + x) * 64 + y) * 64 + z
  [UInt8.ofNat (n / 65536), UInt8.ofNat (n / 256 % 256), UInt8.ofNat (n % 256)]

def triples : List Nat → List UInt8
  | w :: x :: y :: z :: rest => triple w x y z ++ triples rest
  | _ => []

/-- The bytes of the last two, three or four numbers, none where bits are left over. -/
def lastBytes? : List Nat → Option (List UInt8)
  | [w, x] => if x % 16 = 0 then some [UInt8.ofNat (w * 4 + x / 16)] else none
  | [w, x, y] =>
    if y % 4 = 0 then some [UInt8.ofNat (w * 4 + x / 16), UInt8.ofNat (x % 16 * 16 + y / 4)]
    else none
  | [w, x, y, z] => some (triple w x y z)
  | _ => some []

/-- The bytes of the last symbols, of which `offset` others come before. -/
def decodeLast (offset : Nat) (text : List UInt8) : Except Fault (List UInt8) := do
  let symbols := text.takeWhile (· ≠ padding)
  let rest := text.dropWhile (· ≠ padding)
  let numbers ← values offset symbols
  let count := symbols.length
  if rest ≠ [] ∧ (count < 2 ∨ rest.any (· ≠ padding)) then
    throw (.symbol padding (offset + count))
  if text ≠ [] ∧ count < 2 then throw (.length (offset + count))
  if text.length % 4 ≠ 0 then throw .padding
  match lastBytes? numbers with
  | some bytes => return bytes
  | none => throw (.lastSymbol (symbols.getLast?.getD 0) (offset + count - 1))

/-- The bytes that a text encodes. A lone last byte that is no symbol is reported before all
others. -/
def decode (text : List UInt8) : Except Fault (List UInt8) := do
  let extra := text.length % 4
  let last := text.getLast?.getD padding
  if extra = 1 ∧ last ≠ padding ∧ value? last = none then
    throw (.symbol last (text.length - 1))
  let whole := text.length - if extra = 0 then 4 else extra
  let numbers ← values 0 (text.take whole)
  let tail ← decodeLast whole (text.drop whole)
  return triples numbers ++ tail

end UsageReport.Codec.Base64
