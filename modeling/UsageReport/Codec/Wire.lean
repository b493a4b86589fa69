import UsageReport.Codec.Container
import UsageReport.Number.Basic

/-! Formats of values as bytes, one value behind the other: numbers with the low byte first, and
texts and lists behind their lengths. A format writes a value and reads one back from the front of
the bytes, so formats in a row need no separator. -/

namespace UsageReport.Codec

/-- How the values of a type stand in bytes. -/
structure Format (α : Type) where
  put : α → List UInt8
  /-- Reads a value from the front; also gives the bytes behind it. -/
  get? : List UInt8 → Option (α × List UInt8)
  /-- The bytes that one value takes in memory, which limit the length of a list. -/
  footprint : Nat

/-- The most memory that a list may ask for before its items are read. -/
def memoryLimit : Nat := 4 * 1024 * 1024

def split? : Nat → List UInt8 → Option (List UInt8 × List UInt8)
  | 0, bytes => some ([], bytes)
  | _ + 1, [] => none
  | count + 1, byte :: rest => (split? count rest).map fun (first, rest) => (byte :: first, rest)

def bytesValue : List UInt8 → Nat
  | [] => 0
  | byte :: rest => byte.toNat + 256 * bytesValue rest

def text? (bytes : List UInt8) : Option String := String.fromUTF8? ⟨bytes.toArray⟩

def textBytes (s : String) : List UInt8 := s.toUTF8.data.toList

namespace Format

variable {α β : Type}

def map (format : Format α) (read : α → β) (write : β → α) : Format β where
  put value := format.put (write value)
  get? bytes := (format.get? bytes).map fun (value, rest) => (read value, rest)
  footprint := format.footprint

def pair (first : Format α) (second : Format β) : Format (α × β) where
  put value := first.put value.1 ++ second.put value.2
  get? bytes := do
    let (a, bytes) ← first.get? bytes
    let (b, bytes) ← second.get? bytes
    return ((a, b), bytes)
  footprint := first.footprint + second.footprint

def number (count : Nat) : Format Nat where
  put := littleEndian count
  get? bytes := (split? count bytes).map fun (first, rest) => (bytesValue first, rest)
  footprint := count

def int64 : Format Int64 := (number 8).map (fun n => (UInt64.ofNat n).toInt64) (·.toUInt64.toNat)

def word32 : Format UInt32 := (number 4).map UInt32.ofNat UInt32.toNat

def real : Format Number := (number 8).map (fun n => ⟨UInt64.ofNat n⟩) (·.bits.toNat)

/-- The bytes of a list and of a text in memory, without their contents. -/
def containerFootprint : Nat := 24

/-- A text: the count of its bytes, and its bytes. -/
def text : Format String where
  put s := (number 8).put (textBytes s).length ++ textBytes s
  get? bytes := do
    let (count, bytes) ← (number 8).get? bytes
    if memoryLimit < count then none
    let (first, rest) ← split? count bytes
    (text? first).map (·, rest)
  footprint := containerFootprint

def many? (format : Format α) : Nat → List UInt8 → Option (List α × List UInt8)
  | 0, bytes => some ([], bytes)
  | count + 1, bytes => do
    let (value, bytes) ← format.get? bytes
    let (values, bytes) ← many? format count bytes
    return (value :: values, bytes)

/-- A list: the count of its items, and its items. -/
def list (format : Format α) : Format (List α) where
  put values := (number 8).put values.length ++ values.flatMap format.put
  get? bytes := do
    let (count, bytes) ← (number 8).get? bytes
    if memoryLimit < count * format.footprint then none
    format.many? count bytes
  footprint := containerFootprint

end Format

end UsageReport.Codec
