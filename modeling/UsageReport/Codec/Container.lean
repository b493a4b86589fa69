import UsageReport.Codec.Checksum
import UsageReport.Codec.Deflate

/-! The two containers of compressed data. One has a header of two bytes and ends with Adler-32; the
other, that of `.gz` files, has a longer header and ends with a cyclic redundancy check and the
length. Bytes behind the container are ignored. -/

namespace UsageReport.Codec

open Deflate (inflate? deflate)

def bigEndian (count n : Nat) : List UInt8 :=
  (List.range count).map fun i => UInt8.ofNat (n >>> (8 * (count - 1 - i)))

def littleEndian (count n : Nat) : List UInt8 :=
  (List.range count).map fun i => UInt8.ofNat (n >>> (8 * i))

namespace Zlib

/-- The header of two bytes: the method, a window of at most 32 KiB, a check digit, and no
dictionary. -/
def header? : List UInt8 → Option (List UInt8)
  | method :: flags :: rest =>
    let (m, f) := (method.toNat, flags.toNat)
    if m % 16 = 8 ∧ m / 16 ≤ 7 ∧ (m * 256 + f) % 31 = 0 ∧ f / 32 % 2 = 0 then some rest else none
  | _ => none

def decompress? (bytes : List UInt8) : Option (List UInt8) := do
  let body ← header? bytes
  let (data, rest) ← inflate? body
  if rest.take 4 = bigEndian 4 (adler32 data) then some data else none

def compress (data : List UInt8) : List UInt8 :=
  [0x78, 0x01] ++ deflate data ++ bigEndian 4 (adler32 data)

end Zlib

namespace Gzip

def skipText? (bytes : List UInt8) : Option (List UInt8) :=
  match bytes.dropWhile (· ≠ 0) with
  | _ :: rest => some rest
  | [] => none

def skipField? (bytes : List UInt8) : Option (List UInt8) := do
  let (count, rest) ← Deflate.pair? bytes
  if count ≤ rest.length then some (rest.drop count) else none

/-- The bytes behind a check of the header itself, the low half of the check of all bytes before. -/
def skipCheck? (whole bytes : List UInt8) : Option (List UInt8) :=
  let check := (crc32 (whole.take (whole.length - bytes.length))).toNat % 65536
  if bytes.take 2 = littleEndian 2 check then some (bytes.drop 2) else none

/-- The bytes behind the header. Its flags name the optional parts. -/
def header? (bytes : List UInt8) : Option (List UInt8) :=
  match bytes with
  | 0x1f :: 0x8b :: 8 :: flags :: _ :: _ :: _ :: _ :: _ :: _ :: rest => do
    let has (n : Nat) := flags.toNat.testBit n
    if 32 ≤ flags.toNat then none
    let rest ← if has 2 then skipField? rest else some rest
    let rest ← if has 3 then skipText? rest else some rest
    let rest ← if has 4 then skipText? rest else some rest
    if has 1 then skipCheck? bytes rest else some rest
  | _ => none

def decompress? (bytes : List UInt8) : Option (List UInt8) := do
  let body ← header? bytes
  let (data, rest) ← inflate? body
  let trailer := littleEndian 4 (crc32 data).toNat ++ littleEndian 4 data.length
  if rest.take 8 = trailer then some data else none

end Gzip

end UsageReport.Codec
