/-! The two checksums of compressed streams: Adler-32 and the cyclic redundancy check of 32 bits. -/

namespace UsageReport.Codec

def adlerBase : Nat := 65521

/-- Adler-32: the sum of the bytes and the sum of those sums. -/
def adler32 (bytes : List UInt8) : Nat :=
  let (a, b) := bytes.foldl (fun (a, b) byte =>
    let a := (a + byte.toNat) % adlerBase
    (a, (b + a) % adlerBase)) (1, 0)
  b * 65536 + a

/-- One bit of the check: division by the reflected polynomial. -/
def crcBit (c : UInt32) : UInt32 :=
  if c &&& 1 = 1 then (c >>> 1) ^^^ 0xEDB88320 else c >>> 1

def crcByte (c : UInt32) (byte : UInt8) : UInt32 :=
  (List.range 8).foldl (fun c _ => crcBit c) (c ^^^ byte.toUInt32)

def crc32 (bytes : List UInt8) : UInt32 :=
  bytes.foldl crcByte 0xFFFFFFFF ^^^ 0xFFFFFFFF

end UsageReport.Codec
