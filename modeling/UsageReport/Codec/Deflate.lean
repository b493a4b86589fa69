import UsageReport.Codec.Huffman

/-! Compressed data as blocks: stored bytes, or symbols that stand for bytes and for copies of
earlier output. Every form of block is read; stored blocks are written. -/

namespace UsageReport.Codec.Deflate

/-- The code lengths of literals and copy lengths in a block with fixed codes. -/
def fixedLengths : List Nat :=
  List.replicate 144 8 ++ List.replicate 112 9 ++ List.replicate 24 7 ++ List.replicate 8 8

def fixedDistances : List Nat := List.replicate 32 5

/-- The least copy length of each length symbol and the extra bits behind it. -/
def copyLengths : List (Nat × Nat) :=
  [(3, 0), (4, 0), (5, 0), (6, 0), (7, 0), (8, 0), (9, 0), (10, 0), (11, 1), (13, 1), (15, 1),
    (17, 1), (19, 2), (23, 2), (27, 2), (31, 2), (35, 3), (43, 3), (51, 3), (59, 3), (67, 4),
    (83, 4), (99, 4), (115, 4), (131, 5), (163, 5), (195, 5), (227, 5), (258, 0)]

/-- The least distance of each distance symbol and the extra bits behind it. -/
def copyDistances : List (Nat × Nat) :=
  [(1, 0), (2, 0), (3, 0), (4, 0), (5, 1), (7, 1), (9, 2), (13, 2), (17, 3), (25, 3), (33, 4),
    (49, 4), (65, 5), (97, 5), (129, 6), (193, 6), (257, 7), (385, 7), (513, 8), (769, 8),
    (1025, 9), (1537, 9), (2049, 10), (3073, 10), (4097, 11), (6145, 11), (8193, 12), (12289, 12),
    (16385, 13), (24577, 13)]

/-- The order in which the code lengths of code lengths are sent. -/
def lengthOrder : List Nat := [16, 17, 18, 0, 8, 7, 9, 6, 10, 5, 11, 4, 12, 3, 13, 2, 14, 1, 15]

def extended? (table : List (Nat × Nat)) (symbol : Nat) (s : Bits) : Option (Nat × Bits) := do
  let (least, extra) ← table[symbol]?
  let (more, s) ← s.number? extra
  return (least + more, s)

/-- Appends `count` bytes, each the one that lies `distance` before the end. -/
def copy? (out : Array UInt8) (distance : Nat) : Nat → Option (Array UInt8)
  | 0 => some out
  | count + 1 =>
    if distance ≤ out.size then do
      let byte ← out[out.size - distance]?
      copy? (out.push byte) distance count
    else none

/-- Reads the symbols of a block up to its end. The fuel bounds the number of symbols. -/
def symbols? (literals distances : Huffman) :
    Nat → Array UInt8 → Bits → Option (Array UInt8 × Bits)
  | 0, _, _ => none
  | fuel + 1, out, s => do
    let (symbol, s) ← literals.read? s
    if symbol < 256 then symbols? literals distances fuel (out.push (UInt8.ofNat symbol)) s
    else if symbol = 256 then some (out, s)
    else
      let (count, s) ← extended? copyLengths (symbol - 257) s
      let (symbol, s) ← distances.read? s
      let (distance, s) ← extended? copyDistances symbol s
      let out ← copy? out distance count
      symbols? literals distances fuel out s

/-- Reads `wanted` code lengths, where symbols from 16 on repeat. The fuel bounds the number of
symbols. -/
def codeLengths? (code : Huffman) (wanted : Nat) : Nat → List Nat → Bits → Option (List Nat × Bits)
  | 0, _, _ => none
  | fuel + 1, done, s =>
    if wanted ≤ done.length then
      if done.length = wanted then some (done, s) else none
    else do
      let (symbol, s) ← code.read? s
      let (more, s) ←
        if symbol < 16 then some ([symbol], s)
        else if symbol = 16 then do
          let last ← done.getLast?
          let (n, s) ← s.number? 2
          some (List.replicate (n + 3) last, s)
        else if symbol = 17 then
          (s.number? 3).map fun (n, s) => (List.replicate (n + 3) 0, s)
        else (s.number? 7).map fun (n, s) => (List.replicate (n + 11) 0, s)
      codeLengths? code wanted fuel (done ++ more) s

/-- Reads `count` numbers of three bits. -/
def threes? : Nat → Bits → Option (List Nat × Bits)
  | 0, s => some ([], s)
  | count + 1, s => do
    let (n, s) ← s.number? 3
    let (rest, s) ← threes? count s
    return (n :: rest, s)

/-- Reads the two codes that stand before a block's symbols. -/
def codes? (s : Bits) : Option (Huffman × Huffman × Bits) := do
  let (literals, s) ← s.number? 5
  let (distances, s) ← s.number? 5
  let (count, s) ← s.number? 4
  if 29 < literals ∨ 29 < distances then none
  let (sent, s) ← threes? (count + 4) s
  let lengths := (lengthOrder.zip sent).foldl (fun all (symbol, n) => all.set symbol n)
    (List.replicate 19 0)
  let code ← Huffman.canonical? lengths
  if lengths.countP (0 < ·) < 2 then none
  let wanted := literals + 257 + (distances + 1)
  let (all, s) ← codeLengths? code wanted (wanted + 1) [] s
  let first ← Huffman.canonical? (all.take (literals + 257))
  let second ← Huffman.canonical? (all.drop (literals + 257))
  return (first, second, s)

def pair? : List UInt8 → Option (Nat × List UInt8)
  | low :: high :: rest => some (high.toNat * 256 + low.toNat, rest)
  | _ => none

/-- Reads a stored block: its length, the complement of that, and the bytes. -/
def stored? (out : Array UInt8) (s : Bits) : Option (Array UInt8 × Bits) := do
  let (count, rest) ← pair? s.aligned
  let (complement, rest) ← pair? rest
  if count + complement = 65535 ∧ count ≤ rest.length then
    some (out ++ rest.take count, ⟨rest.drop count, 0⟩)
  else none

/-- Reads the body of a block of the given kind. -/
def body? (fuel kind : Nat) (out : Array UInt8) (s : Bits) : Option (Array UInt8 × Bits) :=
  match kind with
  | 0 => stored? out s
  | 1 => do
    let literals ← Huffman.canonical? fixedLengths
    let distances ← Huffman.canonical? fixedDistances
    symbols? literals distances fuel out s
  | 2 => do
    let (literals, distances, s) ← codes? s
    symbols? literals distances fuel out s
  | _ => none

/-- Reads blocks up to the final one. The fuel bounds the number of blocks, and of symbols in each;
both take at least one bit. -/
def blocks? : Nat → Array UInt8 → Bits → Option (Array UInt8 × Bits)
  | 0, _, _ => none
  | fuel + 1, out, s => do
    let (final, s) ← s.next?
    let (kind, s) ← s.number? 2
    let (out, s) ← body? (fuel + 1) kind out s
    if final then some (out, s) else blocks? fuel out s

def inflate? (bytes : List UInt8) : Option (List UInt8 × List UInt8) := do
  let (out, s) ← blocks? (8 * bytes.length + 1) #[] ⟨bytes, 0⟩
  return (out.toList, s.aligned)

def storedLimit : Nat := 65535

def storedHeader (count : Nat) : List UInt8 :=
  [UInt8.ofNat (count % 256), UInt8.ofNat (count / 256),
    UInt8.ofNat (255 - count % 256), UInt8.ofNat (255 - count / 256)]

/-- The data as stored blocks. -/
def deflate (data : List UInt8) : List UInt8 :=
  if data.length ≤ storedLimit then 1 :: storedHeader data.length ++ data
  else
    0 :: storedHeader storedLimit ++ data.take storedLimit ++ deflate (data.drop storedLimit)
termination_by data.length
decreasing_by simp only [List.length_drop, storedLimit] at *; omega

end UsageReport.Codec.Deflate
