/-! Codes of bits, and the canonical code of given lengths: shorter codes come first, and codes of
one length are in the order of their symbols. -/

namespace UsageReport.Codec

/-- Bytes as a stream of bits, the lowest bit of a byte first. -/
structure Bits where
  bytes : List UInt8
  /-- The bits of the first byte that are already read, fewer than eight. -/
  used : Nat

namespace Bits

def next? (s : Bits) : Option (Bool × Bits) :=
  match s.bytes with
  | [] => none
  | byte :: rest =>
    let bit := byte.toNat.testBit s.used
    some (bit, if s.used < 7 then ⟨s.bytes, s.used + 1⟩ else ⟨rest, 0⟩)

/-- The next `count` bits as a number, the lowest first. -/
def number? (s : Bits) : Nat → Option (Nat × Bits)
  | 0 => some (0, s)
  | count + 1 => do
    let (bit, s) ← s.next?
    let (high, s) ← s.number? count
    return (2 * high + bit.toNat, s)

def aligned (s : Bits) : List UInt8 := if s.used = 0 then s.bytes else s.bytes.drop 1

end Bits

/-- A code as a tree: a false bit leads left, a true bit right. -/
inductive Huffman where
  | absent
  | leaf (symbol : Nat)
  | node (left right : Huffman)

namespace Huffman

/-- Adds the code of a symbol, none where another code is in its way. -/
def insert? : Huffman → List Bool → Nat → Option Huffman
  | .absent, [], symbol => some (.leaf symbol)
  | .absent, false :: path, symbol => (insert? .absent path symbol).map (.node · .absent)
  | .absent, true :: path, symbol => (insert? .absent path symbol).map (.node .absent ·)
  | .node left right, false :: path, symbol => (insert? left path symbol).map (.node · right)
  | .node left right, true :: path, symbol => (insert? right path symbol).map (.node left ·)
  | _, _, _ => none

def read? : Huffman → Bits → Option (Nat × Bits)
  | .absent, _ => none
  | .leaf symbol, s => some (symbol, s)
  | .node left right, s =>
    match s.next? with
    | none => none
    | some (false, s) => left.read? s
    | some (true, s) => right.read? s

def lengthLimit : Nat := 15

def countOf (lengths : List Nat) (n : Nat) : Nat := lengths.countP (· = n)

def firstCode (lengths : List Nat) : Nat → Nat
  | 0 => 0
  | n + 1 => 2 * (firstCode lengths n + if n = 0 then 0 else countOf lengths n)

def path (count code : Nat) : List Bool :=
  (List.range count).map fun i => code.testBit (count - 1 - i)

/-- The code in which symbol `i` has `lengths[i]` bits, and no code where that is zero. The codes
have to fill the tree, unless there is at most one. -/
def canonical? (lengths : List Nat) : Option Huffman :=
  let used := lengths.countP (0 < ·)
  let room := lengths.foldl (fun room n => if n = 0 then room else room + 1 <<< (lengthLimit - n)) 0
  if 1 < used ∧ room ≠ 1 <<< lengthLimit then none
  else
    let firsts := (List.range (lengthLimit + 1)).map (firstCode lengths)
    let filled := lengths.zipIdx.foldlM (fun (tree, nexts) (n, symbol) =>
      if n = 0 then some (tree, nexts)
      else
        let code := nexts.getD n 0
        (tree.insert? (path n code) symbol).map (·, nexts.set n (code + 1))) (absent, firsts)
    filled.map Prod.fst

end Huffman

end UsageReport.Codec
