import Mathlib
import UsageReport.Codec.Container

/-! Data that is compressed as stored blocks and put into a container is found there again, whatever
bytes stand behind it. -/

namespace UsageReport.Codec

namespace Deflate

theorem pair?_append (n : Nat) (small : n < 65536) (rest : List UInt8) :
    pair? ([UInt8.ofNat (n % 256), UInt8.ofNat (n / 256)] ++ rest) = some (n, rest) := by
  have high : (UInt8.ofNat (n / 256)).toNat = n / 256 := UInt8.toNat_ofNat_of_lt' (show _ < 256 by omega)
  have low : (UInt8.ofNat (n % 256)).toNat = n % 256 := UInt8.toNat_ofNat_of_lt' (show _ < 256 by omega)
  show some ((UInt8.ofNat (n / 256)).toNat * 256 + (UInt8.ofNat (n % 256)).toNat, rest) = _
  rw [high, low, Nat.div_add_mod']

theorem storedHeader_eq (count : Nat) (few : count ≤ storedLimit) :
    storedHeader count = [UInt8.ofNat (count % 256), UInt8.ofNat (count / 256)]
      ++ [UInt8.ofNat ((65535 - count) % 256), UInt8.ofNat ((65535 - count) / 256)] := by
  have few : count ≤ 65535 := few
  have low : (65535 - count) % 256 = 255 - count % 256 := by omega
  have high : (65535 - count) / 256 = 255 - count / 256 := by omega
  rw [low, high]
  rfl

/-- A stored block is read back. Its first byte tells only whether it is the final one. -/
theorem stored?_append (out : Array UInt8) {data : List UInt8} (few : data.length ≤ storedLimit)
    (first : UInt8) (rest : List UInt8) :
    stored? out ⟨first :: storedHeader data.length ++ data ++ rest, 3⟩
      = some (out ++ data, ⟨rest, 0⟩) := by
  have few' : data.length ≤ 65535 := few
  have aligned : Bits.aligned ⟨first :: storedHeader data.length ++ data ++ rest, 3⟩
      = storedHeader data.length ++ (data ++ rest) := by
    simp [Bits.aligned]
  have complement : data.length + (65535 - data.length) = 65535 := by omega
  unfold stored?
  rw [aligned, storedHeader_eq _ few, List.append_assoc, pair?_append _ (by omega)]
  simp only [bind, Option.bind]
  rw [pair?_append _ (by omega)]
  simp [complement]

def storedByte (final : Bool) : UInt8 := if final then 1 else 0

theorem next?_cons (byte : UInt8) (bytes : List UInt8) {used : Nat} (h : used < 7) :
    Bits.next? ⟨byte :: bytes, used⟩
      = some (byte.toNat.testBit used, ⟨byte :: bytes, used + 1⟩) := by
  simp only [Bits.next?, if_pos h]

theorem next?_storedByte (final : Bool) (bytes : List UInt8) :
    Bits.next? ⟨storedByte final :: bytes, 0⟩ = some (final, ⟨storedByte final :: bytes, 1⟩) := by
  have bit : (storedByte final).toNat.testBit 0 = final := by cases final <;> decide
  rw [next?_cons _ _ (by decide), bit]

/-- The two bits behind the first one tell the kind of a stored block. -/
theorem number?_storedByte (final : Bool) (bytes : List UInt8) :
    Bits.number? ⟨storedByte final :: bytes, 1⟩ 2 = some (0, ⟨storedByte final :: bytes, 3⟩) := by
  have low : (storedByte final).toNat.testBit 1 = false := by cases final <;> decide
  have high : (storedByte final).toNat.testBit 2 = false := by cases final <;> decide
  simp only [Bits.number?, next?_cons _ _ (show 1 < 7 by decide),
    next?_cons _ _ (show 1 + 1 < 7 by decide), low, high, bind, Option.bind]
  rfl

theorem blocks?_stored (fuel : Nat) (out : Array UInt8) {data : List UInt8}
    (few : data.length ≤ storedLimit) (final : Bool) (rest : List UInt8) :
    blocks? (fuel + 1) out ⟨storedByte final :: storedHeader data.length ++ data ++ rest, 0⟩
      = if final then some (out ++ data, ⟨rest, 0⟩) else blocks? fuel (out ++ data) ⟨rest, 0⟩ := by
  have block := stored?_append out few (storedByte final) rest
  simp only [List.cons_append] at block ⊢
  rw [blocks?, next?_storedByte]
  simp only [bind, Option.bind]
  rw [number?_storedByte]
  simp only [body?, block]

/-- Stored blocks are read up to the final one. One block takes one unit of fuel. -/
theorem blocks?_deflate (data rest : List UInt8) (out : Array UInt8) (fuel : Nat)
    (enough : data.length < fuel) :
    blocks? fuel out ⟨deflate data ++ rest, 0⟩ = some (out ++ data, ⟨rest, 0⟩) := by
  fun_induction deflate data generalizing out fuel with
  | case1 data few =>
    obtain ⟨fuel, rfl⟩ : ∃ k, fuel = k + 1 := ⟨fuel - 1, by omega⟩
    exact blocks?_stored fuel out few true rest
  | case2 data many ih =>
    obtain ⟨fuel, rfl⟩ : ∃ k, fuel = k + 1 := ⟨fuel - 1, by omega⟩
    have many : 65535 < data.length := Nat.lt_of_not_le many
    have taken : (data.take storedLimit).length = storedLimit := by
      rw [List.length_take]
      exact Nat.min_eq_left (Nat.le_of_lt many)
    have block := blocks?_stored fuel out (Nat.le_of_eq taken) false
      (deflate (data.drop storedLimit) ++ rest)
    rw [taken] at block
    rw [List.append_assoc]
    refine block.trans ?_
    have fewer : (data.drop storedLimit).length < fuel := by
      rw [List.length_drop, show storedLimit = 65535 from rfl]
      omega
    rw [if_neg (by simp), ih _ fuel fewer]
    have whole : out ++ data.take storedLimit ++ data.drop storedLimit = out ++ data := by
      apply Array.ext'
      simp only [Array.toList_appendList, List.append_assoc, List.take_append_drop]
    rw [whole]

theorem length_le_deflate (data : List UInt8) : data.length ≤ (deflate data).length := by
  fun_induction deflate data with
  | case1 data few =>
    rw [List.length_append]
    omega
  | case2 data many ih =>
    simp only [List.length_append, List.length_cons, List.length_take, List.length_drop] at ih ⊢
    omega

end Deflate

/-- Compressed data is found again, and so are the bytes behind it. -/
theorem Deflate.inflate?_deflate (data rest : List UInt8) :
    inflate? (deflate data ++ rest) = some (data, rest) := by
  have enough : data.length < 8 * (deflate data ++ rest).length + 1 := by
    have := length_le_deflate data
    rw [List.length_append]
    omega
  rw [inflate?, blocks?_deflate data rest #[] _ enough]
  simp [Bits.aligned]

theorem length_bigEndian (count n : Nat) : (bigEndian count n).length = count := by
  simp [bigEndian]

/-- The data of a container is found again, whatever stands behind it. -/
theorem Zlib.decompress?_compress_append (data rest : List UInt8) :
    Zlib.decompress? (Zlib.compress data ++ rest) = some data := by
  have header : Zlib.header? (Zlib.compress data ++ rest)
      = some (Deflate.deflate data ++ (bigEndian 4 (adler32 data) ++ rest)) := by
    simp [Zlib.header?, Zlib.compress]
  have trailer : (bigEndian 4 (adler32 data) ++ rest).take 4 = bigEndian 4 (adler32 data) :=
    List.take_left' (length_bigEndian 4 _)
  rw [Zlib.decompress?, header]
  simp only [bind, Option.bind, Deflate.inflate?_deflate, trailer, if_true]

end UsageReport.Codec
