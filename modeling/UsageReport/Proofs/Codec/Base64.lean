import Mathlib
import UsageReport.Codec.Base64

/-! Reading the text of bytes over 64 symbols gives the bytes back, and the text is of visible ASCII
characters only. -/

namespace UsageReport.Codec.Base64

theorem value?_symbol : ∀ {n : Nat}, n < 64 → value? (symbol n) = some n := by
  decide

theorem symbol_ne_padding : ∀ {n : Nat}, n < 64 → symbol n ≠ padding := by
  decide

theorem symbol_visible : ∀ {n : Nat}, n < 64 → 33 ≤ (symbol n).toNat ∧ (symbol n).toNat < 127 := by
  decide

theorem values_map_symbol {numbers : List Nat} (small : ∀ n ∈ numbers, n < 64) (offset : Nat) :
    values offset (numbers.map symbol) = .ok numbers := by
  induction numbers generalizing offset with
  | nil => rfl
  | cons n rest ih =>
    rw [List.map_cons, values, value?_symbol (small n (by simp))]
    simp only [ih fun m inside => small m (List.mem_cons_of_mem n inside), Except.map]

/-- Three bytes from the four numbers that they are split into. -/
theorem triple_split {a b c : UInt8} {n : Nat} (h : n = (a.toNat * 256 + b.toNat) * 256 + c.toNat) :
    triple (n / 262144) (n / 4096 % 64) (n / 64 % 64) (n % 64) = [a, b, c] := by
  have ha := a.toNat_lt
  have hb := b.toNat_lt
  have hc := c.toNat_lt
  have whole : ((n / 262144 * 64 + n / 4096 % 64) * 64 + n / 64 % 64) * 64 + n % 64 = n := by omega
  have first : n / 65536 = a.toNat := by omega
  have second : n / 256 % 256 = b.toNat := by omega
  have third : n % 256 = c.toNat := by omega
  simp only [triple, whole, first, second, third, UInt8.ofNat_toNat]

theorem split_lt {a b c : UInt8} {n : Nat} (h : n = (a.toNat * 256 + b.toNat) * 256 + c.toNat) :
    ∀ m ∈ [n / 262144, n / 4096 % 64, n / 64 % 64, n % 64], m < 64 := by
  have ha := a.toNat_lt
  have hb := b.toNat_lt
  have hc := c.toNat_lt
  simp only [List.mem_cons, List.not_mem_nil, or_false]
  rintro m (rfl | rfl | rfl | rfl) <;> omega

/-- Whole triples of bytes are written as whole fours of symbols. -/
theorem encode_whole (front : List UInt8) (whole : front.length % 3 = 0) :
    ∃ numbers, (∀ n ∈ numbers, n < 64) ∧ numbers.length % 4 = 0
      ∧ encode front = numbers.map symbol ∧ triples numbers = front := by
  fun_induction encode front with
  | case1 a b c rest n ih =>
    obtain ⟨numbers, small, fours, written, read⟩ :=
      ih (by simp only [List.length_cons] at whole; omega)
    refine ⟨[n / 262144, n / 4096 % 64, n / 64 % 64, n % 64] ++ numbers, ?_, ?_, ?_, ?_⟩
    · intro m inside
      rcases List.mem_append.1 inside with new | old
      · exact split_lt rfl m new
      · exact small m old
    · rw [List.length_append]
      simp only [List.length_cons, List.length_nil]
      omega
    · rw [written]
      rfl
    · show triple _ _ _ _ ++ triples numbers = _
      rw [triple_split rfl, read]
      rfl
  | case2 | case3 => simp at whole
  | case4 => exact ⟨[], by simp, rfl, rfl, rfl⟩

/-- The last one, two or three bytes are written as symbols and completed to four. -/
theorem encode_last (tail : List UInt8) (filled : tail ≠ []) (few : tail.length ≤ 3) :
    ∃ numbers, (∀ n ∈ numbers, n < 64) ∧ 2 ≤ numbers.length ∧ numbers.length ≤ 4
      ∧ encode tail = numbers.map symbol ++ List.replicate (4 - numbers.length) padding
      ∧ lastBytes? numbers = some tail := by
  match tail with
  | [a] =>
    have ha := a.toNat_lt
    refine ⟨[a.toNat * 16 / 64, a.toNat * 16 % 64], ?_, by simp, by simp, rfl, ?_⟩
    · simp only [List.mem_cons, List.not_mem_nil, or_false]
      rintro m (rfl | rfl) <;> omega
    · have unused : a.toNat * 16 % 64 % 16 = 0 := by omega
      have byte : a.toNat * 16 / 64 * 4 + a.toNat * 16 % 64 / 16 = a.toNat := by omega
      simp only [lastBytes?, unused, byte, if_true, UInt8.ofNat_toNat]
  | [a, b] =>
    have ha := a.toNat_lt
    have hb := b.toNat_lt
    obtain ⟨n, split⟩ : ∃ n, n = (a.toNat * 256 + b.toNat) * 4 := ⟨_, rfl⟩
    refine ⟨[n / 4096, n / 64 % 64, n % 64], ?_, by simp, by simp, by simp only [encode, split]; rfl,
      ?_⟩
    · simp only [List.mem_cons, List.not_mem_nil, or_false]
      rintro m (rfl | rfl | rfl) <;> omega
    · have unused : n % 64 % 4 = 0 := by omega
      have first : n / 4096 * 4 + n / 64 % 64 / 16 = a.toNat := by omega
      have second : n / 64 % 64 % 16 * 16 + n % 64 / 4 = b.toNat := by omega
      simp only [lastBytes?, unused, first, second, if_true, UInt8.ofNat_toNat]
  | [a, b, c] =>
    refine ⟨_, split_lt rfl, by simp, by simp, rfl, ?_⟩
    exact congrArg some (triple_split rfl)

/-- The last four symbols are read back. -/
theorem decodeLast_symbols {numbers : List Nat} (small : ∀ n ∈ numbers, n < 64)
    (two : 2 ≤ numbers.length) (four : numbers.length ≤ 4) {bytes : List UInt8}
    (read : lastBytes? numbers = some bytes) (offset : Nat) :
    decodeLast offset (numbers.map symbol ++ List.replicate (4 - numbers.length) padding)
      = .ok bytes := by
  have symbols : ∀ b ∈ numbers.map symbol, decide (b ≠ padding) = true := by
    intro b inside
    obtain ⟨n, hn, rfl⟩ := List.mem_map.1 inside
    exact decide_eq_true (symbol_ne_padding (small n hn))
  have rest (k : Nat) : (List.replicate k padding).dropWhile (· ≠ padding)
      = List.replicate k padding := by
    cases k <;> simp [List.replicate_succ]
  have taken (k : Nat) : (List.replicate k padding).takeWhile (· ≠ padding) = [] := by
    cases k <;> simp [List.replicate_succ]
  have complete : numbers.length + (4 - numbers.length) = 4 := by omega
  have enough : ¬ numbers.length < 2 := by omega
  unfold decodeLast
  rw [List.takeWhile_append_of_pos symbols, List.dropWhile_append_of_pos symbols, taken, rest,
    List.append_nil]
  dsimp only
  rw [values_map_symbol small]
  simp [bind, Except.bind, pure, Except.pure, read, complete, enough]

/-- Bytes that are not empty are whole triples and one, two or three more. -/
theorem exists_triples_append {bytes : List UInt8} (filled : bytes ≠ []) :
    ∃ front tail, bytes = front ++ tail ∧ front.length % 3 = 0 ∧ tail ≠ [] ∧ tail.length ≤ 3 := by
  have positive : 0 < bytes.length := List.length_pos_iff.2 filled
  obtain ⟨k, hk⟩ : ∃ k, k = (bytes.length - 1) / 3 := ⟨_, rfl⟩
  refine ⟨bytes.take (3 * k), bytes.drop (3 * k), (List.take_append_drop _ _).symm, ?_, ?_, ?_⟩
  · rw [List.length_take, Nat.min_eq_left (by omega)]
    omega
  · rw [← List.length_pos_iff, List.length_drop]
    omega
  · rw [List.length_drop]
    omega

theorem encode_append (front tail : List UInt8) (whole : front.length % 3 = 0) :
    encode (front ++ tail) = encode front ++ encode tail := by
  fun_induction encode front with
  | case1 a b c rest n ih =>
    simp only [List.cons_append, encode]
    rw [ih (by simp only [List.length_cons] at whole; omega)]
  | case2 | case3 => simp at whole
  | case4 => rfl

/-- Every text of bytes is made of symbols, completed to fours at its end. -/
theorem mem_encode {bytes : List UInt8} {b : UInt8} (h : b ∈ encode bytes) :
    (∃ n < 64, b = symbol n) ∨ b = padding := by
  by_cases empty : bytes = []
  · subst empty
    simp [encode] at h
  obtain ⟨front, tail, rfl, whole, filled, few⟩ := exists_triples_append empty
  obtain ⟨numbers, small, -, written, -⟩ := encode_whole front whole
  obtain ⟨last, smallLast, -, -, writtenLast, -⟩ := encode_last tail filled few
  rw [encode_append front tail whole, written, writtenLast, List.mem_append, List.mem_append] at h
  rcases h with inside | inside | inside
  · obtain ⟨n, hn, rfl⟩ := List.mem_map.1 inside
    exact .inl ⟨n, small n hn, rfl⟩
  · obtain ⟨n, hn, rfl⟩ := List.mem_map.1 inside
    exact .inl ⟨n, smallLast n hn, rfl⟩
  · exact .inr (List.eq_of_mem_replicate inside)

/-- The text of bytes is of visible ASCII characters. -/
theorem visible_of_mem_encode {bytes : List UInt8} {b : UInt8} (h : b ∈ encode bytes) :
    33 ≤ b.toNat ∧ b.toNat < 127 := by
  rcases mem_encode h with ⟨n, hn, rfl⟩ | rfl
  · exact symbol_visible hn
  · decide

/-- Bytes are read back from their text. -/
theorem decode_encode (bytes : List UInt8) : decode (encode bytes) = .ok bytes := by
  by_cases empty : bytes = []
  · subst empty
    rfl
  obtain ⟨front, tail, rfl, whole, filled, few⟩ := exists_triples_append empty
  obtain ⟨numbers, small, fours, written, read⟩ := encode_whole front whole
  obtain ⟨last, smallLast, two, four, writtenLast, readLast⟩ := encode_last tail filled few
  have lastFour : (encode tail).length = 4 := by
    rw [writtenLast, List.length_append, List.length_map, List.length_replicate]
    omega
  have complete : (encode front ++ encode tail).length % 4 = 0 := by
    rw [List.length_append, written, List.length_map]
    omega
  have offset : (encode front ++ encode tail).length - 4 = (encode front).length := by
    rw [List.length_append, lastFour, Nat.add_sub_cancel]
  unfold decode
  rw [encode_append front tail whole]
  dsimp only
  rw [complete, if_neg (by simp), if_pos rfl, offset, List.take_left, List.drop_left]
  have head : values 0 (encode front) = .ok numbers := by
    rw [written]
    exact values_map_symbol small 0
  have last' : decodeLast (encode front).length (encode tail) = .ok tail := by
    rw [writtenLast]
    exact decodeLast_symbols smallLast two four readLast _
  rw [head, last']
  exact congrArg (fun bytes => Except.ok (bytes ++ tail)) read

end UsageReport.Codec.Base64
