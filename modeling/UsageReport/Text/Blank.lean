/-! The blank characters of Unicode (its property `White_Space`) and texts without the blanks at
their ends. -/

namespace UsageReport.Text

/-- A character of the property `White_Space`. -/
def isBlank (c : Char) : Bool :=
  let n := c.toNat
  (9 ≤ n && n ≤ 13) || n == 32 || n == 0x85 || n == 0xA0 || n == 0x1680
    || (0x2000 ≤ n && n ≤ 0x200A) || n == 0x2028 || n == 0x2029 || n == 0x202F || n == 0x205F
    || n == 0x3000

def trimStart (s : List Char) : List Char := s.dropWhile isBlank

def trimEnd (s : List Char) : List Char := (s.reverse.dropWhile isBlank).reverse

def trim (s : List Char) : List Char := trimEnd (trimStart s)

theorem trimEnd_append (s : List Char) {blanks : List Char} (h : ∀ b ∈ blanks, isBlank b = true) :
    trimEnd (s ++ blanks) = trimEnd s := by
  have h' : ∀ b ∈ blanks.reverse, isBlank b = true := fun b hb => h b (List.mem_reverse.1 hb)
  rw [trimEnd, List.reverse_append, List.dropWhile_append_of_pos h', trimEnd]

theorem exists_blanks (s : List Char) :
    ∃ blanks, (∀ b ∈ blanks, isBlank b = true) ∧ trimEnd s ++ blanks = s := by
  refine ⟨(s.reverse.takeWhile isBlank).reverse, fun b hb => ?_, ?_⟩
  · exact List.all_eq_true.1 List.all_takeWhile b (List.mem_reverse.1 hb)
  · rw [trimEnd, ← List.reverse_append, List.takeWhile_append_dropWhile, List.reverse_reverse]

end UsageReport.Text
