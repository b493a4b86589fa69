import Mathlib
import UsageReport.Decimal.Numeral

/-! Whole numbers, read and printed. A text is read as a number exactly if it spells the number: the
digits that the number is printed with stand behind any zeros and an optional plus sign. -/

namespace UsageReport.Decimal

def Spells (text : List Char) (n : Nat) : Prop :=
  ∃ sign ∈ [[], ['+']], ∃ zeros, text = sign ++ (List.replicate zeros '0' ++ (toString n).toList)

theorem digitsValue_eq (digits : List Char) : digitsValue digits = Nat.ofDigitChars 10 digits 0 :=
  Nat.ofDigitChars_eq_foldl.symm

theorem digitsValue_concat (digits : List Char) (c : Char) :
    digitsValue (digits ++ [c]) = 10 * digitsValue digits + (c.toNat - '0'.toNat) :=
  List.foldl_concat _ _ _ _

theorem toList_toString (n : Nat) : (toString n).toList = Nat.toDigits 10 n := by
  rw [Nat.toString_eq_ofList_toDigits, String.toList_ofList]

theorem digit_bounds {c : Char} (digit : c.isDigit = true) : 48 ≤ c.toNat ∧ c.toNat ≤ 57 :=
  Char.isDigit_iff_toNat.1 digit

theorem toDigits_digit {c : Char} (digit : c.isDigit = true) :
    Nat.toDigits 10 (c.toNat - '0'.toNat) = [c] := by
  have zero : '0'.toNat = 48 := rfl
  have := digit_bounds digit
  rw [Nat.toDigits_of_lt_base (by omega), List.singleton_inj, ← Char.toNat_inj,
    Nat.toNat_digitChar_of_lt_ten (by omega)]
  omega

/-- Digits are those of their value, behind zeros. -/
theorem digits_eq {digits : List Char} (some : digits ≠ [])
    (all : ∀ c ∈ digits, c.isDigit = true) :
    ∃ zeros, digits = List.replicate zeros '0' ++ Nat.toDigits 10 (digitsValue digits) := by
  induction digits using List.reverseRecOn with
  | nil => exact absurd rfl some
  | append_singleton front c ih =>
    have last := toDigits_digit (all c (by simp))
    have bounds := digit_bounds (all c (by simp))
    rw [digitsValue_concat]
    by_cases alone : front = []
    · subst alone
      exact ⟨0, by rw [digitsValue_eq, Nat.ofDigitChars_nil, Nat.mul_zero, Nat.zero_add, last]; rfl⟩
    · obtain ⟨zeros, eq⟩ := ih alone fun c inside => all c (List.mem_append_left _ inside)
      by_cases zero : digitsValue front = 0
      · -- The digits so far are zeros, so that the last one alone is printed.
        refine ⟨zeros + 1, ?_⟩
        rw [zero, Nat.mul_zero, Nat.zero_add, last, eq, zero, List.replicate_succ']
        rfl
      · refine ⟨zeros, ?_⟩
        have less : c.toNat - '0'.toNat < 10 := by
          have : '0'.toNat = 48 := rfl
          omega
        rw [← Nat.toDigits_append_toDigits (by decide) (Nat.pos_of_ne_zero zero) less, last,
          ← List.append_assoc, ← eq]

theorem digitsValue_spelled (zeros n : Nat) :
    digitsValue (List.replicate zeros '0' ++ (toString n).toList) = n := by
  rw [digitsValue_eq, toList_toString, Nat.ofDigitChars_append, Nat.ofDigitChars_replicate_zero,
    Nat.mul_zero, Nat.ofDigitChars_ten_toDigits]

theorem digit_of_spelled {zeros n : Nat} {c : Char}
    (inside : c ∈ List.replicate zeros '0' ++ (toString n).toList) : c.isDigit = true := by
  rcases List.mem_append.1 inside with zero | digit
  · rw [List.eq_of_mem_replicate zero]
    rfl
  · rw [toList_toString] at digit
    exact Nat.isDigit_of_mem_toDigits (by decide) (by decide) digit

/-- A number is read from digits with an optional plus sign before them. -/
theorem natural?_digits {limit n : Nat} {text : List Char} :
    natural? limit text = some n ↔ ∃ sign ∈ [[], ['+']], ∃ digits, text = sign ++ digits
      ∧ (digits ≠ [] ∧ (∀ c ∈ digits, c.isDigit = true) ∧ digitsValue digits ≤ limit)
      ∧ digitsValue digits = n := by
  simp only [natural?, Option.ite_none_right_eq_some, Option.some.injEq, List.all_eq_true]
  constructor
  · split
    case h_1 rest => exact fun read => ⟨['+'], by simp, rest, rfl, read⟩
    case h_2 => exact fun read => ⟨[], by simp, text, rfl, read⟩
  · rintro ⟨sign, inside, digits, rfl, read⟩
    rcases List.mem_pair.1 inside with rfl | rfl
    · -- A digit is no plus sign, so that none is taken away from the digits.
      split
      case h_1 rest unsigned =>
        rw [List.nil_append] at unsigned
        exact absurd (read.1.2.1 '+' (by simp [unsigned])) (by decide)
      case h_2 => exact read
    · exact read

theorem natural?_eq_some_iff {limit n : Nat} {text : List Char} :
    natural? limit text = some n ↔ n ≤ limit ∧ Spells text n := by
  rw [natural?_digits]
  constructor
  · rintro ⟨sign, inside, digits, rfl, ⟨some, all, bound⟩, rfl⟩
    obtain ⟨zeros, eq⟩ := digits_eq some all
    exact ⟨bound, sign, inside, zeros, by rw [toList_toString, ← eq]⟩
  · rintro ⟨bound, sign, inside, zeros, rfl⟩
    have value := digitsValue_spelled zeros n
    refine ⟨sign, inside, _, rfl, ⟨?_, fun c => digit_of_spelled, by rwa [value]⟩, value⟩
    rw [toList_toString]
    exact List.append_ne_nil_of_right_ne_nil _ Nat.toDigits_ne_nil

end UsageReport.Decimal
