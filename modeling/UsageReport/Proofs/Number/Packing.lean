import Mathlib
import UsageReport.Number.Basic
import UsageReport.Proofs.Number.Rounding

/-! Bits of binary64 and the values that they stand for. A value in canonical form is read back from
its bits, and the bits of a number that is not NaN are those of its value, so that arithmetic of
numbers is arithmetic of their forms. -/

namespace UsageReport.Number

open Float.Model (UnpackedFloat)
open Float.Model.Format (binary64)
open Float.Model.UnpackedFloat (Sign packComponents unpackExponent unpackMantissa unpackSign)

/-! ### Parts -/

theorem exists_components (b : BitVec binary64.numBits) :
    ∃ (s : Sign) (exponent : BitVec 11) (mantissa : BitVec 52),
      b = packComponents binary64 s exponent mantissa := by
  refine ⟨.ofBitVec (unpackSign b), unpackExponent b, unpackMantissa b, ?_⟩
  have sign (bit : BitVec 1) : (Sign.ofBitVec bit).toBitVec = bit := by
    revert bit
    decide
  rw [packComponents, sign]
  apply BitVec.eq_of_getLsbD_eq
  intro i inside
  change i < 64 at inside
  rw [BitVec.getLsbD_append, BitVec.getLsbD_append]
  simp only [unpackSign, unpackExponent, unpackMantissa, BitVec.getLsbD_cast,
    BitVec.getLsbD_extractLsb]
  split
  case isTrue => simp; omega
  case isFalse =>
    split
    case isTrue =>
      have place : 52 + (i - 52) = i := by omega
      rw [place, decide_eq_true (by omega), Bool.true_and]
    case isFalse =>
      have place : 52 + 11 + (i - 52 - 11) = i := by omega
      rw [place, decide_eq_true (by omega), Bool.true_and]

theorem unpackSign_packComponents (s : Sign) (exponent : BitVec 11) (mantissa : BitVec 52) :
    Sign.ofBitVec (unpackSign (packComponents binary64 s exponent mantissa)) = s := by
  have first : unpackSign (packComponents binary64 s exponent mantissa) = s.toBitVec := by
    show (s.toBitVec ++ exponent ++ mantissa).extractLsb' 63 1 = s.toBitVec
    rw [BitVec.extractLsb'_append_eq_of_le (by decide),
      BitVec.extractLsb'_append_eq_of_le (by decide)]
    cases s <;> rfl
  rw [first]
  cases s <;> rfl

theorem implicit_append (mantissa : BitVec 52) :
    (1#1 ++ mantissa).toNat = 2 ^ 52 + mantissa.toNat := by
  rw [BitVec.toNat_append, ← Nat.shiftLeft_add_eq_or_of_lt mantissa.isLt]
  simp [Nat.shiftLeft_eq]

theorem unpack_components (s : Sign) (exponent : BitVec 11) (mantissa : BitVec 52) :
    UnpackedFloat.unpack binary64 (packComponents binary64 s exponent mantissa)
      = if exponent = -1#11 then if mantissa = 0#52 then .infinity s else .notANumber
        else if exponent = 0#11 then
          if some : mantissa = 0#52 then .zero s
          else .finite s mantissa.toNat (-1074) (by
            simpa [BitVec.toNat_pos, BitVec.pos_iff_ne_zero] using some)
        else .finite s (1#1 ++ mantissa).toNat (exponent.toNat - 1075) (by
          rw [implicit_append]
          positivity) := by
  have bias : (binary64.exponentBias : ℤ) + binary64.mantissaBitsWithoutImplicit = 1075 := rfl
  simp only [UnpackedFloat.unpack, UnpackedFloat.unpackMantissa_packComponents,
    UnpackedFloat.unpackExponent_packComponents, unpackSign_packComponents, bias]
  by_cases low : exponent = 0#11
  · subst low
    rfl
  · simp only [low, if_false]

theorem pack_normal (s : Sign) {m : ℕ} {e : ℤ} (positive : 0 < m) (least : 2 ^ 52 ≤ m)
    (small : m < 2 ^ 53) (low : -1074 ≤ e) (high : e ≤ 971) :
    UnpackedFloat.pack binary64 (.finite s m e positive)
      = packComponents binary64 s (.ofNat 11 (e + 1075).toNat) (.ofNat 52 m) := by
  have log : m.log2 = 52 := (Nat.log2_eq_iff positive.ne').2 ⟨least, small⟩
  have place : (e + binary64.exponentBias + binary64.mantissaBitsWithoutImplicit).toNat
      = (e + 1075).toNat := by rw [add_assoc]; rfl
  have inside : ¬ 2 ^ binary64.exponentBits ≤ (e + 1075).toNat + 1 := by
    show ¬ 2 ^ 11 ≤ _
    omega
  have normal : m.log2 + 1 = binary64.mantissaBits := by
    rw [log]
    rfl
  simp only [UnpackedFloat.pack, place, if_neg inside, if_pos normal]

theorem pack_subnormal (s : Sign) {m : ℕ} (positive : 0 < m) (small : m < 2 ^ 52) :
    UnpackedFloat.pack binary64 (.finite s m (-1074) positive)
      = packComponents binary64 s 0#11 (.ofNat 52 m) := by
  have log : m.log2 < 52 := (Nat.log2_lt positive.ne').2 small
  have inside : ¬ 2 ^ binary64.exponentBits
      ≤ (-1074 + binary64.exponentBias + binary64.mantissaBitsWithoutImplicit : ℤ).toNat + 1 := by
    decide
  have subnormal : ¬ m.log2 + 1 = binary64.mantissaBits := by
    show ¬ m.log2 + 1 = 53
    omega
  simp only [UnpackedFloat.pack, if_neg inside, if_neg subnormal]

/-- The forms that numbers of binary64 have. -/
def Packable : UnpackedFloat → Prop
  | .finite _ m e _ => Canonical m e ∧ e ≤ 971
  | _ => True

theorem toNat_lt_of_ne {exponent : BitVec 11} (below : exponent ≠ -1#11) :
    exponent.toNat < 2 ^ 11 - 1 := by
  have small := exponent.isLt
  have most : exponent.toNat ≠ 2 ^ 11 - 1 := by
    intro all
    apply below
    apply BitVec.eq_of_toNat_eq
    rw [all]
    rfl
  omega

theorem toNat_pos_of_ne {w : ℕ} {part : BitVec w} (some : part ≠ 0#w) :
    0 < part.toNat := by
  rw [Nat.pos_iff_ne_zero]
  exact fun none => some (BitVec.eq_of_toNat_eq none)

theorem packable_unpack (b : BitVec binary64.numBits) :
    Packable (UnpackedFloat.unpack binary64 b) := by
  obtain ⟨s, exponent, mantissa, rfl⟩ := exists_components b
  have small := mantissa.isLt
  rw [unpack_components]
  split
  case isTrue => split <;> trivial
  case isFalse below =>
    have most := toNat_lt_of_ne below
    split
    case isTrue =>
      split
      case isTrue => trivial
      case isFalse => exact ⟨⟨by omega, by omega, .inr rfl⟩, by omega⟩
    case isFalse some =>
      have least := toNat_pos_of_ne some
      have whole := implicit_append mantissa
      exact ⟨⟨by omega, by omega, .inl (by omega)⟩, by omega⟩

theorem unpack_pack {f : UnpackedFloat} (fits : Packable f) :
    UnpackedFloat.unpack binary64 (UnpackedFloat.pack binary64 f) = f := by
  match f with
  | .infinity .negative => rfl
  | .infinity .positive => rfl
  | .notANumber => rfl
  | .zero .negative => rfl
  | .zero .positive => rfl
  | .finite s m e positive =>
    obtain ⟨⟨small, least, full⟩, most⟩ := fits
    by_cases normal : 2 ^ 52 ≤ m
    · have exponent : (BitVec.ofNat 11 (e + 1075).toNat).toNat = (e + 1075).toNat := by
        rw [BitVec.toNat_ofNat, Nat.mod_eq_of_lt (by omega)]
      have below : BitVec.ofNat 11 (e + 1075).toNat ≠ -1#11 := by
        intro all
        have value := congrArg BitVec.toNat all
        rw [exponent] at value
        change _ = 2047 at value
        omega
      have some : BitVec.ofNat 11 (e + 1075).toNat ≠ 0#11 := by
        intro none
        have value := congrArg BitVec.toNat none
        rw [exponent] at value
        change _ = 0 at value
        omega
      have whole : (1#1 ++ BitVec.ofNat 52 m).toNat = m := by
        rw [implicit_append, BitVec.toNat_ofNat]
        omega
      have back : ((e + 1075).toNat : ℤ) - 1075 = e := by omega
      rw [pack_normal s positive normal small least most, unpack_components, if_neg below,
        if_neg some]
      simp only [whole, exponent, back]
    · obtain rfl : e = -1074 := full.resolve_left normal
      have part : (BitVec.ofNat 52 m).toNat = m := by
        rw [BitVec.toNat_ofNat, Nat.mod_eq_of_lt (by omega)]
      have some : BitVec.ofNat 52 m ≠ 0#52 := by
        intro none
        have value := congrArg BitVec.toNat none
        rw [part] at value
        exact positive.ne' value
      rw [pack_subnormal s positive (by omega), unpack_components, if_neg (by decide), if_pos rfl,
        dif_neg some]
      simp only [part]

/-- The bits of a number that is not NaN follow from its unpacked form. -/
theorem pack_unpack {b : BitVec binary64.numBits}
    (number : (UnpackedFloat.unpack binary64 b).isNaN = false) :
    UnpackedFloat.pack binary64 (UnpackedFloat.unpack binary64 b) = b := by
  obtain ⟨s, exponent, mantissa, rfl⟩ := exists_components b
  have small := mantissa.isLt
  have mantissaBack : BitVec.ofNat 52 mantissa.toNat = mantissa := BitVec.ofNat_toNat ..
  rw [unpack_components] at number ⊢
  by_cases high : exponent = -1#11
  · subst high
    by_cases none : mantissa = 0#52
    · subst none
      rfl
    · rw [if_pos rfl, if_neg none] at number
      cases number
  · have most := toNat_lt_of_ne high
    rw [if_neg high]
    by_cases low : exponent = 0#11
    · subst low
      rw [if_pos rfl]
      by_cases none : mantissa = 0#52
      · subst none
        rfl
      · rw [dif_neg none, pack_subnormal _ (toNat_pos_of_ne none) small]
        simp
    · have least := toNat_pos_of_ne low
      have whole := implicit_append mantissa
      have back : ((exponent.toNat : ℤ) - 1075 + 1075).toNat = exponent.toNat := by omega
      rw [if_neg low, pack_normal _ _ (by omega) (by omega) (by omega) (by omega), back, whole]
      congr 1
      · simp
      · apply BitVec.eq_of_toNat_eq
        rw [BitVec.toNat_ofNat]
        omega

/-! ### The form of a number -/

theorem eq_of_bits {values values' : List Number}
    (same : values.map bits = values'.map bits) : values = values' :=
  List.map_injective_iff.2 (fun _ _ => Number.ext) same

/-- What the bits of a number stand for. -/
def form (a : Number) : UnpackedFloat := UnpackedFloat.unpack binary64 a.bits.toBitVec

theorem packable_form (a : Number) : Packable a.form := packable_unpack _

theorem unpack_value (a : Number) : a.value.toModel.unpack = a.form :=
  unpack_pack a.packable_form

theorem isNaN_eq (a : Number) : a.isNaN = a.form.isNaN :=
  congrArg UnpackedFloat.isNaN a.unpack_value

/-- Numbers that are not NaN are known by their form. -/
theorem eq_of_form_eq {a b : Number} (number : a.isNaN = false) (same : a.form = b.form) :
    a = b := by
  rw [isNaN_eq] at number
  have number' : b.form.isNaN = false := same ▸ number
  have bits : a.bits.toBitVec = b.bits.toBitVec :=
    calc a.bits.toBitVec = UnpackedFloat.pack binary64 a.form := (pack_unpack number).symm
      _ = UnpackedFloat.pack binary64 b.form := by rw [same]
      _ = b.bits.toBitVec := pack_unpack number'
  exact Number.ext (UInt64.toBitVec_inj.1 bits)

/-- The number of a form, rounded to infinity where the exponent is too large. -/
def ofForm (f : UnpackedFloat) : Number :=
  let x := Float.ofModel (Float.Model.pack f)
  if x.isNaN then undefined else ofFloat x

theorem form_ofForm {f : UnpackedFloat} (fits : Packable f) : (ofForm f).form = f := by
  have back : (Float.Model.pack f).unpack = f := unpack_pack fits
  have nan : (Float.ofModel (Float.Model.pack f)).isNaN = f.isNaN :=
    congrArg UnpackedFloat.isNaN back
  simp only [ofForm, nan]
  split
  case isTrue isNaN =>
    cases f with
    | notANumber => rfl
    | _ => cases isNaN
  case isFalse => exact back

theorem add_eq {a b : Number} (number : a.isNaN = false) (number' : b.isNaN = false) :
    a + b = ofForm (UnpackedFloat.add binary64 a.form b.form) := by
  show lift (· + ·) a b = _
  rw [lift, number, number', if_neg Bool.false_ne_true, if_neg Bool.false_ne_true, ← unpack_value,
    ← unpack_value]
  rfl

theorem sub_eq {a b : Number} (number : a.isNaN = false) (number' : b.isNaN = false) :
    a - b = ofForm (UnpackedFloat.sub binary64 a.form b.form) := by
  show lift (· - ·) a b = _
  rw [lift, number, number', if_neg Bool.false_ne_true, if_neg Bool.false_ne_true, ← unpack_value,
    ← unpack_value]
  rfl

theorem mul_eq {a b : Number} (number : a.isNaN = false) (number' : b.isNaN = false) :
    a * b = ofForm (UnpackedFloat.mul binary64 a.form b.form) := by
  show lift (· * ·) a b = _
  rw [lift, number, number', if_neg Bool.false_ne_true, if_neg Bool.false_ne_true, ← unpack_value,
    ← unpack_value]
  rfl

theorem div_eq {a b : Number} (number : a.isNaN = false) (number' : b.isNaN = false) :
    a / b = ofForm (UnpackedFloat.div binary64 a.form b.form) := by
  show lift (· / ·) a b = _
  rw [lift, number, number', if_neg Bool.false_ne_true, if_neg Bool.false_ne_true, ← unpack_value,
    ← unpack_value]
  rfl

/-! ### Values -/

theorem value_ofFloat (x : Float) : (ofFloat x).value = x := Float.ofBits_toBits x

/-- An operation on numbers is one on their values, unless there is a NaN. -/
theorem value_lift {f : Float → Float → Float} {a b : Number} (number : a.isNaN = false)
    (number' : b.isNaN = false) (result : (lift f a b).isNaN = false) :
    (lift f a b).value = f a.value b.value := by
  rw [lift, number, number', if_neg Bool.false_ne_true, if_neg Bool.false_ne_true] at result ⊢
  simp only at result ⊢
  split
  case isTrue nan =>
    have undefined : undefined.isNaN = true := by decide +kernel
    rw [if_pos nan, undefined] at result
    cases result
  case isFalse => exact value_ofFloat _

end UsageReport.Number
