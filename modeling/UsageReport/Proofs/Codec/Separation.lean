import Mathlib
import UsageReport.Proofs.Codec.Wire

/-! Values that are written one behind the other can be told apart by their bytes alone: what a
format writes for one value is never the beginning of what it writes for another. This holds of all
values whose lengths fit a machine word, also of those that a reader refuses for their size. -/

namespace UsageReport.Codec

theorem textBytes_injective {s t : String} (same : textBytes s = textBytes t) : s = t := by
  have read : text? (textBytes s) = some s := text?_eq_some_iff.2 rfl
  rw [same, text?_eq_some_iff.2 rfl] at read
  exact (Option.some.inj read).symm

/-- The lengths that are written before lists and texts. -/
def lengthLimit : Nat := 256 ^ 8

namespace Format

variable {α β : Type}

/-- Equal bytes are those of equal values with equal bytes behind them. -/
def Separates (format : Format α) (Sized : α → Prop) : Prop :=
  ∀ a b r s, Sized a → Sized b → format.put a ++ r = format.put b ++ s → a = b ∧ r = s

variable {format : Format α} {Sized : α → Prop}

theorem Exact.separates (exact : format.Exact Sized) : format.Separates Sized := by
  intro a b r s sizedA sizedB same
  have read := exact.get?_put sizedA r
  rw [same, exact.get?_put sizedB s] at read
  simp only [Option.some.injEq, Prod.mk.injEq] at read
  exact ⟨read.1.symm, read.2.symm⟩

theorem Separates.map (separates : format.Separates Sized) {read : α → β} {write : β → α}
    {Sized' : β → Prop} (sized : ∀ b, Sized' b → Sized (write b))
    (injective : ∀ a b, write a = write b → a = b) : (format.map read write).Separates Sized' := by
  intro a b r s sizedA sizedB same
  obtain ⟨written, behind⟩ := separates _ _ r s (sized a sizedA) (sized b sizedB) same
  exact ⟨injective a b written, behind⟩

theorem Separates.pair {first : Format α} {second : Format β} {SizedFirst : α → Prop}
    {SizedSecond : β → Prop} (separatesFirst : first.Separates SizedFirst)
    (separatesSecond : second.Separates SizedSecond) :
    (first.pair second).Separates fun value => SizedFirst value.1 ∧ SizedSecond value.2 := by
  rintro ⟨a, a'⟩ ⟨b, b'⟩ r s ⟨sizedA, sizedA'⟩ ⟨sizedB, sizedB'⟩ same
  simp only [Format.pair, List.append_assoc] at same
  obtain ⟨rfl, rest⟩ := separatesFirst a b _ _ sizedA sizedB same
  obtain ⟨rfl, rfl⟩ := separatesSecond a' b' r s sizedA' sizedB' rest
  exact ⟨rfl, rfl⟩

theorem separates_text : text.Separates fun s => (textBytes s).length < lengthLimit := by
  intro s t r r' sizedS sizedT same
  simp only [text, List.append_assoc] at same
  obtain ⟨lengths, rest⟩ := (exact_number 8).separates _ _ _ _ sizedS sizedT same
  obtain ⟨bytes, rfl⟩ := List.append_inj rest lengths
  exact ⟨textBytes_injective bytes, rfl⟩

theorem Separates.many (separates : format.Separates Sized) {values values' : List α}
    {r s : List UInt8} (count : values.length = values'.length) (sized : ∀ v ∈ values, Sized v)
    (sized' : ∀ v ∈ values', Sized v)
    (same : values.flatMap format.put ++ r = values'.flatMap format.put ++ s) :
    values = values' ∧ r = s := by
  induction values generalizing values' with
  | nil =>
    obtain rfl := List.length_eq_zero_iff.1 count.symm
    exact ⟨rfl, same⟩
  | cons a values ih =>
    obtain ⟨b, values', rfl⟩ := List.exists_cons_of_length_eq_add_one count.symm
    obtain ⟨sizedA, sizedTail⟩ := List.forall_mem_cons.1 sized
    obtain ⟨sizedB, sizedTail'⟩ := List.forall_mem_cons.1 sized'
    simp only [List.flatMap_cons, List.append_assoc] at same
    obtain ⟨rfl, rest⟩ := separates a b _ _ sizedA sizedB same
    obtain ⟨rfl, rfl⟩ := ih (Nat.succ.inj count) sizedTail sizedTail' rest
    exact ⟨rfl, rfl⟩

theorem Separates.list (separates : format.Separates Sized) :
    format.list.Separates fun values => values.length < lengthLimit ∧ ∀ v ∈ values, Sized v := by
  rintro values values' r s ⟨few, sized⟩ ⟨few', sized'⟩ same
  simp only [Format.list, List.append_assoc] at same
  obtain ⟨count, rest⟩ := (exact_number 8).separates _ _ _ _ few few' same
  exact separates.many count sized sized' rest

end Format

end UsageReport.Codec
