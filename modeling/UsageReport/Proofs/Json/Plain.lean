import Mathlib
import UsageReport.Json.Reader

/-! Words of JSON text. What a word stands for has no parts: it is neither an array nor an object. -/

namespace UsageReport.Json

/-- The value is neither an array nor an object. -/
def Value.Plain (v : Value) : Prop := v.array? = none ∧ v.object? = none

theorem plain_of_whole? {negative : Bool} {digits : List Char} {v : Value}
    (read : whole? negative digits = some v) : v.Plain := by
  unfold whole? at read
  dsimp only at read
  split at read
  · split at read
    · cases read
      exact ⟨rfl, rfl⟩
    · obtain ⟨x, -, rfl⟩ := Option.map_eq_some_iff.1 read
      exact ⟨rfl, rfl⟩
  · split at read
    · cases read
      exact ⟨rfl, rfl⟩
    · obtain ⟨x, -, rfl⟩ := Option.map_eq_some_iff.1 read
      exact ⟨rfl, rfl⟩

theorem plain_of_number? {text : List Char} {v : Value} (read : number? text = some v) :
    v.Plain := by
  unfold number? at read
  dsimp only at read
  -- The cases are the same with a sign and without one.
  split at read
  all_goals
    split at read
    · cases read
    split at read
    · exact plain_of_whole? read
    · split at read
      · cases read
      · obtain ⟨e, -, read⟩ := Option.bind_eq_some_iff.1 read
        obtain ⟨x, -, rfl⟩ := Option.map_eq_some_iff.1 read
        exact ⟨rfl, rfl⟩
    · obtain ⟨e, -, read⟩ := Option.bind_eq_some_iff.1 read
      obtain ⟨x, -, rfl⟩ := Option.map_eq_some_iff.1 read
      exact ⟨rfl, rfl⟩

theorem Reader.plain_of_scalar? {word : List Char} {v : Value} (read : scalar? word = some v) :
    v.Plain := by
  unfold scalar? at read
  split at read
  case h_4 => exact plain_of_number? read
  all_goals
    cases read
    exact ⟨rfl, rfl⟩

/-! ### Tokens -/

def Token.Plain : Token → Prop
  | .scalar v => v.Plain
  | _ => True

theorem Reader.token_plain_of_punctuation? {c : Char} {token : Token}
    (is : punctuation? c = some token) : token.Plain := by
  unfold punctuation? at is
  split at is <;> cases is <;> trivial

end UsageReport.Json
