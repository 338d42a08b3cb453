import Mathlib.Data.List.Basic
import Reroute.Text.Numeral

/-!
Numerals read and written.  A number within the bound is read back from its digits.
-/
namespace Reroute.Numeral

variable {bound n : Nat} {digits : Text}

theorem digits?_of_forall (hne : digits ≠ []) (hdigits : ∀ d ∈ digits, d.isDigit = true) :
    digits? bound digits = if value digits ≤ bound then some (value digits) else none := by
  have hall : digits.all Char.isDigit = true := List.all_eq_true.mpr hdigits
  by_cases hbound : value digits ≤ bound
  · simp [digits?, hne, hall, hbound, Nat.not_lt.mpr hbound]
  · simp [digits?, hbound, Nat.lt_of_not_le hbound]

/-- Digits are read as their value, leading zeros or not, and nothing else is read. -/
theorem digits?_eq_some_iff :
    digits? bound digits = some n ↔
      digits ≠ [] ∧ (∀ d ∈ digits, d.isDigit = true) ∧ value digits ≤ bound ∧
        value digits = n := by
  constructor
  · intro hread
    have hne : digits ≠ [] := by
      rintro rfl
      exact absurd hread (by simp [digits?])
    have hdigits : ∀ d ∈ digits, d.isDigit = true := by
      rw [← List.all_eq_true]
      by_contra hother
      exact absurd hread (by simp [digits?, hother])
    rw [digits?_of_forall hne hdigits, Option.ite_none_right_eq_some] at hread
    exact ⟨hne, hdigits, hread.1, Option.some.inj hread.2⟩
  · rintro ⟨hne, hdigits, hbound, rfl⟩
    rw [digits?_of_forall hne hdigits, if_pos hbound]

theorem isDigit_of_mem_render {d : Char} (hd : d ∈ render n) : d.isDigit = true :=
  Nat.isDigit_of_mem_toDigits (by decide) (by decide) hd

theorem value_render (n : Nat) : value (render n) = n :=
  Nat.ofDigitChars_toDigits (by decide) (by decide)

theorem render_ne_nil (n : Nat) : render n ≠ [] :=
  List.ne_nil_of_length_pos Nat.length_toDigits_pos

/-- One plus sign may stand before the digits. -/
theorem read?_eq_some_iff {s : Text} :
    read? bound s = some n ↔
      ∃ digits, (s = digits ∨ s = '+' :: digits) ∧ digits? bound digits = some n := by
  constructor
  · intro hread
    unfold read? at hread
    split at hread
    case h_1 rest => exact ⟨rest, Or.inr rfl, hread⟩
    case h_2 => exact ⟨s, Or.inl rfl, hread⟩
  · rintro ⟨digits, rfl | rfl, hread⟩
    · unfold read?
      split
      case h_1 rest =>
          have hplus := (digits?_eq_some_iff.mp hread).2.1 '+' List.mem_cons_self
          exact absurd hplus (by decide)
      case h_2 => exact hread
    · exact hread

/-- A number that is written is read back. -/
theorem read?_render (hbound : n ≤ bound) : read? bound (render n) = some n := by
  have hvalue := value_render n
  refine read?_eq_some_iff.mpr ⟨render n, Or.inl rfl, digits?_eq_some_iff.mpr ?_⟩
  exact ⟨render_ne_nil n, fun d hd => isDigit_of_mem_render hd, by rwa [hvalue], hvalue⟩

end Reroute.Numeral
