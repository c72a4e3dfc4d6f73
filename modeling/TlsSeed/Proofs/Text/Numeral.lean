import Mathlib
import TlsSeed.Number.Hexadecimal

/-! # Numerals inside a text

A row of hexadecimal digits spells the number that it was written for. A decimal numeral holds
nothing but digits, with a hyphen for a negative number.
-/

namespace TlsSeed

namespace Number

variable {n : ℕ} {c : Char}

theorem hexDigit?_digitChar (h : n < 16) : hexDigit? n.digitChar = some n := by
  interval_cases n <;> rfl

theorem hexNumber?_concat (cs : List Char) (c : Char) :
    hexNumber? (cs ++ [c]) = (hexNumber? cs).bind fun n => (hexDigit? c).map (16 * n + ·) := by
  simp [hexNumber?, List.foldlM_append]

theorem hexNumber?_toDigits (n : ℕ) : hexNumber? (Nat.toDigits 16 n) = some n := by
  induction n using Nat.strongRecOn with
  | ind n ih =>
    rcases Nat.lt_or_ge n 16 with h | h
    · rw [Nat.toDigits_of_lt_base h, ← List.nil_append [_], hexNumber?_concat,
        hexDigit?_digitChar h]
      simp [hexNumber?]
    · have hm : n % 16 < 16 := Nat.mod_lt n (by decide)
      rw [Nat.toDigits_of_base_le (by decide) h, hexNumber?_concat, ih (n / 16) (by omega),
        hexDigit?_digitChar hm]
      exact congrArg some (Nat.div_add_mod n 16)

theorem notMem_toDigits (hc : (hexDigit? c).isNone) : c ∉ Nat.toDigits 16 n := by
  induction n using Nat.strongRecOn with
  | ind n ih =>
    have hd (m : ℕ) (h : m < 16) : c ≠ m.digitChar := by
      rintro rfl
      rw [hexDigit?_digitChar h] at hc
      exact nomatch hc
    rcases Nat.lt_or_ge n 16 with h | h
    · rw [Nat.toDigits_of_lt_base h, List.mem_singleton]
      exact hd n h
    · rw [Nat.toDigits_of_base_le (by decide) h, List.mem_append, List.mem_singleton, not_or]
      exact ⟨ih (n / 16) (by omega), hd _ (Nat.mod_lt n (by decide))⟩

theorem notMem_toString_nat (hc : c.isDigit = false) : c ∉ (toString n).toList := by
  rw [Nat.toString_eq_repr, Nat.toList_repr]
  intro h
  rw [Nat.isDigit_of_mem_toDigits (by decide) (by decide) h] at hc
  exact absurd hc (by decide)

theorem notMem_toString_int {z : ℤ} (hc : c.isDigit = false) (hm : c ≠ '-') :
    c ∉ (toString z).toList := by
  cases z with
  | ofNat n => exact notMem_toString_nat hc
  | negSucc n =>
    change c ∉ ("-" ++ toString (n + 1)).toList
    rw [String.toList_append, List.mem_append, not_or]
    exact ⟨by simpa using hm, notMem_toString_nat hc⟩

end Number

end TlsSeed
