import Mathlib.Data.List.DropRight
import TlsSeed.Text.Blank

/-! # Texts without a visible character

Trimming looks at the ends of a text alone. What it leaves is empty exactly if no character of the
text, at its ends or between them, is other than white space.
-/

namespace TlsSeed.Text

theorem trim_eq (cs : List Char) :
    trim cs = (cs.dropWhile isBlankChar).rdropWhile isBlankChar := rfl

theorem trim_eq_nil_iff {cs : List Char} : trim cs = [] ↔ ∀ c ∈ cs, isBlankChar c = true := by
  -- The pass from the end sees what the pass from the front has left, which begins with no blank.
  rw [trim_eq, List.rdropWhile_eq_nil_iff, ← List.dropWhile_eq_nil_iff, List.dropWhile_idempotent,
    List.dropWhile_eq_nil_iff]

variable {s : String}

theorem isBlank_iff : isBlank s = true ↔ ∀ c ∈ s.toList, isBlankChar c = true := by
  rw [isBlank, List.isEmpty_iff, trim_eq_nil_iff]

theorem isBlank_eq_false_iff : isBlank s = false ↔ ∃ c ∈ s.toList, isBlankChar c = false := by
  rw [← Bool.not_eq_true, isBlank_iff]
  simp

end TlsSeed.Text
