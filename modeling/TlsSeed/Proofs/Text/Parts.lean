import Mathlib.Data.List.Basic

/-! # Parts of a text

A text that is put together from parts can be taken apart again where a mark stands that one of the
parts does not hold, and a text is known to begin as its first part does.
-/

namespace TlsSeed.Text

section

variable {α : Type} {a : α} {xs xs' ys ys' : List α}

/-- A mark that neither beginning holds divides two rows in the same way. -/
theorem eq_and_eq_of_first_mark (hx : a ∉ xs) (hx' : a ∉ xs')
    (h : xs ++ a :: ys = xs' ++ a :: ys') : xs = xs' ∧ ys = ys' := by
  rcases List.append_eq_append_iff.mp h with ⟨zs, hz, h⟩ | ⟨zs, hz, h⟩
  · cases zs with
    | nil =>
      rw [List.append_nil] at hz
      exact ⟨hz.symm, (List.cons.inj h).2⟩
    | cons z zs =>
      obtain rfl := (List.cons.inj h).1
      exact absurd (hz ▸ List.mem_append_cons_self) hx'
  · cases zs with
    | nil =>
      rw [List.append_nil] at hz
      exact ⟨hz, (List.cons.inj h).2.symm⟩
    | cons z zs =>
      obtain rfl := (List.cons.inj h).1
      exact absurd (hz ▸ List.mem_append_cons_self) hx

/-- A mark that neither end holds divides two rows in the same way. -/
theorem eq_and_eq_of_last_mark (hy : a ∉ ys) (hy' : a ∉ ys')
    (h : xs ++ a :: ys = xs' ++ a :: ys') : xs = xs' ∧ ys = ys' := by
  have hr := congrArg List.reverse h
  simp only [List.reverse_append, List.reverse_cons, List.append_assoc, List.singleton_append]
    at hr
  rw [← List.mem_reverse] at hy hy'
  obtain ⟨h₁, h₂⟩ := eq_and_eq_of_first_mark hy hy' hr
  exact ⟨List.reverse_inj.mp h₂, List.reverse_inj.mp h₁⟩

theorem bne_of_notMem [BEq α] [LawfulBEq α] (h : a ∉ xs) : ∀ x ∈ xs, (x != a) = true := by
  intro x hx
  rw [bne_iff_ne]
  rintro rfl
  exact h hx

end

theorem take_toList_append {front : String} {n : ℕ} (h : n ≤ front.toList.length)
    (back : String) : (front ++ back).toList.take n = front.toList.take n := by
  rw [String.toList_append, List.take_append_of_le_length h]

/-- The text ends with another. -/
def EndsWith (s t : String) : Prop :=
  ∃ front, s = front ++ t

theorem EndsWith.refl (s : String) : EndsWith s s :=
  ⟨"", String.empty_append.symm⟩

theorem EndsWith.trans {s t u : String} (h : EndsWith s t) (h' : EndsWith t u) : EndsWith s u := by
  obtain ⟨x, rfl⟩ := h
  obtain ⟨y, rfl⟩ := h'
  exact ⟨x ++ y, (String.append_assoc ..).symm⟩

instance : Trans EndsWith EndsWith EndsWith := ⟨EndsWith.trans⟩

end TlsSeed.Text
