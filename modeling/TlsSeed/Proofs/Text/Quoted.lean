import TlsSeed.Proofs.Text.Numeral
import TlsSeed.Text.Quoted

/-! # Reading quoted texts

What stands between the quotes can be read back character by character, whatever follows. So the
closing quote is never taken for one of the text, and two quoted texts with something after them are
equal only if both the texts and what follows are.
-/

namespace TlsSeed.Text.Quoted

open Number

/-- The character for which a letter stands after a backslash. -/
def letter? : Char → Option Char
  | '0' => some '\x00'
  | 't' => some '\t'
  | 'r' => some '\r'
  | 'n' => some '\n'
  | '"' => some '"'
  | '\\' => some '\\'
  | _ => none

/-- Reads back the first character of what stands between quotes, and gives what is left. -/
def readChar? : List Char → Option (Char × List Char)
  | [] => none
  | '"' :: _ => none
  | '\\' :: 'u' :: '\x7b' :: cs =>
    (hexNumber? (cs.takeWhile (· != '\x7d'))).map fun n =>
      (Char.ofNat n, (cs.dropWhile (· != '\x7d')).tail)
  | '\\' :: e :: cs => (letter? e).map (·, cs)
  | c :: cs => some (c, cs)

theorem readChar?_letter {c e : Char} (h : letter? e = some c) (rest : List Char) :
    readChar? ('\\' :: e :: rest) = some (c, rest) := by
  rw [readChar?, h]
  · rfl
  · rintro cs rfl
    exact nomatch h

theorem readChar?_number (c : Char) (rest : List Char) :
    readChar? ('\\' :: 'u' :: '\x7b' :: (Nat.toDigits 16 c.toNat ++ '\x7d' :: rest)) =
      some (c, rest) := by
  have hd : ∀ d ∈ Nat.toDigits 16 c.toNat, (d != '\x7d') = true := by
    intro d hd
    rw [bne_iff_ne]
    rintro rfl
    exact notMem_toDigits rfl hd
  simp [readChar?, List.takeWhile_append_of_pos hd, List.dropWhile_append_of_pos hd,
    hexNumber?_toDigits]

theorem readChar?_plain {c : Char} (hq : c ≠ '"') (hb : c ≠ '\\') (rest : List Char) :
    readChar? (c :: rest) = some (c, rest) := by
  unfold readChar?
  split <;> simp_all

theorem readChar?_encodeChar (c : Char) (rest : List Char) :
    readChar? (encodeChar c ++ rest) = some (c, rest) := by
  unfold encodeChar
  split_ifs with h₀ ht hr hn hq hb hu
  · subst h₀
    exact readChar?_letter rfl rest
  · subst ht
    exact readChar?_letter rfl rest
  · subst hr
    exact readChar?_letter rfl rest
  · subst hn
    exact readChar?_letter rfl rest
  · subst hq
    exact readChar?_letter rfl rest
  · subst hb
    exact readChar?_letter rfl rest
  · simpa using readChar?_number c rest
  · exact readChar?_plain hq hb rest

theorem readChar?_encode_cons (c : Char) (cs rest : List Char) :
    readChar? (encode (c :: cs) ++ rest) = some (c, encode cs ++ rest) := by
  rw [encode, List.flatMap_cons, List.append_assoc, readChar?_encodeChar]
  rfl

theorem readChar?_encode_nil (rest : List Char) : readChar? (encode [] ++ '"' :: rest) = none :=
  rfl

/-- The closing quote is found, whatever the texts and whatever follows it. -/
theorem eq_and_eq_of_encode {cs ds xs ys : List Char}
    (h : encode cs ++ '"' :: xs = encode ds ++ '"' :: ys) : cs = ds ∧ xs = ys := by
  induction cs generalizing ds with
  | nil =>
    cases ds with
    | nil => exact ⟨rfl, (List.cons.inj h).2⟩
    | cons d ds =>
      -- A character is read from the one side and none from the other.
      have hr := congrArg readChar? h
      rw [readChar?_encode_nil, readChar?_encode_cons] at hr
      exact nomatch hr
  | cons c cs ih =>
    have hr := congrArg readChar? h
    rw [readChar?_encode_cons] at hr
    cases ds with
    | nil => exact nomatch hr
    | cons d ds =>
      rw [readChar?_encode_cons] at hr
      obtain ⟨rfl, hrest⟩ := Prod.mk.inj (Option.some.inj hr)
      obtain ⟨rfl, rfl⟩ := ih hrest
      exact ⟨rfl, rfl⟩

end TlsSeed.Text.Quoted
