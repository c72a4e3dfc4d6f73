import TlsSeed.Proofs.Text.Utf8

/-! # Well-formed byte sequences

The bytes of a character hold the bits of its number behind marks that tell how many bytes there
are. A sequence is well-formed if it is a row of such characters, none longer than it has to be,
none a surrogate and none beyond the last code point. These sequences are the encodings of texts.
-/

namespace TlsSeed.Text.Utf8

/-- The bytes spell a number: the first tells how many follow, and each of these holds six bits. -/
inductive Spells : Bytes → ℕ → Prop
  | one {a : ℕ} (ha : a < 128) : Spells [.ofNat a] a
  | two {a b : ℕ} (ha : a < 32) (hb : b < 64) :
      Spells [.ofNat (0xC0 + a), .ofNat (0x80 + b)] (a * 64 + b)
  | three {a b c : ℕ} (ha : a < 16) (hb : b < 64) (hc : c < 64) :
      Spells [.ofNat (0xE0 + a), .ofNat (0x80 + b), .ofNat (0x80 + c)] ((a * 64 + b) * 64 + c)
  | four {a b c d : ℕ} (ha : a < 8) (hb : b < 64) (hc : c < 64) (hd : d < 64) :
      Spells [.ofNat (0xF0 + a), .ofNat (0x80 + b), .ofNat (0x80 + c), .ofNat (0x80 + d)]
        (((a * 64 + b) * 64 + c) * 64 + d)

/-- The least number for which so many bytes are needed. -/
def leastOf : ℕ → ℕ
  | 2 => 0x80
  | 3 => 0x800
  | 4 => 0x10000
  | _ => 0

/-- The bytes are a row of characters, with no overlong form, no surrogate and nothing above
U+10FFFF. -/
inductive WellFormed : Bytes → Prop
  | nil : WellFormed []
  | append {cs bs : Bytes} {n : ℕ} (spells : Spells cs n) (notOverlong : leastOf cs.length ≤ n)
      (notSurrogate : n < 0xD800 ∨ 0xDFFF < n) (inRange : n ≤ 0x10FFFF) (rest : WellFormed bs) :
      WellFormed (cs ++ bs)

theorem spells_encodeChar (c : Char) :
    Spells (encodeChar c) c.toNat ∧ leastOf (encodeChar c).length ≤ c.toNat := by
  have hv : c.toNat < 0xD800 ∨ 0xDFFF < c.toNat ∧ c.toNat < 0x110000 := c.valid
  rw [encodeChar]
  generalize c.toNat = n at hv
  split_ifs with h₁ h₂ h₃
  · exact ⟨.one h₁, Nat.zero_le n⟩
  · have hs := Spells.two (a := n / 64) (b := n % 64) (by omega) (by omega)
    rw [show n / 64 * 64 + n % 64 = n by omega] at hs
    exact ⟨hs, Nat.not_lt.mp h₁⟩
  · have hs := Spells.three (a := n / 4096) (b := n / 64 % 64) (c := n % 64) (by omega) (by omega)
      (by omega)
    rw [show (n / 4096 * 64 + n / 64 % 64) * 64 + n % 64 = n by omega] at hs
    exact ⟨hs, Nat.not_lt.mp h₂⟩
  · have hs := Spells.four (a := n / 262144) (b := n / 4096 % 64) (c := n / 64 % 64) (d := n % 64)
      (by omega) (by omega) (by omega) (by omega)
    rw [show ((n / 262144 * 64 + n / 4096 % 64) * 64 + n / 64 % 64) * 64 + n % 64 = n by omega]
      at hs
    exact ⟨hs, Nat.not_lt.mp h₃⟩

theorem Spells.encodeChar_eq {cs : Bytes} {n : ℕ} (h : Spells cs n) (ho : leastOf cs.length ≤ n)
    (hs : n < 0xD800 ∨ 0xDFFF < n) (hr : n ≤ 0x10FFFF) : encodeChar (Char.ofNat n) = cs := by
  have hv : n.isValidChar := hs.imp id fun h => ⟨h, by omega⟩
  -- The encoder takes the number apart by division, and finds the same bits.
  cases h with
  | one ha => exact encodeChar_one ha
  | @two a b ha hb =>
    rw [encodeChar_two ho (by omega), show (a * 64 + b) / 64 = a by omega,
      show (a * 64 + b) % 64 = b by omega]
  | @three a b c ha hb hc =>
    generalize hn : (a * 64 + b) * 64 + c = n at *
    rw [encodeChar_three ho (by omega) hv, show n / 4096 = a by omega,
      show n / 64 % 64 = b by omega, show n % 64 = c by omega]
  | @four a b c d ha hb hc hd =>
    generalize hn : ((a * 64 + b) * 64 + c) * 64 + d = n at *
    rw [encodeChar_four ho (by omega), show n / 262144 = a by omega,
      show n / 4096 % 64 = b by omega, show n / 64 % 64 = c by omega, show n % 64 = d by omega]

theorem wellFormed_encode (s : String) : WellFormed (encode s) := by
  rw [encode]
  induction s.toList with
  | nil => exact .nil
  | cons c cs ih =>
    have hv : c.toNat < 0xD800 ∨ 0xDFFF < c.toNat ∧ c.toNat < 0x110000 := c.valid
    obtain ⟨hs, ho⟩ := spells_encodeChar c
    rw [List.flatMap_cons]
    exact .append hs ho (hv.imp id And.left) (by omega) ih

theorem WellFormed.isText {bs : Bytes} (h : WellFormed bs) : IsText bs := by
  induction h with
  | nil => exact ⟨"", rfl⟩
  | @append cs bs n hs ho hn hr _ ih =>
    obtain ⟨t, rfl⟩ := ih
    refine ⟨String.ofList (Char.ofNat n :: t.toList), ?_⟩
    rw [encode, String.toList_ofList, List.flatMap_cons, hs.encodeChar_eq ho hn hr]
    rfl

/-- Texts are encoded as the well-formed sequences, and as all of them. -/
theorem wellFormed_iff {bs : Bytes} : WellFormed bs ↔ ∃ t, encode t = bs := by
  constructor
  · exact WellFormed.isText
  · rintro ⟨t, rfl⟩
    exact wellFormed_encode t

end TlsSeed.Text.Utf8
