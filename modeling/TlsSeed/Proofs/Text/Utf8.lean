import Mathlib.Tactic.IntervalCases
import TlsSeed.Text.Utf8

/-! # Encoding and decoding

Cutting bytes into pieces loses nothing, and the pieces of an encoded text are its characters. Bytes
therefore decode to a text exactly when they are its encoding, and the encoding is that of core.
-/

namespace TlsSeed.Text.Utf8

theorem toNat_ofNat {n : ℕ} (h : n.isValidChar) : (Char.ofNat n).toNat = n := by
  rw [Char.ofNat, dif_pos h]; rfl

theorem encodeChar_one {n : ℕ} (h : n < 0x80) : encodeChar (Char.ofNat n) = [.ofNat n] := by
  rw [encodeChar, toNat_ofNat (Or.inl (by omega))]
  exact if_pos h

theorem encodeChar_two {n : ℕ} (h : 0x80 ≤ n) (h' : n < 0x800) :
    encodeChar (Char.ofNat n) = [.ofNat (0xC0 + n / 64), .ofNat (0x80 + n % 64)] := by
  rw [encodeChar, toNat_ofNat (Or.inl (by omega))]
  simp only [if_neg (show ¬ n < 0x80 by omega), if_pos h']

theorem encodeChar_three {n : ℕ} (h : 0x800 ≤ n) (h' : n < 0x10000) (hv : n.isValidChar) :
    encodeChar (Char.ofNat n) =
      [.ofNat (0xE0 + n / 4096), .ofNat (0x80 + n / 64 % 64), .ofNat (0x80 + n % 64)] := by
  rw [encodeChar, toNat_ofNat hv]
  simp only [if_neg (show ¬ n < 0x80 by omega), if_neg (show ¬ n < 0x800 by omega), if_pos h']

theorem encodeChar_four {n : ℕ} (h : 0x10000 ≤ n) (h' : n < 0x110000) :
    encodeChar (Char.ofNat n) = [.ofNat (0xF0 + n / 262144), .ofNat (0x80 + n / 4096 % 64),
      .ofNat (0x80 + n / 64 % 64), .ofNat (0x80 + n % 64)] := by
  rw [encodeChar, toNat_ofNat (Or.inr ⟨by omega, h'⟩)]
  simp only [if_neg (show ¬ n < 0x80 by omega), if_neg (show ¬ n < 0x800 by omega),
    if_neg (show ¬ n < 0x10000 by omega)]

theorem first_one {n : ℕ} (h : n < 0x80) : first (.ofNat n) = ([.char (Char.ofNat n)], none) := by
  interval_cases n <;> rfl

theorem first_two {n : ℕ} (h : 0xC2 ≤ n) (h' : n ≤ 0xDF) :
    first (.ofNat n) = ([], some ⟨[.ofNat n], n - 0xC0, 0x80, 0xBF, 1⟩) := by
  interval_cases n <;> rfl

theorem first_three {n : ℕ} (h : 0xE0 ≤ n) (h' : n ≤ 0xEF) :
    first (.ofNat n) = ([], some ⟨[.ofNat n], n - 0xE0, if n = 0xE0 then 0xA0 else 0x80,
      if n = 0xED then 0x9F else 0xBF, 2⟩) := by
  interval_cases n <;> rfl

theorem first_four {n : ℕ} (h : 0xF0 ≤ n) (h' : n ≤ 0xF4) :
    first (.ofNat n) = ([], some ⟨[.ofNat n], n - 0xF0, if n = 0xF0 then 0x90 else 0x80,
      if n = 0xF4 then 0x8F else 0xBF, 3⟩) := by
  interval_cases n <;> rfl

theorem first_broken {n : ℕ} (h : 0x80 ≤ n ∧ n < 0xC2 ∨ 0xF4 < n) (hn : n < 256) :
    first (.ofNat n) = ([.broken [.ofNat n]], none) := by
  interval_cases n <;> first | rfl | omega

theorem toNat_tail {n : ℕ} (hn : n < 64) : (UInt8.ofNat (0x80 + n)).toNat = 0x80 + n :=
  UInt8.toNat_ofNat_of_lt' (show 0x80 + n < 256 by omega)

section Open

variable {seen : Bytes} {value m n : ℕ} {low high b : UInt8}

theorem next_last (hn : n < 64) (h : low.toNat ≤ 0x80 + n) (h' : 0x80 + n ≤ high.toNat) :
    (Open.mk seen value low high 1).next (.ofNat (0x80 + n)) =
      ([.char (Char.ofNat (value * 64 + n))], none) := by
  have hb := toNat_tail hn
  generalize UInt8.ofNat (0x80 + n) = b at hb
  rw [Open.next, if_pos (by simp [UInt8.le_iff_toNat_le, hb, h, h']), hb,
    show (0x80 + n) % 64 = n by omega]
  rfl

theorem next_more (hn : n < 64) (h : low.toNat ≤ 0x80 + n) (h' : 0x80 + n ≤ high.toNat) :
    (Open.mk seen value low high (m + 2)).next (.ofNat (0x80 + n)) =
      ([], some ⟨seen ++ [.ofNat (0x80 + n)], value * 64 + n, 0x80, 0xBF, m + 1⟩) := by
  have hb := toNat_tail hn
  generalize UInt8.ofNat (0x80 + n) = b at hb
  rw [Open.next, if_pos (by simp [UInt8.le_iff_toNat_le, hb, h, h']), hb,
    show (0x80 + n) % 64 = n by omega]
  rfl

theorem next_break {o : Open} (h : ¬ (o.low ≤ b ∧ b ≤ o.high)) :
    o.next b = (.broken o.seen :: (first b).1, (first b).2) := by
  rw [Open.next, if_neg (by simpa using h)]

theorem scan_last (bs : Bytes) (hn : n < 64) (h : low.toNat ≤ 0x80 + n)
    (h' : 0x80 + n ≤ high.toNat) :
    scan (some ⟨seen, value, low, high, 1⟩) (.ofNat (0x80 + n) :: bs) =
      .char (Char.ofNat (value * 64 + n)) :: scan none bs := by
  rw [scan, next_last hn h h']
  rfl

theorem scan_more (bs : Bytes) (hn : n < 64) (h : low.toNat ≤ 0x80 + n)
    (h' : 0x80 + n ≤ high.toNat) :
    scan (some ⟨seen, value, low, high, m + 2⟩) (.ofNat (0x80 + n) :: bs) =
      scan (some ⟨seen ++ [.ofNat (0x80 + n)], value * 64 + n, 0x80, 0xBF, m + 1⟩) bs := by
  rw [scan, next_more hn h h']
  rfl

theorem exists_tail (hl : 0x80 ≤ low.toNat) (hh : high.toNat ≤ 0xBF) (h : low ≤ b)
    (h' : b ≤ high) : ∃ n < 64, UInt8.ofNat (0x80 + n) = b := by
  rw [UInt8.le_iff_toNat_le] at h h'
  refine ⟨b.toNat - 0x80, by omega, ?_⟩
  rw [Nat.add_sub_cancel' (by omega), UInt8.ofNat_toNat]

end Open

theorem encodeChar_eq (c : Char) : encodeChar c = String.utf8EncodeChar c := by
  have hc : c.val.toNat < 0xD800 ∨ 0xDFFF < c.val.toNat ∧ c.val.toNat < 0x110000 := c.valid
  simp only [encodeChar, String.utf8EncodeChar, Char.toNat]
  generalize c.val.toNat = n at hc
  have h (m k : ℕ) (hm : m = k) : UInt8.ofNat m = UInt8.ofNat k := congrArg _ hm
  split_ifs <;> first
    | omega
    | simp only [List.cons.injEq, and_true]
  · exact ⟨h _ _ (by omega), h _ _ (by omega)⟩
  · exact ⟨h _ _ (by omega), h _ _ (by omega), h _ _ (by omega)⟩
  · exact ⟨h _ _ (by omega), h _ _ (by omega), h _ _ (by omega), h _ _ (by omega)⟩

/-- The encoding of a text is that of core. -/
theorem encode_eq (s : String) : encode s = s.toByteArray.data.toList := by
  rw [← String.utf8Encode_toList, List.utf8Encode, List.data_toByteArray, encode,
    ← funext encodeChar_eq]

theorem scan_encodeChar (c : Char) (bs : Bytes) :
    scan none (encodeChar c ++ bs) = .char c :: scan none bs := by
  have hv : c.toNat.isValidChar := c.valid
  rw [← Char.ofNat_toNat c]
  generalize c.toNat = n at hv
  have hn : n < 0xD800 ∨ 0xDFFF < n ∧ n < 0x110000 := hv
  rcases Nat.lt_or_ge n 0x80 with h₁ | h₁
  · rw [encodeChar_one h₁, List.singleton_append, scan, first_one h₁]
    rfl
  rcases Nat.lt_or_ge n 0x800 with h₂ | h₂
  · rw [encodeChar_two h₁ h₂, List.cons_append, List.singleton_append, scan,
      first_two (by omega) (by omega), List.nil_append,
      scan_last _ (by omega) (by simp) (by simp; omega)]
    congr 3; omega
  rcases Nat.lt_or_ge n 0x10000 with h₃ | h₃
  · rw [encodeChar_three h₂ h₃ hv, List.cons_append, List.cons_append, List.singleton_append, scan,
      first_three (by omega) (by omega), List.nil_append, scan_more _ (by omega),
      scan_last _ (by omega) (by simp) (by simp; omega)]
    · congr 3; omega
    · split_ifs <;> simp; omega
    · split_ifs <;> simp <;> omega
  · rw [encodeChar_four (by omega) (by omega), List.cons_append, List.cons_append,
      List.cons_append, List.singleton_append, scan, first_four (by omega) (by omega),
      List.nil_append, scan_more _ (by omega),
      scan_more _ (by omega) (by simp) (by simp; omega),
      scan_last _ (by omega) (by simp) (by simp; omega)]
    · congr 3; omega
    · split_ifs <;> simp; omega
    · split_ifs <;> simp <;> omega

/-- What a piece was cut from. -/
def Piece.bytes : Piece → Bytes
  | .char c => encodeChar c
  | .broken bs => bs

/-- A sequence that has begun as every character does: the bytes within its bounds, followed to the
last one, encode the number that they spell. -/
inductive Open.Sound : Open → Prop
  | last {seen : Bytes} {value : ℕ} {low high : UInt8} :
      0x80 ≤ low.toNat → high.toNat ≤ 0xBF →
      (∀ n < 64, low.toNat ≤ 0x80 + n → 0x80 + n ≤ high.toNat →
        encodeChar (Char.ofNat (value * 64 + n)) = seen ++ [.ofNat (0x80 + n)]) →
      Sound ⟨seen, value, low, high, 1⟩
  | more {seen : Bytes} {value m : ℕ} {low high : UInt8} :
      0x80 ≤ low.toNat → high.toNat ≤ 0xBF →
      (∀ n < 64, low.toNat ≤ 0x80 + n → 0x80 + n ≤ high.toNat →
        Sound ⟨seen ++ [.ofNat (0x80 + n)], value * 64 + n, 0x80, 0xBF, m + 1⟩) →
      Sound ⟨seen, value, low, high, m + 2⟩

theorem sound_two {n : ℕ} (h : 0xC2 ≤ n) (h' : n ≤ 0xDF) :
    (Open.mk [.ofNat n] (n - 0xC0) 0x80 0xBF 1).Sound := by
  refine .last (by simp) (by simp) fun x hx _ _ => ?_
  rw [encodeChar_two (by omega) (by omega), show 0xC0 + ((n - 0xC0) * 64 + x) / 64 = n by omega,
    show ((n - 0xC0) * 64 + x) % 64 = x by omega]
  rfl

theorem sound_three {n : ℕ} (h : 0xE0 ≤ n) (h' : n ≤ 0xEF) :
    (Open.mk [.ofNat n] (n - 0xE0) (if n = 0xE0 then 0xA0 else 0x80)
      (if n = 0xED then 0x9F else 0xBF) 2).Sound := by
  refine .more (by split_ifs <;> simp) (by split_ifs <;> simp) fun x hx hl hh => ?_
  refine .last (by simp) (by simp) fun y hy _ _ => ?_
  simp only [apply_ite UInt8.toNat, UInt8.reduceToNat] at hl hh
  generalize hv : ((n - 0xE0) * 64 + x) * 64 + y = v
  have hr : 0x800 ≤ v ∧ v < 0x10000 ∧ (v < 0xD800 ∨ 0xDFFF < v ∧ v < 0x110000) := by
    split_ifs at hl hh <;> omega
  rw [encodeChar_three hr.1 hr.2.1 hr.2.2, show 0xE0 + v / 4096 = n by omega,
    show v / 64 % 64 = x by omega, show v % 64 = y by omega]
  rfl

theorem sound_four {n : ℕ} (h : 0xF0 ≤ n) (h' : n ≤ 0xF4) :
    (Open.mk [.ofNat n] (n - 0xF0) (if n = 0xF0 then 0x90 else 0x80)
      (if n = 0xF4 then 0x8F else 0xBF) 3).Sound := by
  refine .more (by split_ifs <;> simp) (by split_ifs <;> simp) fun x hx hl hh => ?_
  refine .more (by simp) (by simp) fun y hy _ _ => ?_
  refine .last (by simp) (by simp) fun z hz _ _ => ?_
  simp only [apply_ite UInt8.toNat, UInt8.reduceToNat] at hl hh
  generalize hv : (((n - 0xF0) * 64 + x) * 64 + y) * 64 + z = v
  have hr : 0x10000 ≤ v ∧ v < 0x110000 := by
    split_ifs at hl hh <;> omega
  rw [encodeChar_four hr.1 hr.2, show 0xF0 + v / 262144 = n by omega,
    show v / 4096 % 64 = x by omega, show v / 64 % 64 = y by omega, show v % 64 = z by omega]
  rfl

/-- The bytes of the sequence that is open, if one is. -/
def begun (o : Option Open) : Bytes :=
  o.elim [] Open.seen

theorem first_spec (b : UInt8) :
    (first b).1.flatMap Piece.bytes ++ begun (first b).2 = [b] ∧ ∀ o ∈ (first b).2, o.Sound := by
  obtain ⟨n, hn, rfl⟩ : ∃ n < 256, UInt8.ofNat n = b := ⟨b.toNat, b.toNat_lt, UInt8.ofNat_toNat⟩
  by_cases h₁ : n < 0x80
  · rw [first_one h₁]
    simp [begun, Piece.bytes, encodeChar_one h₁]
  by_cases h₂ : 0xC2 ≤ n ∧ n ≤ 0xDF
  · rw [first_two h₂.1 h₂.2]
    simpa [begun] using sound_two h₂.1 h₂.2
  by_cases h₃ : 0xE0 ≤ n ∧ n ≤ 0xEF
  · rw [first_three h₃.1 h₃.2]
    simpa [begun] using sound_three h₃.1 h₃.2
  by_cases h₄ : 0xF0 ≤ n ∧ n ≤ 0xF4
  · rw [first_four h₄.1 h₄.2]
    simpa [begun] using sound_four h₄.1 h₄.2
  · rw [first_broken (by omega) hn]
    simp [begun, Piece.bytes]

theorem next_spec {o : Open} (h : o.Sound) (b : UInt8) :
    (o.next b).1.flatMap Piece.bytes ++ begun (o.next b).2 = o.seen ++ [b] ∧
      ∀ o' ∈ (o.next b).2, o'.Sound := by
  by_cases hb : o.low ≤ b ∧ b ≤ o.high
  · cases h with
    | last hl hh he =>
      obtain ⟨n, hn, rfl⟩ := exists_tail hl hh hb.1 hb.2
      simp only [UInt8.le_iff_toNat_le, toNat_tail hn] at hb
      rw [next_last hn hb.1 hb.2]
      simp [begun, Piece.bytes, he n hn hb.1 hb.2]
    | more hl hh hs =>
      obtain ⟨n, hn, rfl⟩ := exists_tail hl hh hb.1 hb.2
      simp only [UInt8.le_iff_toNat_le, toNat_tail hn] at hb
      rw [next_more hn hb.1 hb.2]
      simpa [begun] using hs n hn hb.1 hb.2
  · obtain ⟨hf, hs⟩ := first_spec b
    rw [next_break hb]
    exact ⟨by simp [Piece.bytes, ← hf], hs⟩

theorem flatMap_bytes_scan {o : Option Open} (h : ∀ p ∈ o, p.Sound) (bs : Bytes) :
    (scan o bs).flatMap Piece.bytes = begun o ++ bs := by
  induction bs generalizing o with
  | nil => cases o <;> simp [scan, begun, Piece.bytes]
  | cons b bs ih =>
    cases o with
    | none =>
      obtain ⟨hb, hs⟩ := first_spec b
      rw [scan, List.flatMap_append, ih hs, ← List.append_assoc, hb]
      rfl
    | some o =>
      obtain ⟨hb, hs⟩ := next_spec (h o rfl) b
      rw [scan, List.flatMap_append, ih hs, ← List.append_assoc, hb, List.append_assoc]
      rfl

/-- Nothing is lost when bytes are cut into pieces. -/
theorem flatMap_bytes_pieces (bs : Bytes) : (pieces bs).flatMap Piece.bytes = bs :=
  flatMap_bytes_scan (by simp) bs

/-- The first piece is a character exactly when its encoding comes first. -/
theorem encodeChar_prefix_iff {c : Char} {bs : Bytes} :
    encodeChar c <+: bs ↔ (pieces bs).head? = some (.char c) := by
  constructor
  · rintro ⟨rest, rfl⟩
    rw [pieces, scan_encodeChar]
    rfl
  · intro h
    obtain ⟨ps, hp⟩ := List.head?_eq_some_iff.mp h
    rw [← flatMap_bytes_pieces bs, hp, List.flatMap_cons]
    exact List.prefix_append ..

theorem pieces_encode (s : String) : pieces (encode s) = s.toList.map .char := by
  rw [encode]
  induction s.toList with
  | nil => rfl
  | cons c cs ih =>
    rw [List.flatMap_cons, pieces, scan_encodeChar, List.map_cons]
    exact congrArg _ ih

theorem mapM_char?_eq_some {ps : List Piece} {cs : List Char} :
    ps.mapM Piece.char? = some cs ↔ ps = cs.map .char := by
  induction ps generalizing cs with
  | nil => cases cs <;> simp
  | cons p ps ih =>
    cases p with
    | broken bs => cases cs <;> simp [Piece.char?]
    | char c =>
      simp only [List.mapM_cons, Piece.char?, Option.bind_eq_bind, Option.bind_some,
        Option.pure_def, Option.bind_eq_some_iff, ih]
      cases cs with
      | nil => simp
      | cons d cs => simp [and_comm]

/-- Bytes decode to a text exactly when they are its encoding. -/
theorem decode?_eq_some_iff {bs : Bytes} {s : String} : decode? bs = some s ↔ encode s = bs := by
  rw [decode?, Option.map_eq_some_iff]
  simp only [mapM_char?_eq_some]
  constructor
  · rintro ⟨cs, h, rfl⟩
    rw [← flatMap_bytes_pieces bs, h, encode, List.flatMap_map, String.toList_ofList]
    rfl
  · rintro rfl
    exact ⟨s.toList, pieces_encode s, String.ofList_toList⟩

/-- The bytes encode a text. -/
def IsText (bs : Bytes) : Prop :=
  ∃ t, encode t = bs

theorem isSome_decode?_iff {bs : Bytes} : (decode? bs).isSome ↔ IsText bs := by
  simp [Option.isSome_iff_exists, decode?_eq_some_iff, IsText]

theorem decode?_eq_none_iff {bs : Bytes} : decode? bs = none ↔ ¬ IsText bs := by
  rw [← isSome_decode?_iff, Bool.not_eq_true, Option.isSome_eq_false_iff, Option.isNone_iff_eq_none]

instance : DecidablePred IsText := fun _ => decidable_of_iff _ isSome_decode?_iff

@[simp] theorem decode?_encode (s : String) : decode? (encode s) = some s :=
  decode?_eq_some_iff.mpr rfl

@[simp] theorem lossy_encode (s : String) : lossy (encode s) = s := by
  rw [lossy, pieces_encode, List.map_map]
  simp [Function.comp_def, Piece.char?]

theorem encode_injective : Function.Injective encode := fun s t h => by
  rw [← lossy_encode s, h, lossy_encode]

end TlsSeed.Text.Utf8
