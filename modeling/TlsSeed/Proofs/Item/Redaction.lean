import TlsSeed.Item.Record
import TlsSeed.Proofs.Text.Parts
import TlsSeed.Proofs.Text.Quoted
import TlsSeed.Proofs.Text.Utf8

/-! # What a shown record tells

A shown record tells its hostname and how many bytes each secret takes, and nothing else of it. No
hostname can imitate what stands behind it, for its closing quote is found in any case.
-/

namespace TlsSeed.Item.Record

open Text

variable {r₁ r₂ : Record}

/-- Two records have the same hostname and secrets of the same lengths in bytes. -/
structure LooksLike (r₁ r₂ : Record) : Prop where
  hostname : r₁.hostname = r₂.hostname
  cert : (Utf8.encode r₁.cert).length = (Utf8.encode r₂.cert).length
  key : (Utf8.encode r₁.key).length = (Utf8.encode r₂.key).length

/-- The characters of a shown record, given what stands before the hostname, between its parts and
after them. -/
def spelled (front toCert toKey back : List Char) (r : Record) : List Char :=
  front ++ '"' :: (Quoted.encode r.hostname.toList ++ '"' ::
    (toCert ++ ((toString r.cert.utf8ByteSize).toList ++ ' ' ::
      (toKey ++ ((toString r.key.utf8ByteSize).toList ++ ' ' :: back)))))

theorem length_encode (s : String) : (Utf8.encode s).length = s.utf8ByteSize := by
  rw [Utf8.encode_eq, Array.length_toList]
  rfl

theorem eq_of_size_spelled {m n : ℕ} {xs ys : List Char}
    (h : (toString m).toList ++ ' ' :: xs = (toString n).toList ++ ' ' :: ys) :
    m = n ∧ xs = ys := by
  have hs (k : ℕ) : ' ' ∉ (toString k).toList := Number.notMem_toString_nat rfl
  obtain ⟨hm, hr⟩ := eq_and_eq_of_first_mark (hs m) (hs n) h
  rw [String.toList_inj, Nat.toString_eq_repr, Nat.toString_eq_repr, Nat.repr_inj] at hm
  exact ⟨hm, hr⟩

theorem spelled_eq_iff {front toCert toKey back : List Char} :
    spelled front toCert toKey back r₁ = spelled front toCert toKey back r₂ ↔
      LooksLike r₁ r₂ := by
  constructor
  · intro h
    have h := (List.cons.inj (List.append_cancel_left h)).2
    obtain ⟨hn, h⟩ := Quoted.eq_and_eq_of_encode h
    obtain ⟨hc, h⟩ := eq_of_size_spelled (List.append_cancel_left h)
    obtain ⟨hk, -⟩ := eq_of_size_spelled (List.append_cancel_left h)
    rw [← length_encode, ← length_encode] at hc hk
    exact ⟨String.toList_inj.mp hn, hc, hk⟩
  · rintro ⟨hn, hc, hk⟩
    rw [length_encode, length_encode] at hc hk
    rw [spelled, spelled, hn, hc, hk]

theorem toList_flat (r : Record) : r.outline.flat.toList =
    spelled "CertificateRecord \x7b hostname: ".toList ", cert: <".toList
      "bytes>, key: <".toList "bytes> \x7d".toList r := by
  simp [outline, Outline.flat, Outline.flatEntries, redacted, Quoted.quote, spelled,
    String.intercalate_cons_cons, String.intercalate_singleton]

theorem toList_pretty (r : Record) : r.outline.pretty.toList =
    spelled "CertificateRecord \x7b\n    hostname: ".toList ",\n    cert: <".toList
      "bytes>,\n    key: <".toList "bytes>,\n\x7d".toList r := by
  simp [outline, Outline.pretty, Outline.tall, Outline.tallEntries, redacted, Quoted.quote, spelled,
    Outline.margin]

/-- Two shown records, both on one line or both over several, are the same text exactly if the
hostnames and the lengths of the secrets are the same. -/
theorem outlines_alike_iff (r₁ r₂ : Record) :
    (r₁.outline.flat = r₂.outline.flat ↔ LooksLike r₁ r₂) ∧
      (r₁.outline.pretty = r₂.outline.pretty ↔ LooksLike r₁ r₂) := by
  constructor
  · rw [← String.toList_inj, toList_flat, toList_flat, spelled_eq_iff]
  · rw [← String.toList_inj, toList_pretty, toList_pretty, spelled_eq_iff]

end TlsSeed.Item.Record
