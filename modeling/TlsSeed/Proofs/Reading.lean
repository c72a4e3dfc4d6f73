import TlsSeed.Proofs.Seed
import TlsSeed.Proofs.Text.WellFormed

/-! # Reading the files of a record

The two files become a record exactly if both can be read and both are well-formed, and then the
record holds their bytes as they are. Otherwise the first file that fails is named, with what is
wrong with it, and no file after it is read.
-/

namespace TlsSeed

open Item Text

variable {σ : Type}

/-- The reading of a file gave the well-formed bytes of a text. -/
def File.GivesText (answer : Except File.Fault Bytes) : Prop :=
  ∃ bs, answer = .ok bs ∧ Utf8.WellFormed bs

/-- What fails when a text is taken from what the reading of a file gave. -/
inductive File.FailsWith : Except File.Fault Bytes → File.Fault → Prop
  | unread (f : File.Fault) : FailsWith (.error f) f
  | malformed {bs : Bytes} (h : ¬ Utf8.WellFormed bs) : FailsWith (.ok bs) .notText

section

variable {o : Outside σ} {s : σ} {path certPath keyPath : File.Path} {hostname : String}
  {f : File.Fault}

theorem Outside.fails_iff : o.Fails s path f ↔ File.FailsWith (o.read s path).1 f := by
  rw [Outside.Fails]
  constructor
  · rintro (h | ⟨rfl, bs, h, hb⟩)
    · rw [h]
      exact .unread f
    · rw [h]
      exact .malformed fun hw => (hw.isText.elim hb)
  · generalize (o.read s path).1 = answer
    rintro (_ | hb)
    · exact .inl rfl
    · exact .inr ⟨rfl, _, rfl, fun t ht => hb (Utf8.wellFormed_iff.mpr ⟨t, ht⟩)⟩

theorem Outside.exists_holds_iff :
    (∃ t, o.Holds s path t) ↔ File.GivesText (o.read s path).1 := by
  constructor
  · rintro ⟨t, ht⟩
    exact ⟨Utf8.encode t, ht, Utf8.wellFormed_encode t⟩
  · rintro ⟨bs, hr, hw⟩
    obtain ⟨t, rfl⟩ := hw.isText
    exact ⟨t, hr⟩

theorem Outside.Fails.unique {g : File.Fault} (h : o.Fails s path f) (h' : o.Fails s path g) :
    f = g := by
  rw [← Outside.bind_textOf_eq_error] at h h'
  exact Except.error.inj (h.symm.trans h')

theorem readRecord_eq_ok_iff {r : Record} :
    ((readRecord hostname certPath keyPath).run o s).value = .ok r ↔
      r.hostname = hostname ∧ o.Holds s certPath r.cert ∧
        o.Holds (o.read s certPath).2 keyPath r.key := by
  obtain ⟨cert, hc⟩ | ⟨f, hc⟩ := o.holds_or_fails s certPath
  · obtain ⟨key, hk⟩ | ⟨f, hk⟩ := o.holds_or_fails (o.read s certPath).2 keyPath
    · rw [run_readRecord_holds hc hk]
      constructor
      · rintro ⟨⟩
        exact ⟨rfl, hc, hk⟩
      · rintro ⟨rfl, hc', hk'⟩
        rw [hc.unique hc', hk.unique hk']
    · rw [run_readRecord_keyFails hc hk]
      exact iff_of_false nofun fun h => h.2.2.not_fails hk
  · rw [run_readRecord_certFails hc]
    exact iff_of_false nofun fun h => h.2.1.not_fails hc

theorem readRecord_eq_error_iff {e : SeedError} :
    ((readRecord hostname certPath keyPath).run o s).value = .error e ↔
      (∃ f, o.Fails s certPath f ∧ e = .read certPath f) ∨
        (∃ t, o.Holds s certPath t) ∧
          ∃ f, o.Fails (o.read s certPath).2 keyPath f ∧ e = .read keyPath f := by
  obtain ⟨cert, hc⟩ | ⟨f, hc⟩ := o.holds_or_fails s certPath
  · have hn (g : File.Fault) : ¬ o.Fails s certPath g := hc.not_fails
    obtain ⟨key, hk⟩ | ⟨f, hk⟩ := o.holds_or_fails (o.read s certPath).2 keyPath
    · rw [run_readRecord_holds hc hk]
      refine iff_of_false nofun ?_
      rintro (⟨g, hg, -⟩ | ⟨-, g, hg, -⟩)
      · exact hn g hg
      · exact hk.not_fails hg
    · rw [run_readRecord_keyFails hc hk]
      constructor
      · rintro ⟨⟩
        exact .inr ⟨⟨cert, hc⟩, f, hk, rfl⟩
      · rintro (⟨g, hg, -⟩ | ⟨-, g, hg, rfl⟩)
        · exact absurd hg (hn g)
        · rw [hk.unique hg]
  · rw [run_readRecord_certFails hc]
    constructor
    · rintro ⟨⟩
      exact .inl ⟨f, hc, rfl⟩
    · rintro (⟨g, hg, rfl⟩ | ⟨⟨t, ht⟩, -⟩)
      · rw [hc.unique hg]
      · exact absurd hc ht.not_fails

/-- The key is read after the certificate if the certificate is a text. -/
theorem trace_readRecord_iff :
    (((readRecord hostname certPath keyPath).run o s).trace =
        [.read certPath (o.read s certPath).1] ↔ ∃ f, o.Fails s certPath f) ∧
      (((readRecord hostname certPath keyPath).run o s).trace =
        [.read certPath (o.read s certPath).1,
          .read keyPath (o.read (o.read s certPath).2 keyPath).1] ↔ ∃ t, o.Holds s certPath t) := by
  obtain ⟨cert, hc⟩ | ⟨f, hc⟩ := o.holds_or_fails s certPath
  · have hn : ¬ ∃ f, o.Fails s certPath f := fun ⟨_, hf⟩ => hc.not_fails hf
    obtain ⟨key, hk⟩ | ⟨f, hk⟩ := o.holds_or_fails (o.read s certPath).2 keyPath
    · rw [run_readRecord_holds hc hk]
      exact ⟨iff_of_false nofun hn, iff_of_true rfl ⟨cert, hc⟩⟩
    · rw [run_readRecord_keyFails hc hk]
      exact ⟨iff_of_false nofun hn, iff_of_true rfl ⟨cert, hc⟩⟩
  · rw [run_readRecord_certFails hc]
    exact ⟨iff_of_true rfl ⟨f, hc⟩, iff_of_false nofun fun ⟨_, ht⟩ => ht.not_fails hc⟩

end

/-- Reading two files for a record succeeds exactly if both give well-formed bytes, and then the
record has the hostname and these bytes. Otherwise the error is that of the first file that fails,
under its path as given and with its own failure, and the key is read only if the certificate did
not fail. -/
theorem readRecord_exact (o : Outside σ) (s : σ) (hostname : String)
    (certPath keyPath : File.Path) :
    let cert := o.read s certPath
    let key := o.read cert.2 keyPath
    let run := (readRecord hostname certPath keyPath).run o s
    ((∃ r, run.value = .ok r) ↔ File.GivesText cert.1 ∧ File.GivesText key.1) ∧
    (∀ r, run.value = .ok r ↔ r.hostname = hostname ∧ cert.1 = .ok (Utf8.encode r.cert) ∧
      key.1 = .ok (Utf8.encode r.key)) ∧
    (∀ e, run.value = .error e ↔
      (∃ f, File.FailsWith cert.1 f ∧ e = .read certPath f) ∨
        File.GivesText cert.1 ∧ ∃ f, File.FailsWith key.1 f ∧ e = .read keyPath f) ∧
    (run.trace = [.read certPath cert.1] ↔ ∃ f, File.FailsWith cert.1 f) ∧
    (run.trace = [.read certPath cert.1, .read keyPath key.1] ↔ File.GivesText cert.1) := by
  intro cert key run
  refine ⟨?_, ?_, ?_, ?_, ?_⟩
  · rw [← Outside.exists_holds_iff, ← Outside.exists_holds_iff]
    simp only [run, readRecord_eq_ok_iff]
    constructor
    · rintro ⟨r, -, hc, hk⟩
      exact ⟨⟨r.cert, hc⟩, r.key, hk⟩
    · rintro ⟨⟨cert, hc⟩, key, hk⟩
      exact ⟨⟨hostname, cert, key⟩, rfl, hc, hk⟩
  · intro r
    exact readRecord_eq_ok_iff
  · intro e
    simp only [cert, key, ← Outside.fails_iff, ← Outside.exists_holds_iff]
    exact readRecord_eq_error_iff
  · simp only [cert, ← Outside.fails_iff]
    exact trace_readRecord_iff.1
  · rw [← Outside.exists_holds_iff]
    exact trace_readRecord_iff.2

end TlsSeed
