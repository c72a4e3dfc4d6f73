import TlsSeed.Proofs.Script
import TlsSeed.Proofs.Text.Utf8
import TlsSeed.Seed

/-! # What seeding does

Seeding ends in one of four ways: the certificate cannot be read, the key cannot be read, the put
fails, or it is acknowledged. Each way fixes the value, the trace and the state at the end. The
events that are logged are written out here, texts and all.
-/

namespace TlsSeed

open Item Text

variable {σ : Type}

namespace File

theorem textOf_eq_ok {bs : Bytes} {t : String} : textOf bs = .ok t ↔ Utf8.encode t = bs := by
  rw [textOf, ← Utf8.decode?_eq_some_iff]
  cases Utf8.decode? bs <;> simp

theorem textOf_eq_error {bs : Bytes} {f : Fault} :
    textOf bs = .error f ↔ f = .notText ∧ ∀ t, Utf8.encode t ≠ bs := by
  simp only [textOf, ne_eq, ← Utf8.decode?_eq_some_iff]
  cases Utf8.decode? bs <;> simp [eq_comm]

end File

namespace Outside

/-- The file under a path can be read and holds the encoding of a text. -/
def Holds (o : Outside σ) (s : σ) (path : File.Path) (t : String) : Prop :=
  (o.read s path).1 = .ok (Utf8.encode t)

/-- The file under a path cannot be read as a text: reading fails, or what is read encodes none. -/
def Fails (o : Outside σ) (s : σ) (path : File.Path) (f : File.Fault) : Prop :=
  (o.read s path).1 = .error f ∨
    f = .notText ∧ ∃ bs, (o.read s path).1 = .ok bs ∧ ∀ t, Utf8.encode t ≠ bs

variable {o : Outside σ} {s : σ} {path : File.Path}

theorem bind_textOf_eq_ok {t : String} :
    (o.read s path).1.bind File.textOf = .ok t ↔ o.Holds s path t := by
  rw [Holds]
  cases (o.read s path).1 with
  | error f => simp [Except.bind]
  | ok bs =>
    rw [Except.bind, File.textOf_eq_ok, Except.ok.injEq]
    exact eq_comm

theorem bind_textOf_eq_error {f : File.Fault} :
    (o.read s path).1.bind File.textOf = .error f ↔ o.Fails s path f := by
  rw [Fails]
  cases (o.read s path).1 with
  | error g => simp [Except.bind]
  | ok bs => simp [Except.bind, File.textOf_eq_error]

theorem holds_or_fails (o : Outside σ) (s : σ) (path : File.Path) :
    (∃ t, o.Holds s path t) ∨ ∃ f, o.Fails s path f := by
  simp only [← bind_textOf_eq_ok, ← bind_textOf_eq_error]
  cases (o.read s path).1.bind File.textOf <;> simp

theorem Holds.unique {t u : String} (h : o.Holds s path t) (h' : o.Holds s path u) : t = u :=
  Utf8.encode_injective (Except.ok.inj (h.symm.trans h'))

theorem Holds.not_fails {t : String} {f : File.Fault} (h : o.Holds s path t) :
    ¬ o.Fails s path f := by
  rw [← bind_textOf_eq_ok] at h
  rw [← bind_textOf_eq_error, h]
  simp

end Outside

/-! ## What is logged -/

/-- The event that tells of a put to come. -/
def startEvent : Log.Event :=
  { level := .info, target := "cert_seed::seeder", text := "Adding item...", isLocated := true }

/-- The event that tells what is put where. -/
def putEvent (t : Table) (hostname : String) : Log.Event :=
  { level := .debug, target := "cert_seed::certificate_table",
    text := "PUT " ++ hostname ++ " into " ++ t.name, isLocated := true }

/-- The event that tells of an acknowledgement, with all that it says. -/
def createdEvent (output : Store.PutOutput) : Log.Event :=
  { level := .info, target := "cert_seed::seeder",
    text := "DynamoDB table item created: " ++ output.outline.pretty, isLocated := true }

/-- The event that tells of a failure. -/
def failureEvent (e : SeedError) : Log.Event :=
  { level := .error, target := "cert_seed",
    text := (match e with
      | .read .. => "Could not read the certificate or key: "
      | .put _ => "Could not add the item to table: ") ++ e.message }

/-- What seeding logs, by what came of it. -/
def told (t : Table) (hostname : String) : Except SeedError Store.PutOutput → List Log.Event
  | .error (.read ..) => []
  | .error (.put _) => [startEvent, putEvent t hostname]
  | .ok output => [startEvent, putEvent t hostname, createdEvent output]

/-! ## Ways of seeding -/

section

variable (o : Outside σ) (t : Table) (hostname : String) (certPath keyPath : File.Path) (s : σ)

/-- The ways in which seeding can go. -/
inductive Seeding : Run σ (Except SeedError Store.PutOutput) → Prop
  | certFails {f : File.Fault} (hc : o.Fails s certPath f) :
      Seeding ⟨.error (.read certPath f), [.read certPath (o.read s certPath).1],
        (o.read s certPath).2⟩
  | keyFails {cert : String} {s₁ s₂ : σ} {f : File.Fault}
      (hc : o.Holds s certPath cert) (h₁ : s₁ = (o.read s certPath).2)
      (hk : o.Fails s₁ keyPath f) (h₂ : s₂ = (o.read s₁ keyPath).2) :
      Seeding ⟨.error (.read keyPath f),
        [.read certPath (o.read s certPath).1, .read keyPath (o.read s₁ keyPath).1], s₂⟩
  | putFails {cert key : String} {s₁ s₂ s₃ : σ} {e : Store.SendError}
      (hc : o.Holds s certPath cert) (h₁ : s₁ = (o.read s certPath).2)
      (hk : o.Holds s₁ keyPath key) (h₂ : s₂ = (o.read s₁ keyPath).2)
      (hp : o.put s₂ t.client (t.putOf ⟨hostname, cert, key⟩) = (.error e, s₃)) :
      Seeding ⟨.error (.put (.ofSend e)),
        [.read certPath (o.read s certPath).1, .read keyPath (o.read s₁ keyPath).1,
         .log startEvent, .log (putEvent t hostname),
         .put t.client (t.putOf ⟨hostname, cert, key⟩) (.error e)], s₃⟩
  | acknowledged {cert key : String} {s₁ s₂ s₃ : σ} {output : Store.PutOutput}
      (hc : o.Holds s certPath cert) (h₁ : s₁ = (o.read s certPath).2)
      (hk : o.Holds s₁ keyPath key) (h₂ : s₂ = (o.read s₁ keyPath).2)
      (hp : o.put s₂ t.client (t.putOf ⟨hostname, cert, key⟩) = (.ok output, s₃)) :
      Seeding ⟨.ok output,
        [.read certPath (o.read s certPath).1, .read keyPath (o.read s₁ keyPath).1,
         .log startEvent, .log (putEvent t hostname),
         .put t.client (t.putOf ⟨hostname, cert, key⟩) (.ok output),
         .log (createdEvent output)], s₃⟩

end

section

variable {o : Outside σ} {t : Table} {hostname : String} {certPath keyPath : File.Path} {s : σ}

theorem run_readText (path : File.Path) :
    (readText path).run o s =
      ⟨((o.read s path).1.bind File.textOf).mapError (SeedError.read path),
        [.read path (o.read s path).1], (o.read s path).2⟩ := rfl

theorem run_readText_holds {path : File.Path} {text : String} (h : o.Holds s path text) :
    (readText path).run o s = ⟨.ok text, [.read path (o.read s path).1], (o.read s path).2⟩ := by
  rw [run_readText, Outside.bind_textOf_eq_ok.mpr h]
  rfl

theorem run_readText_fails {path : File.Path} {f : File.Fault} (h : o.Fails s path f) :
    (readText path).run o s =
      ⟨.error (.read path f), [.read path (o.read s path).1], (o.read s path).2⟩ := by
  rw [run_readText, Outside.bind_textOf_eq_error.mpr h]
  rfl

theorem run_readRecord_certFails {f : File.Fault} (hc : o.Fails s certPath f) :
    (readRecord hostname certPath keyPath).run o s =
      ⟨.error (.read certPath f), [.read certPath (o.read s certPath).1],
        (o.read s certPath).2⟩ := by
  rw [readRecord, Script.bind_eq, Script.run_bind, run_readText_fails hc]
  rfl

theorem run_readRecord_keyFails {cert : String} {f : File.Fault} (hc : o.Holds s certPath cert)
    (hk : o.Fails (o.read s certPath).2 keyPath f) :
    (readRecord hostname certPath keyPath).run o s =
      ⟨.error (.read keyPath f), [.read certPath (o.read s certPath).1,
        .read keyPath (o.read (o.read s certPath).2 keyPath).1],
        (o.read (o.read s certPath).2 keyPath).2⟩ := by
  rw [readRecord, Script.bind_eq, Script.run_bind, run_readText_holds hc]
  simp only [Script.bind_eq, Script.run_bind, run_readText_fails hk]
  rfl

theorem run_readRecord_holds {cert key : String} (hc : o.Holds s certPath cert)
    (hk : o.Holds (o.read s certPath).2 keyPath key) :
    (readRecord hostname certPath keyPath).run o s =
      ⟨.ok ⟨hostname, cert, key⟩, [.read certPath (o.read s certPath).1,
        .read keyPath (o.read (o.read s certPath).2 keyPath).1],
        (o.read (o.read s certPath).2 keyPath).2⟩ := by
  rw [readRecord, Script.bind_eq, Script.run_bind, run_readText_holds hc]
  simp only [Script.bind_eq, Script.run_bind, run_readText_holds hk]
  rfl

theorem run_put (r : Record) :
    (t.put r).run o s = ⟨(o.put s t.client (t.putOf r)).1.mapError PutError.ofSend,
      [.log (putEvent t r.hostname), .put t.client (t.putOf r) (o.put s t.client (t.putOf r)).1],
      (o.put s t.client (t.putOf r)).2⟩ := rfl

end

/-- Seeding goes in one of these ways. -/
theorem seeding_run (o : Outside σ) (t : Table) (hostname : String)
    (certPath keyPath : File.Path) (s : σ) :
    Seeding o t hostname certPath keyPath s ((seed t hostname certPath keyPath).run o s) := by
  rw [seed, Script.bind_eq, Script.run_bind]
  obtain ⟨cert, hc⟩ | ⟨f, hc⟩ := o.holds_or_fails s certPath
  · obtain ⟨key, hk⟩ | ⟨f, hk⟩ := o.holds_or_fails (o.read s certPath).2 keyPath
    · rw [run_readRecord_holds hc hk]
      simp only [Script.say, Script.bind_eq, Script.run_bind, Script.run_report, run_put]
      rcases hp : o.put (o.read (o.read s certPath).2 keyPath).2 t.client
        (t.putOf ⟨hostname, cert, key⟩) with ⟨e | output, s₃⟩
      · exact .putFails hc rfl hk rfl hp
      · exact .acknowledged hc rfl hk rfl hp
    · rw [run_readRecord_keyFails hc hk]
      exact .keyFails hc rfl hk rfl
  · rw [run_readRecord_certFails hc]
    exact .certFails hc

namespace Seeding

variable {o : Outside σ} {t : Table} {hostname : String} {certPath keyPath : File.Path} {s : σ}
  {r : Run σ (Except SeedError Store.PutOutput)}

/-- Seeding puts nothing unless both files hold texts, and then their record, once. Its value is the
answer to that put. -/
theorem puts_cases (h : Seeding o t hostname certPath keyPath s r) :
    (r.puts = [] ∧ (∃ e, r.value = .error e) ∧
      ∀ cert key, o.Holds s certPath cert → ¬ o.Holds (o.read s certPath).2 keyPath key) ∨
    ∃ cert key answer, o.Holds s certPath cert ∧ o.Holds (o.read s certPath).2 keyPath key ∧
      r.puts = [(t.client, t.putOf ⟨hostname, cert, key⟩, answer)] ∧
      r.value = answer.mapError fun e => .put (.ofSend e) := by
  cases h with
  | certFails hc => exact .inl ⟨rfl, ⟨_, rfl⟩, fun cert key hc' => absurd hc hc'.not_fails⟩
  | keyFails hc h₁ hk =>
    subst h₁
    exact .inl ⟨rfl, ⟨_, rfl⟩, fun cert key _ hk' => hk'.not_fails hk⟩
  | putFails hc h₁ hk =>
    subst h₁
    exact .inr ⟨_, _, _, hc, hk, rfl, rfl⟩
  | acknowledged hc h₁ hk =>
    subst h₁
    exact .inr ⟨_, _, _, hc, hk, rfl, rfl⟩

theorem events_eq (h : Seeding o t hostname certPath keyPath s r) :
    r.events = told t hostname r.value := by
  cases h <;> rfl

/-- What the client reports of the put stands behind the events that announce it. -/
theorem reports_eq (h : Seeding o t hostname certPath keyPath s r) : r.reports =
    r.events.take 2 ++ r.puts.flatMap (fun x => x.2.1.notices x.1) ++ r.events.drop 2 := by
  rw [h.events_eq]
  cases h <;> simp [told, Run.reports, Run.puts, Effect.reports, Effect.put?, List.filterMap_cons]

end Seeding

end TlsSeed
