import TlsSeed.Proofs.Program
import TlsSeed.Proofs.Store.Keeper

/-! # What a run tells of the files

Two runs that read different certificates and keys, but get the same answer from the store, tell the
same: they differ in what they put and in nothing that is logged, returned or printed.
-/

namespace TlsSeed

open CommandLine Store Text

variable {σ σ₁ σ₂ : Type}

namespace Store

/-- What a client reports of a put does not depend on the item. -/
theorem Put.notices_congr {p q : Put} (h : p.table = q.table) (c : Client) :
    p.notices c = q.notices c := by
  have hr := isOk_request_congr h c
  unfold notices
  cases hp : p.request c with
  | error e =>
    cases hq : q.request c with
    | error e' => rfl
    | ok r' => simp [hp, hq, Except.isOk, Except.toBool] at hr
  | ok r =>
    cases hq : q.request c with
    | error e' => simp [hp, hq, Except.isOk, Except.toBool] at hr
    | ok r' => cases Route.to c.endpointUrl <;> rfl

end Store

/-- Two reads that fail alike, or find texts in both files or in neither. -/
def File.Alike : Except Fault Bytes → Except Fault Bytes → Prop
  | .ok bs, .ok bs' => Utf8.IsText bs ↔ Utf8.IsText bs'
  | .error f, .error f' => f = f'
  | _, _ => False

/-- Two worlds in which the files of a seeding can be told apart by their contents alone. -/
structure Outside.Alike (o₁ : Outside σ₁) (s₁ : σ₁) (o₂ : Outside σ₂) (s₂ : σ₂)
    (certPath keyPath : File.Path) : Prop where
  cert : File.Alike (o₁.read s₁ certPath).1 (o₂.read s₂ certPath).1
  key : File.Alike (o₁.read (o₁.read s₁ certPath).2 keyPath).1
    (o₂.read (o₂.read s₂ certPath).2 keyPath).1

/-- The store gives attributes to a put only if it asks for them. -/
def Outside.Discreet (o : Outside σ) : Prop :=
  ∀ s c p output, (o.put s c p).1 = .ok output → p.returnOld = false → output.attributes = none

/-- What the store answers to two runs does not differ. -/
def Run.SameAnswers {α : Type} (r₁ : Run σ₁ α) (r₂ : Run σ₂ α) : Prop :=
  ∀ x₁ ∈ r₁.puts, ∀ x₂ ∈ r₂.puts, x₁.2.2 = x₂.2.2

/-- Two runs that cannot be told apart by what they return and report. -/
structure Run.Alike {α : Type} (r₁ : Run σ₁ α) (r₂ : Run σ₂ α) : Prop where
  value : r₁.value = r₂.value
  events : r₁.events = r₂.events
  reports : r₁.reports = r₂.reports

theorem File.Alike.textOf {a₁ a₂ : Except File.Fault Bytes} (h : File.Alike a₁ a₂) :
    (a₁.bind File.textOf).map (fun _ => ()) = (a₂.bind File.textOf).map (fun _ => ()) := by
  cases a₁ with
  | error f =>
    cases a₂ with
    | error f' => exact congrArg Except.error h
    | ok => exact h.elim
  | ok bs =>
    cases a₂ with
    | error => exact h.elim
    | ok bs' =>
      have hb : (Utf8.decode? bs).isSome = (Utf8.decode? bs').isSome := by
        rw [Bool.eq_iff_iff, Utf8.isSome_decode?_iff, Utf8.isSome_decode?_iff]
        exact h
      simp only [Except.bind, File.textOf]
      cases hd : Utf8.decode? bs <;> cases hd' : Utf8.decode? bs' <;> simp_all [Except.map]

/-- Why seeding does not come to its put. -/
def Outside.readError? (o : Outside σ) (s : σ) (certPath keyPath : File.Path) : Option SeedError :=
  match (o.read s certPath).1.bind File.textOf,
    (o.read (o.read s certPath).2 keyPath).1.bind File.textOf with
  | .error f, _ => some (.read certPath f)
  | .ok _, .error f => some (.read keyPath f)
  | .ok _, .ok _ => none

section

variable {o : Outside σ} {s : σ} {certPath keyPath : File.Path}

theorem Outside.Alike.readError? {o₁ : Outside σ₁} {s₁ : σ₁} {o₂ : Outside σ₂} {s₂ : σ₂}
    (h : Outside.Alike o₁ s₁ o₂ s₂ certPath keyPath) :
    o₁.readError? s₁ certPath keyPath = o₂.readError? s₂ certPath keyPath := by
  have hc := h.cert.textOf
  have hk := h.key.textOf
  unfold Outside.readError?
  grind [Except.map]

theorem Outside.readError?_certFails {f : File.Fault} (hc : o.Fails s certPath f) :
    o.readError? s certPath keyPath = some (.read certPath f) := by
  rw [Outside.readError?, bind_textOf_eq_error.mpr hc]

theorem Outside.readError?_keyFails {cert : String} {f : File.Fault} (hc : o.Holds s certPath cert)
    (hk : o.Fails (o.read s certPath).2 keyPath f) :
    o.readError? s certPath keyPath = some (.read keyPath f) := by
  rw [Outside.readError?, bind_textOf_eq_ok.mpr hc, bind_textOf_eq_error.mpr hk]

theorem Outside.readError?_holds {cert key : String} (hc : o.Holds s certPath cert)
    (hk : o.Holds (o.read s certPath).2 keyPath key) :
    o.readError? s certPath keyPath = none := by
  rw [Outside.readError?, bind_textOf_eq_ok.mpr hc, bind_textOf_eq_ok.mpr hk]

end

namespace Seeding

variable {o : Outside σ} {s : σ} {t : Table} {hostname : String} {certPath keyPath : File.Path}
  {r : Run σ (Except SeedError PutOutput)}

/-- What a seeding returns is told by the error of its reads or, if there is none, by the answer to
its put. -/
theorem value_cases (h : Seeding o t hostname certPath keyPath s r) :
    (∃ e, o.readError? s certPath keyPath = some e ∧ r.puts = [] ∧ r.value = .error e) ∨
    ∃ cert key answer, o.readError? s certPath keyPath = none ∧
      r.puts = [(t.client, t.putOf ⟨hostname, cert, key⟩, answer)] ∧
      r.value = answer.mapError (fun e => .put (.ofSend e)) := by
  cases h with
  | certFails hc =>
    exact .inl ⟨_, Outside.readError?_certFails hc, rfl, rfl⟩
  | keyFails hc h₁ hk =>
    subst h₁
    exact .inl ⟨_, Outside.readError?_keyFails hc hk, rfl, rfl⟩
  | putFails hc h₁ hk | acknowledged hc h₁ hk =>
    subst h₁
    exact .inr ⟨_, _, _, Outside.readError?_holds hc hk, rfl, rfl⟩

/-- Seedings in alike worlds cannot be told apart if they get the same answer. -/
theorem alike {o₁ : Outside σ₁} {s₁ : σ₁} {o₂ : Outside σ₂} {s₂ : σ₂}
    {r₁ : Run σ₁ (Except SeedError PutOutput)} {r₂ : Run σ₂ (Except SeedError PutOutput)}
    (h₁ : Seeding o₁ t hostname certPath keyPath s₁ r₁)
    (h₂ : Seeding o₂ t hostname certPath keyPath s₂ r₂)
    (hw : Outside.Alike o₁ s₁ o₂ s₂ certPath keyPath) (ha : r₁.SameAnswers r₂) : r₁.Alike r₂ := by
  obtain ⟨hv, hn⟩ : r₁.value = r₂.value ∧
      r₁.puts.flatMap (fun x => x.2.1.notices x.1) =
        r₂.puts.flatMap (fun x => x.2.1.notices x.1) := by
    have he := hw.readError?
    rcases h₁.value_cases with ⟨e₁, he₁, hp₁, hv₁⟩ | ⟨cert₁, key₁, a₁, he₁, hp₁, hv₁⟩
    · rcases h₂.value_cases with ⟨e₂, he₂, hp₂, hv₂⟩ | ⟨_, _, _, he₂, -⟩
      · obtain rfl : e₁ = e₂ := Option.some.inj (he₁.symm.trans (he.trans he₂))
        exact ⟨hv₁.trans hv₂.symm, by rw [hp₁, hp₂]⟩
      · simp [he₁, he₂] at he
    · rcases h₂.value_cases with ⟨_, he₂, -⟩ | ⟨cert₂, key₂, a₂, he₂, hp₂, hv₂⟩
      · simp [he₁, he₂] at he
      · rw [Run.SameAnswers, hp₁, hp₂] at ha
        obtain rfl : a₁ = a₂ := ha _ (List.mem_singleton_self _) _ (List.mem_singleton_self _)
        have ht : (t.putOf ⟨hostname, cert₁, key₁⟩).table =
            (t.putOf ⟨hostname, cert₂, key₂⟩).table := rfl
        refine ⟨hv₁.trans hv₂.symm, ?_⟩
        simp only [hp₁, hp₂, List.flatMap_cons, Put.notices_congr ht]
  have hl : r₁.events = r₂.events := by rw [h₁.events_eq, h₂.events_eq, hv]
  exact ⟨hv, hl, by rw [h₁.reports_eq, h₂.reports_eq, hl, hn]⟩

theorem returnOld_eq (h : Seeding o t hostname certPath keyPath s r) {c : Client} {p : Put}
    {answer : Except SendError PutOutput} (hm : (c, p, answer) ∈ r.puts) : p.returnOld = false := by
  rcases h.value_cases with ⟨_, _, hp, _⟩ | ⟨_, _, _, _, hp, _⟩
  · simp [hp] at hm
  · simp only [hp, List.mem_singleton, Prod.mk.injEq] at hm
    rw [hm.2.1]
    rfl

theorem attributes_eq_none (h : Seeding o t hostname certPath keyPath s r) (hd : o.Discreet)
    {output : PutOutput} (hv : r.value = .ok output) : output.attributes = none ∧
      r.events = [startEvent, putEvent t hostname,
        createdEvent { output with attributes := none }] := by
  cases h with
  | certFails | keyFails | putFails => simp at hv
  | acknowledged hc h₁ hk h₂ hp =>
    cases hv
    have ha := hd _ _ _ _ (congrArg Prod.fst hp) rfl
    refine ⟨ha, ?_⟩
    rw [← ha]
    rfl

end Seeding

namespace Program

theorem events_ofSeeding (r : Run σ (Except SeedError PutOutput)) :
    (ofSeeding r).events = r.events ++ toldAfter r.value := by
  simp [ofSeeding, Run.events, List.filterMap_map, Function.comp_def, Effect.event?]

theorem reports_ofSeeding (r : Run σ (Except SeedError PutOutput)) :
    (ofSeeding r).reports = r.reports ++ toldAfter r.value := by
  simp [ofSeeding, Run.reports, List.flatMap_map, Effect.reports]

theorem alike_ofSeeding {r₁ : Run σ₁ (Except SeedError PutOutput)}
    {r₂ : Run σ₂ (Except SeedError PutOutput)} (h : r₁.Alike r₂) :
    (ofSeeding r₁).Alike (ofSeeding r₂) where
  value := congrArg Outcome.seeded h.value
  events := by rw [events_ofSeeding, events_ofSeeding, h.events, h.value]
  reports := by rw [reports_ofSeeding, reports_ofSeeding, h.reports, h.value]

/-- Runs of the program in alike worlds cannot be told apart if they get the same answer. -/
theorem Running.alike {o₁ : Outside σ₁} {s₁ : σ₁} {o₂ : Outside σ₂} {s₂ : σ₂} {argv : List Bytes}
    {env : Environment} {r₁ : Run σ₁ Outcome} {r₂ : Run σ₂ Outcome}
    (h₁ : Running o₁ s₁ argv env r₁) (h₂ : Running o₂ s₂ argv env r₂)
    (hw : ∀ i, parse argv = .ok i → Outside.Alike o₁ s₁ o₂ s₂ i.certFile i.keyFile)
    (ha : r₁.SameAnswers r₂) : r₁.Alike r₂ := by
  cases h₁ with
  | halts hp =>
    cases h₂ with
    | halts hp' =>
      cases hp.symm.trans hp'
      exact ⟨rfl, rfl, rfl⟩
    | seeds hp' => cases hp.symm.trans hp'
  | seeds hp hs =>
    cases h₂ with
    | halts hp' => cases hp.symm.trans hp'
    | seeds hp' hs' =>
      cases hp.symm.trans hp'
      refine alike_ofSeeding (hs.alike hs' (hw _ hp) ?_)
      simpa only [Run.SameAnswers, puts_ofSeeding] using ha

end Program

namespace World.Plain

theorem discreet : outside.Discreet := by
  intro w c p output h hr
  by_cases ht : Shelf.Takes c p
  · cases h.symm.trans (Shelf.put_fst_of_takes w.2 ht hr)
    rfl
  · obtain ⟨e, he⟩ := (Shelf.put_of_not_takes w.2 ht).1
    cases h.symm.trans he

theorem answer_eq {hostname : String} {certPath keyPath : File.Path} {w : Plain}
    {r : Run Plain (Except SeedError PutOutput)}
    (h : Seeding outside table hostname certPath keyPath w r) : ∀ x ∈ r.puts, x.2.2 = .ok {} := by
  have ha (w : Plain) (record : Item.Record) :
      (outside.put w table.client (table.putOf record)).1 = .ok {} :=
    Shelf.put_fst_of_takes w.2 (takes_putOf record) rfl
  cases h with
  | certFails | keyFails => simp [Run.puts, Effect.put?]
  | putFails hc h₁ hk h₂ hp => cases (ha ..).symm.trans (congrArg Prod.fst hp)
  | acknowledged hc h₁ hk h₂ hp =>
    cases (ha ..).symm.trans (congrArg Prod.fst hp)
    simp [Run.puts, Effect.put?]

theorem value_eq {hostname cert key : String} {certPath keyPath : File.Path} {w : Plain}
    {r : Run Plain (Except SeedError PutOutput)}
    (h : Seeding outside table hostname certPath keyPath w r) (hc : outside.Holds w certPath cert)
    (hk : outside.Holds (outside.read w certPath).2 keyPath key) : r.value = .ok {} := by
  rcases h.puts_cases with ⟨-, -, hf⟩ | ⟨_, _, answer, -, -, hp, hv⟩
  · exact absurd hk (hf cert key hc)
  · have ha := answer_eq h
    rw [hp] at ha
    obtain rfl : answer = .ok {} := ha _ (List.mem_singleton_self _)
    exact hv

end World.Plain

/-- Private material has no influence on what is returned, logged or printed, and nothing of an item
that is overwritten comes back from the store. -/
theorem runs_alike (o₁ : Outside σ₁) (s₁ : σ₁) (o₂ : Outside σ₂) (s₂ : σ₂) :
    (∀ t hostname certPath keyPath,
      let r₁ := (seed t hostname certPath keyPath).run o₁ s₁
      let r₂ := (seed t hostname certPath keyPath).run o₂ s₂
      Outside.Alike o₁ s₁ o₂ s₂ certPath keyPath → r₁.SameAnswers r₂ →
        r₁.value = r₂.value ∧ r₁.events = r₂.events ∧ r₁.reports = r₂.reports) ∧
    (∀ argv env,
      let r₁ := (Program.script argv env).run o₁ s₁
      let r₂ := (Program.script argv env).run o₂ s₂
      (∀ i, parse argv = .ok i → Outside.Alike o₁ s₁ o₂ s₂ i.certFile i.keyFile) →
      r₁.SameAnswers r₂ →
        r₁.value = r₂.value ∧ r₁.events = r₂.events ∧
        Program.seen argv env r₁ = Program.seen argv env r₂) ∧
    ∀ t hostname certPath keyPath,
      let r := (seed t hostname certPath keyPath).run o₁ s₁
      (∀ c p answer, (c, p, answer) ∈ r.puts → p.returnOld = false) ∧
      (o₁.Discreet → ∀ output, r.value = .ok output → output.attributes = none ∧
        r.events = [startEvent, putEvent t hostname,
          createdEvent { output with attributes := none }]) := by
  refine ⟨?_, ?_, ?_⟩
  · intro t hostname certPath keyPath r₁ r₂ hw ha
    have h : r₁.Alike r₂ := (seeding_run ..).alike (seeding_run ..) hw ha
    exact ⟨h.value, h.events, h.reports⟩
  · intro argv env r₁ r₂ hw ha
    have h : r₁.Alike r₂ := (Program.running_run ..).alike (Program.running_run ..) hw ha
    refine ⟨h.value, h.events, ?_⟩
    simp only [Program.seen, h.value, h.reports]
  · intro t hostname certPath keyPath r
    have hs : Seeding o₁ t hostname certPath keyPath s₁ r := seeding_run ..
    exact ⟨fun c p answer => hs.returnOld_eq, fun hd output => hs.attributes_eq_none hd⟩

open World.Plain in
theorem runs_alike_plain :
    let w₁ := ofFiles (Utf8.encode "cert") (Utf8.encode "key") {} rfl
    let w₂ := ofFiles (Utf8.encode "other cert") (Utf8.encode "other key")
      { items := [⟨table.name, "a.test", [("key", .string "old key")]⟩] } rfl
    let r₁ := (seed table "a.test" certPath keyPath).run outside w₁
    let r₂ := (seed table "a.test" certPath keyPath).run outside w₂
    r₁.value = r₂.value ∧ r₁.events = r₂.events ∧ r₁.reports = r₂.reports ∧
      ∃ output, r₁.value = .ok output ∧ output.attributes = none := by
  intro w₁ w₂ r₁ r₂
  have hw : Outside.Alike outside w₁ outside w₂ certPath keyPath :=
    ⟨⟨fun _ => ⟨_, rfl⟩, fun _ => ⟨_, rfl⟩⟩, ⟨fun _ => ⟨_, rfl⟩, fun _ => ⟨_, rfl⟩⟩⟩
  have ha : r₁.SameAnswers r₂ := by
    intro x₁ hx₁ x₂ hx₂
    rw [answer_eq (seeding_run ..) x₁ hx₁, answer_eq (seeding_run ..) x₂ hx₂]
  have h := runs_alike outside w₁ outside w₂
  obtain ⟨hv, he, hr⟩ := h.1 table "a.test" certPath keyPath hw ha
  have ho : r₁.value = .ok {} := value_eq (seeding_run ..) rfl rfl
  exact ⟨hv, he, hr, {}, ho, ((h.2.2 table "a.test" certPath keyPath).2 discreet {} ho).1⟩

end TlsSeed
