import TlsSeed.Proofs.Item.Record
import TlsSeed.Proofs.Seed
import TlsSeed.Proofs.Store.Keeper

/-! # Histories

A history is a row of calls of seeding. Between two calls anything outside may change but what the
store holds. What it holds under a table and a hostname in the end was written by the last call
there whose put was applied.
-/

namespace TlsSeed

open Item Store

variable {σ : Type}

/-- A call of seeding, with the state outside in which it begins. -/
structure Call (σ : Type) where
  table : Table
  hostname : String
  certPath : File.Path
  keyPath : File.Path
  start : σ

namespace Call

def run (o : Outside σ) (c : Call σ) : Run σ (Except SeedError PutOutput) :=
  (seed c.table c.hostname c.certPath c.keyPath).run o c.start

/-- The call is for a hostname of a table. -/
def IsAt (table hostname : String) (c : Call σ) : Prop :=
  c.table.name = table ∧ c.hostname = hostname

variable {o : Outside σ}

/-- The call finds two texts in its files, and the store applies its put of them. -/
structure Writes (k : Keeper o) (c : Call σ) (cert key : String) : Prop where
  holds_cert : o.Holds c.start c.certPath cert
  holds_key : o.Holds (o.read c.start c.certPath).2 c.keyPath key
  applies : k.Applies (o.read (o.read c.start c.certPath).2 c.keyPath).2 c.table.client
    (c.table.putOf ⟨c.hostname, cert, key⟩)

variable {k : Keeper o} {c : Call σ} {cert key : String}

theorem seeding (o : Outside σ) (c : Call σ) :
    Seeding o c.table c.hostname c.certPath c.keyPath c.start (c.run o) :=
  seeding_run ..

theorem held_reads (k : Keeper o) (c : Call σ) :
    k.held (o.read (o.read c.start c.certPath).2 c.keyPath).2 = k.held c.start := by
  rw [k.held_read, k.held_read]

theorem final_eq (hc : o.Holds c.start c.certPath cert)
    (hk : o.Holds (o.read c.start c.certPath).2 c.keyPath key) :
    (c.run o).final = (o.put (o.read (o.read c.start c.certPath).2 c.keyPath).2 c.table.client
      (c.table.putOf ⟨c.hostname, cert, key⟩)).2 := by
  have hs := c.seeding o
  generalize c.run o = r at hs ⊢
  cases hs with
  | certFails hf => exact absurd hf hc.not_fails
  | keyFails _ h₁ hf => exact absurd (h₁ ▸ hf) hk.not_fails
  | putFails hc' h₁ hk' h₂ hp | acknowledged hc' h₁ hk' h₂ hp =>
    subst h₁ h₂
    obtain rfl := hc.unique hc'
    obtain rfl := hk.unique hk'
    rw [hp]

theorem Writes.held_final (h : c.Writes k cert key) :
    k.held (c.run o).final =
      (k.held c.start).replace (c.table.putOf ⟨c.hostname, cert, key⟩) := by
  rw [final_eq h.holds_cert h.holds_key, k.held_put h.applies, held_reads]

theorem held_final_of_not_writes (h : ∀ cert key, ¬ c.Writes k cert key) :
    k.held (c.run o).final = k.held c.start := by
  have hs := c.seeding o
  generalize c.run o = r at hs ⊢
  cases hs with
  | certFails => exact k.held_read ..
  | keyFails _ h₁ _ h₂ => rw [h₂, h₁, k.held_read, k.held_read]
  | putFails hc h₁ hk h₂ hp | acknowledged hc h₁ hk h₂ hp =>
    subst h₁ h₂
    have hd := k.held_drop fun ha => h _ _ ⟨hc, hk, ha⟩
    rwa [hp, held_reads] at hd

theorem writes_of_ok {output : PutOutput} (h : (c.run o).value = .ok output) :
    ∃ cert key, c.Writes k cert key := by
  have hs := c.seeding o
  generalize c.run o = r at hs h
  cases hs with
  | certFails | keyFails | putFails => simp at h
  | acknowledged hc h₁ hk h₂ hp =>
    subst h₁ h₂
    exact ⟨_, _, hc, hk, k.applies_of_ok (congrArg Prod.fst hp)⟩

theorem not_writes_of_read {path : File.Path} {f : File.Fault}
    (h : (c.run o).value = .error (.read path f)) (cert key : String) :
    ¬ c.Writes k cert key := by
  intro hw
  have hs := c.seeding o
  generalize c.run o = r at hs h
  cases hs with
  | certFails hf => exact hw.holds_cert.not_fails hf
  | keyFails _ h₁ hf => exact hw.holds_key.not_fails (h₁ ▸ hf)
  | putFails | acknowledged => simp at h

end Call

variable {o : Outside σ}

/-- Calls one after another, from contents of the store to contents of the store. Each begins in a
state that may differ from the one in which the call before it ended, but holds the same. -/
inductive History (k : Keeper o) : Contents → List (Call σ) → Contents → Prop
  | nil (held : Contents) : History k held [] held
  | cons (c : Call σ) {calls : List (Call σ)} {held : Contents}
      (h : History k (k.held (c.run o).final) calls held) :
      History k (k.held c.start) (c :: calls) held

/-- No call writes under a table and a hostname. -/
def Untouched (k : Keeper o) (table hostname : String) (calls : List (Call σ)) : Prop :=
  ∀ c ∈ calls, c.IsAt table hostname → ∀ cert key, ¬ c.Writes k cert key

/-- The last call that writes under a table and a hostname, with what it writes. -/
def LastWrite (k : Keeper o) (table hostname : String) (calls : List (Call σ)) (c : Call σ)
    (cert key : String) : Prop :=
  ∃ before after, calls = before ++ c :: after ∧ c.IsAt table hostname ∧ c.Writes k cert key ∧
    Untouched k table hostname after

variable {k : Keeper o} {table hostname : String}

/-- A call leaves alone whatever is not under its own table and hostname. -/
theorem Call.held_final_of_not_isAt {c : Call σ} (h : ¬ c.IsAt table hostname) :
    k.held (c.run o).final table hostname = k.held c.start table hostname := by
  by_cases hw : ∃ cert key, c.Writes k cert key
  · obtain ⟨cert, key, hw⟩ := hw
    rw [hw.held_final]
    refine Contents.replace_of_ne ?_
    rintro ⟨ht, hh⟩
    exact h ⟨ht, Option.some.inj hh⟩
  · push Not at hw
    rw [held_final_of_not_writes hw]

theorem Call.Writes.held_final_self {c : Call σ} {cert key : String} (hw : c.Writes k cert key)
    (h : c.IsAt table hostname) :
    k.held (c.run o).final table hostname = [Record.toItem ⟨hostname, cert, key⟩] := by
  obtain ⟨rfl, rfl⟩ := h
  rw [hw.held_final]
  exact Contents.replace_self rfl

namespace History

variable {held held' : Contents} {calls : List (Call σ)}

theorem held_of_untouched (h : History k held calls held')
    (hu : Untouched k table hostname calls) : held' table hostname = held table hostname := by
  induction h with
  | nil => rfl
  | @cons c calls held' h ih =>
    refine (ih fun c' hm => hu c' (List.mem_cons_of_mem c hm)).trans ?_
    by_cases ha : c.IsAt table hostname
    · rw [Call.held_final_of_not_writes (hu c List.mem_cons_self ha)]
    · exact Call.held_final_of_not_isAt ha

theorem held_of_lastWrite {c : Call σ} {cert key : String} (h : History k held calls held')
    (hl : LastWrite k table hostname calls c cert key) :
    held' table hostname = [Record.toItem ⟨hostname, cert, key⟩] := by
  obtain ⟨before, after, hc, ha, hw, hu⟩ := hl
  induction h generalizing before with
  | nil => simp at hc
  | cons c₀ h ih =>
    cases before with
    | nil =>
      obtain ⟨rfl, rfl⟩ := List.cons.inj hc
      exact (h.held_of_untouched hu).trans (hw.held_final_self ha)
    | cons => exact ih _ (List.cons.inj hc).2

theorem isKeyed (h : History k held calls held') (hk : held.IsKeyed) : held'.IsKeyed := by
  induction h with
  | nil => exact hk
  | @cons c calls held' h ih =>
    refine ih ?_
    by_cases hw : ∃ cert key, c.Writes k cert key
    · obtain ⟨cert, key, hw⟩ := hw
      rw [hw.held_final]
      exact hk.replace _
    · push Not at hw
      rwa [Call.held_final_of_not_writes hw]

end History

theorem untouched_or_lastWrite (k : Keeper o) (table hostname : String) (calls : List (Call σ)) :
    Untouched k table hostname calls ∨
      ∃ c cert key, LastWrite k table hostname calls c cert key := by
  induction calls with
  | nil => exact .inl fun _ hc => absurd hc List.not_mem_nil
  | cons c calls ih =>
    rcases ih with hu | ⟨c', cert, key, before, after, rfl, hl⟩
    · by_cases hc : c.IsAt table hostname ∧ ∃ cert key, c.Writes k cert key
      · obtain ⟨ha, cert, key, hw⟩ := hc
        exact .inr ⟨c, cert, key, [], calls, rfl, ha, hw, hu⟩
      · refine .inl fun c' hm ha cert key hw => ?_
        rcases List.mem_cons.mp hm with rfl | hm
        · exact hc ⟨ha, cert, key, hw⟩
        · exact hu c' hm ha cert key hw
    · exact .inr ⟨c', cert, key, c :: before, after, rfl, hl⟩

/-- What the store holds after a history. Under a table and a hostname it is the record that the
last call there has written, and it is what was there before if there is no such call. -/
theorem History.lastWrite_wins {held held' : Contents} {calls : List (Call σ)}
    (h : History k held calls held') :
    (∀ table hostname c cert key, LastWrite k table hostname calls c cert key →
      held' table hostname = [[("hostname", .string hostname), ("cert", .string cert),
        ("key", .string key)]] ∧
      ∀ item ∈ held' table hostname, Record.ofItem item = .ok ⟨hostname, cert, key⟩) ∧
    (∀ table hostname, Untouched k table hostname calls →
      held' table hostname = held table hostname) ∧
    (∀ table hostname, Untouched k table hostname calls ∨
      ∃ c cert key, LastWrite k table hostname calls c cert key) ∧
    (held.IsKeyed → held'.IsKeyed) ∧
    ∀ c ∈ calls,
      (∀ output, (c.run o).value = .ok output → ∃ cert key, c.Writes k cert key) ∧
      (∀ path f, (c.run o).value = .error (.read path f) →
        k.held (c.run o).final = k.held c.start) ∧
      ∀ table hostname, ¬ c.IsAt table hostname →
        k.held (c.run o).final table hostname = k.held c.start table hostname := by
  refine ⟨?_, fun table hostname => h.held_of_untouched, fun table hostname =>
    untouched_or_lastWrite k table hostname calls, h.isKeyed, ?_⟩
  · intro table hostname c cert key hl
    have hh := h.held_of_lastWrite hl
    refine ⟨hh, fun item hm => ?_⟩
    rw [hh, List.mem_singleton] at hm
    rw [hm, Record.ofItem_toItem]
  · intro c _
    refine ⟨fun output hv => Call.writes_of_ok hv, fun path f hv => ?_, fun table hostname =>
      Call.held_final_of_not_isAt⟩
    exact Call.held_final_of_not_writes (Call.not_writes_of_read hv)

open World.Plain Text in
theorem History.lastWrite_wins_reseeded :
    let t : Table := ⟨(Settings.ofEnvironment fun _ => none).client, Settings.fixedTable⟩
    let w := ofFiles (Utf8.encode "old cert") (Utf8.encode "old key") {} rfl
    let c : Call World.Plain := ⟨t, "a.test", certPath, keyPath, w⟩
    let r := c.run outside
    let w' := ofFiles (Utf8.encode "new cert") (Utf8.encode "new key") r.final.1.store r.final.2
    let c' : Call World.Plain := ⟨t, "a.test", certPath, keyPath, w'⟩
    History keeper (keeper.held w) [c, c'] (keeper.held (c'.run outside).final) ∧
    keeper.held (c'.run outside).final Settings.fixedTable "a.test" =
      [[("hostname", .string "a.test"), ("cert", .string "new cert"),
        ("key", .string "new key")]] := by
  intro t w c r w' c'
  have h' : History keeper (keeper.held r.final) [c'] (keeper.held (c'.run outside).final) := by
    rw [← held_ofFiles (Utf8.encode "new cert") (Utf8.encode "new key") r.final]
    exact .cons c' (.nil _)
  have h : History keeper (keeper.held w) [c, c'] (keeper.held (c'.run outside).final) := .cons c h'
  have hw : c'.Writes keeper "new cert" "new key" :=
    ⟨rfl, rfl, by decide +kernel, rfl, _, rfl⟩
  have hl : LastWrite keeper Settings.fixedTable "a.test" [c, c'] c' "new cert" "new key" :=
    ⟨[c], [], rfl, ⟨rfl, rfl⟩, hw, fun _ hm => absurd hm List.not_mem_nil⟩
  exact ⟨h, (h.lastWrite_wins.1 _ _ _ _ _ hl).1⟩

end TlsSeed
