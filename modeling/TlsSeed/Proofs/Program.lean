import TlsSeed.Program
import TlsSeed.Proofs.Seed
import TlsSeed.Proofs.Settings

/-! # Runs of the program

A run of the program either halts at its command line, with no effect at all, or is one seeding,
followed by one report if that failed. Its puts, its reads and its exit code follow from this.
-/

namespace TlsSeed

open CommandLine Text

variable {σ : Type}

/-- The environment names an endpoint: the variable holds a text that is not all white space. -/
def Environment.Names (env : Environment) (u : String) : Prop :=
  env Settings.endpointVariable = some (Utf8.encode u) ∧ ∃ c ∈ u.toList, isBlankChar c = false

namespace Settings

theorem endpointUrl_of_names {env : Environment} {u : String} (h : env.Names u) :
    (ofEnvironment env).endpointUrl = u := by
  rw [ofEnvironment, Environment.text?, h.1, Option.bind_some, Utf8.decode?_encode,
    endpointUrl_withEndpoint_some h.2]

theorem endpointUrl_of_not_names {env : Environment} (h : ∀ u, ¬ env.Names u) :
    (ofEnvironment env).endpointUrl = defaultEndpoint := by
  rw [ofEnvironment]
  cases ht : env.text? endpointVariable with
  | none => rfl
  | some u =>
    obtain ⟨bs, he, hd⟩ := Option.bind_eq_some_iff.mp ht
    have hb : ∀ c ∈ u.toList, isBlankChar c = true := by
      by_contra hn
      exact h u ⟨by rw [he, Utf8.decode?_eq_some_iff.mp hd], by simpa using hn⟩
    rw [withEndpoint_of_blank hb]
    rfl

end Settings

namespace Program

variable {o : Outside σ} {s : σ} {argv : List Bytes} {env : Environment}

/-- What the program logs after its one call of seeding, by what came of that. -/
def toldAfter : Except SeedError Store.PutOutput → List Log.Event
  | .ok _ => []
  | .error e => [failureEvent e]

/-- The run of the program that a seeding makes. -/
def ofSeeding (r : Run σ (Except SeedError Store.PutOutput)) : Run σ Outcome where
  value := .seeded r.value
  trace := r.trace ++ (toldAfter r.value).map .log
  final := r.final

@[simp] theorem puts_ofSeeding (r : Run σ (Except SeedError Store.PutOutput)) :
    (ofSeeding r).puts = r.puts := by
  cases h : r.value <;> simp [ofSeeding, Run.puts, toldAfter, Effect.put?, h]

/-- The ways in which a run of the program can go. -/
inductive Running (o : Outside σ) (s : σ) (argv : List Bytes) (env : Environment) :
    Run σ Outcome → Prop
  | halts {h : Halt} (hp : parse argv = .error h) : Running o s argv env ⟨.halted h, [], s⟩
  | seeds {i : Invocation} {r : Run σ (Except SeedError Store.PutOutput)}
      (hp : parse argv = .ok i)
      (hs : Seeding o (table (.ofEnvironment env)) i.hostname i.certFile i.keyFile s r) :
      Running o s argv env (ofSeeding r)

theorem run_work (t : Settings) (i : Invocation) :
    (work t i).run o s =
      let r := (seed (table t) i.hostname i.certFile i.keyFile).run o s
      ⟨r.value, r.trace ++ (toldAfter r.value).map .log, r.final⟩ := by
  rw [work, Script.bind_eq, Script.run_bind]
  generalize (seed (table t) i.hostname i.certFile i.keyFile).run o s = r
  obtain ⟨e | output, trace, final⟩ := r <;> rfl

/-- The program runs in one of these ways. -/
theorem running_run (o : Outside σ) (s : σ) (argv : List Bytes) (env : Environment) :
    Running o s argv env ((script argv env).run o s) := by
  rw [script]
  cases hp : parse argv with
  | error h => exact .halts hp
  | ok i =>
    simp only [Script.bind_eq, Script.run_bind, run_work, Script.pure_eq, Script.run_done,
      List.append_nil]
    exact .seeds hp (seeding_run ..)

namespace Running

variable {r : Run σ Outcome}

theorem puts_length_le (h : Running o s argv env r) : r.puts.length ≤ 1 := by
  cases h with
  | halts => exact Nat.zero_le _
  | seeds _ hs =>
    rw [puts_ofSeeding]
    rcases hs.puts_cases with ⟨hn, -⟩ | ⟨cert, key, answer, -, -, hn, -⟩ <;> simp [hn]

theorem puts_length_eq_one_iff (h : Running o s argv env r) :
    r.puts.length = 1 ↔ ∃ i cert key, parse argv = .ok i ∧ o.Holds s i.certFile cert ∧
      o.Holds (o.read s i.certFile).2 i.keyFile key := by
  cases h with
  | halts hp => simp [Run.puts, hp]
  | seeds hp hs =>
    rw [puts_ofSeeding, hp]
    rcases hs.puts_cases with ⟨hn, -, hf⟩ | ⟨cert, key, answer, hc, hk, hn, -⟩
    · refine iff_of_false (by simp [hn]) ?_
      rintro ⟨i, cert, key, hi, hc, hk⟩
      cases hi
      exact hf cert key hc hk
    · exact iff_of_true (by simp [hn]) ⟨_, cert, key, rfl, hc, hk⟩

theorem of_mem_puts {c : Client} {p : Store.Put}
    {answer : Except Store.SendError Store.PutOutput} (h : Running o s argv env r)
    (hm : (c, p, answer) ∈ r.puts) :
    ∃ i cert key, parse argv = .ok i ∧ o.Holds s i.certFile cert ∧
      o.Holds (o.read s i.certFile).2 i.keyFile key ∧
      c = (Settings.ofEnvironment env).client ∧
      p = (table (.ofEnvironment env)).putOf ⟨i.hostname, cert, key⟩ := by
  cases h with
  | halts => simp [Run.puts] at hm
  | seeds hp hs =>
    rw [puts_ofSeeding] at hm
    rcases hs.puts_cases with ⟨hn, -⟩ | ⟨cert, key, answer, hc, hk, hn, -⟩
    · simp [hn] at hm
    · simp only [hn, List.mem_singleton, Prod.mk.injEq] at hm
      exact ⟨_, cert, key, hp, hc, hk, hm.1, hm.2.1⟩

/-- Every put goes through the client that the client library loads for the environment. -/
theorem load_of_mem_puts {c : Client} {p : Store.Put}
    {answer : Except Store.SendError Store.PutOutput} {loader : Loader}
    (h : Running o s argv env r) (hl : loader.KeepsGiven) (hm : (c, p, answer) ∈ r.puts) :
    (Settings.ofEnvironment env).load loader env = ⟨some c.endpointUrl, some c.region⟩ := by
  obtain ⟨i, cert, key, -, -, -, rfl, -⟩ := h.of_mem_puts hm
  exact Settings.load_eq hl _ env

theorem exitCode_eq_two_iff (h : Running o s argv env r) :
    r.value.exitCode = 2 ↔ ∃ e, parse argv = .error (.usage e) := by
  cases h with
  | @halts h hp => cases h <;> simp [hp, Outcome.exitCode, Halt.exitCode, Halt.isError]
  | @seeds i r hp hs =>
    rw [hp]
    obtain ⟨e | output, trace, final⟩ := r <;> simp [ofSeeding, Outcome.exitCode]

theorem exitCode_eq_zero_iff (h : Running o s argv env r) :
    r.value.exitCode = 0 ↔ (∃ inFull, parse argv = .error (.help inFull)) ∨
      parse argv = .error .version ∨ ∃ c p output, (c, p, .ok output) ∈ r.puts := by
  cases h with
  | @halts h hp => cases h <;> simp [hp, Outcome.exitCode, Halt.exitCode, Halt.isError, Run.puts]
  | seeds hp hs =>
    rw [hp, puts_ofSeeding]
    rcases hs.puts_cases with ⟨hn, ⟨e, hv⟩, -⟩ | ⟨cert, key, answer, -, -, hn, hv⟩
    · simp [hn, hv, ofSeeding, Outcome.exitCode]
    · cases answer <;> simp [hn, hv, ofSeeding, Outcome.exitCode, Except.mapError]

theorem exitCode_le (h : Running o s argv env r) : r.value.exitCode ≤ 2 := by
  cases h with
  | @halts h _ => cases h <;> simp [Outcome.exitCode, Halt.exitCode, Halt.isError]
  | @seeds i r _ _ =>
    obtain ⟨e | output, trace, final⟩ := r <;> simp [ofSeeding, Outcome.exitCode]

theorem trace_eq_nil {h : Halt} (hr : Running o s argv env r) (hp : parse argv = .error h) :
    r.trace = [] := by
  cases hr with
  | halts => rfl
  | seeds hp' => simp [hp] at hp'

end Running

/-- The program puts at most once, and it does so exactly when its command line is accepted and both
files hold texts. The put goes where the environment says and carries the record and nothing else.
The exit code tells which way the run has gone, and a run that halts has no effect. -/
theorem run_effects (o : Outside σ) (s : σ) (argv : List Bytes) (env : Environment) :
    let r := (script argv env).run o s
    r.puts.length ≤ 1 ∧
    (r.puts.length = 1 ↔ ∃ i cert key, parse argv = .ok i ∧ o.Holds s i.certFile cert ∧
      o.Holds (o.read s i.certFile).2 i.keyFile key) ∧
    (∀ c p answer, (c, p, answer) ∈ r.puts →
      (∀ u, env.Names u → c.endpointUrl = u) ∧
      ((∀ u, ¬ env.Names u) → c.endpointUrl = Settings.defaultEndpoint) ∧
      c.region = Settings.fixedRegion ∧ p.table = Settings.fixedTable ∧
      p.condition = none ∧ p.returnOld = false ∧
      ∃ i cert key, parse argv = .ok i ∧ o.Holds s i.certFile cert ∧
        o.Holds (o.read s i.certFile).2 i.keyFile key ∧
        p.item = [("hostname", .string i.hostname), ("cert", .string cert),
          ("key", .string key)]) ∧
    (r.value.exitCode = 2 ↔ ∃ e, parse argv = .error (.usage e)) ∧
    (r.value.exitCode = 0 ↔ (∃ inFull, parse argv = .error (.help inFull)) ∨
      parse argv = .error .version ∨ ∃ c p output, (c, p, .ok output) ∈ r.puts) ∧
    (r.value.exitCode = 0 ∨ r.value.exitCode = 1 ∨ r.value.exitCode = 2) ∧
    ∀ h, parse argv = .error h → r.reads = [] ∧ r.puts = [] := by
  intro r
  have hr : Running o s argv env r := running_run o s argv env
  refine ⟨hr.puts_length_le, hr.puts_length_eq_one_iff, ?_, hr.exitCode_eq_two_iff,
    hr.exitCode_eq_zero_iff, ?_, ?_⟩
  · intro c p answer hm
    obtain ⟨i, cert, key, hp, hc, hk, rfl, rfl⟩ := hr.of_mem_puts hm
    exact ⟨fun u => Settings.endpointUrl_of_names, Settings.endpointUrl_of_not_names, rfl, rfl, rfl,
      rfl, i, cert, key, hp, hc, hk, rfl⟩
  · have := hr.exitCode_le
    omega
  · intro h hp
    simp [Run.reads, Run.puts, hr.trace_eq_nil hp]

end Program

end TlsSeed
