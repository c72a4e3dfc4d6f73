import Mathlib.Data.List.Infix
import TlsSeed.Proofs.Job
import TlsSeed.Proofs.Secrecy

/-! # What the log tells

The events of a call tell how it has gone: nothing of a put that was not tried, the beginning of one
that was, and the acknowledgement, with what the store has said, directly after it was received.
-/

namespace TlsSeed

open Store

variable {σ : Type} {o : Outside σ} {s : σ}

/-- How the report of an acknowledgement begins. -/
def createdPhrase : String := "DynamoDB table item created: "

/-- The event tells of an acknowledgement. -/
def tellsCreated (e : Log.Event) : Bool :=
  e.level == .info && createdPhrase.toList.isPrefixOf e.text.toList

@[simp] theorem tellsCreated_createdEvent (output : PutOutput) :
    tellsCreated (createdEvent output) = true := by
  have ht : (createdEvent output).text.toList =
      createdPhrase.toList ++ output.outline.pretty.toList := String.toList_append
  rw [tellsCreated, ht, Bool.and_eq_true, List.isPrefixOf_iff_prefix]
  exact ⟨rfl, List.prefix_append ..⟩

@[simp] theorem tellsCreated_startEvent : tellsCreated startEvent = false := by
  decide

@[simp] theorem tellsCreated_putEvent (t : Table) (hostname : String) :
    tellsCreated (putEvent t hostname) = false :=
  rfl

@[simp] theorem createdEvent_ne_startEvent (output : PutOutput) :
    createdEvent output ≠ startEvent := by
  intro h
  have ht := tellsCreated_createdEvent output
  rw [h, tellsCreated_startEvent] at ht
  exact Bool.false_ne_true ht

@[simp] theorem putEvent_ne_startEvent (t : Table) (hostname : String) :
    putEvent t hostname ≠ startEvent := by
  intro h
  exact absurd (congrArg Log.Event.level h) nofun

/-! ## One call -/

namespace Job.Goes

variable {j : Job} {r : Run σ (Except SeedError PutOutput)}

theorem count_startEvent (h : j.Goes o s r) : r.events.count startEvent = r.puts.length := by
  rw [h.events_eq]
  cases h <;> simp [told, Run.puts, List.filterMap_cons, Effect.put?]

theorem countP_tellsCreated (h : j.Goes o s r) :
    r.events.countP tellsCreated = [r.value].countP Except.isOk := by
  rw [h.events_eq]
  cases h <;> simp [told, Except.isOk, Except.toBool]

/-- A call fails to read exactly if one of its files holds no text, and comes to what the store
answers to its put otherwise. -/
theorem value_of_files (h : j.Goes o s r) :
    ((∃ path f, r.value = .error (.read path f)) ↔ ¬ ∃ cert key, o.Holds s j.certPath cert ∧
      o.Holds (o.read s j.certPath).2 j.keyPath key) ∧
    ∀ cert key, o.Holds s j.certPath cert → o.Holds (o.read s j.certPath).2 j.keyPath key →
      r.value = (o.put (o.read (o.read s j.certPath).2 j.keyPath).2 j.table.client
        (j.table.putOf ⟨j.hostname, cert, key⟩)).1.mapError fun e => .put (.ofSend e) := by
  cases h with
  | certFails hc =>
    refine ⟨iff_of_true ⟨_, _, rfl⟩ ?_, ?_⟩
    · rintro ⟨cert, key, hc', -⟩
      exact hc'.not_fails hc
    · intro cert key hc'
      exact absurd hc hc'.not_fails
  | keyFails hc h₁ hk =>
    subst h₁
    refine ⟨iff_of_true ⟨_, _, rfl⟩ ?_, ?_⟩
    · rintro ⟨cert, key, -, hk'⟩
      exact hk'.not_fails hk
    · intro cert key _ hk'
      exact absurd hk hk'.not_fails
  | putFails hc h₁ hk h₂ hp | acknowledged hc h₁ hk h₂ hp =>
    subst h₁ h₂
    refine ⟨iff_of_false nofun (not_not_intro ⟨_, _, hc, hk⟩), ?_⟩
    intro cert key hc' hk'
    obtain rfl := hc.unique hc'
    obtain rfl := hk.unique hk'
    rw [hp]
    rfl

end Job.Goes

/-! ## Many calls -/

theorem Run.events_seedAll_cons (j : Job) (js : List Job) :
    ((seedAll (j :: js)).run o s).events = (j.script.run o s).events ++
      ((seedAll js).run o (j.script.run o s).final).events := by
  rw [run_seedAll_cons]
  simp [Run.events]

theorem length_seedAll (js : List Job) : ((seedAll js).run o s).value.length = js.length := by
  induction js generalizing s with
  | nil => rfl
  | cons j js ih =>
    rw [run_seedAll_cons]
    simp [ih]

theorem events_seedAll (js : List Job) :
    ((seedAll js).run o s).events =
      (js.zip ((seedAll js).run o s).value).flatMap fun x => told x.1.table x.1.hostname x.2 := by
  induction js generalizing s with
  | nil => rfl
  | cons j js ih =>
    rw [Run.events_seedAll_cons, ih, (j.goes_run o s).events_eq, run_seedAll_cons]
    rfl

theorem count_startEvent_seedAll (js : List Job) :
    ((seedAll js).run o s).events.count startEvent = ((seedAll js).run o s).puts.length := by
  refine trace_seedAll_induction (P := fun trace =>
    (trace.filterMap Effect.event?).count startEvent = (trace.filterMap Effect.put?).length)
    rfl (fun xs ys hx hy => ?_) (fun _ _ _ h => h.count_startEvent) js s
  simp only [List.filterMap_append, List.count_append, List.length_append, hx, hy]

theorem countP_tellsCreated_seedAll (js : List Job) :
    ((seedAll js).run o s).events.countP tellsCreated =
      ((seedAll js).run o s).value.countP Except.isOk := by
  induction js generalizing s with
  | nil => rfl
  | cons j js ih =>
    rw [Run.events_seedAll_cons, List.countP_append, ih, (j.goes_run o s).countP_tellsCreated,
      run_seedAll_cons, ← List.countP_append]
    rfl

/-- Nothing in the trace tells of an acknowledgement. -/
def Quiet (trace : List Effect) : Prop :=
  ∀ e, Effect.log e ∈ trace → tellsCreated e = false

/-- At every moment of the trace at least as many puts have been announced as acknowledgements
told. -/
def Announced (trace : List Effect) : Prop :=
  ∀ before, before <+: trace → (before.filterMap Effect.event?).countP tellsCreated ≤
    (before.filterMap Effect.event?).count startEvent

/-- Every event that tells of an acknowledgement follows directly upon it, and tells what the store
has said. -/
def Heard (trace : List Effect) : Prop :=
  ∀ before e after, trace = before ++ .log e :: after → tellsCreated e = true →
    ∃ earlier client put output, before = earlier ++ [.put client put (.ok output)] ∧
      e = createdEvent output

section

variable {xs ys : List Effect}

theorem Quiet.countP_eq_zero (h : Quiet xs) :
    (xs.filterMap Effect.event?).countP tellsCreated = 0 := by
  rw [List.countP_eq_zero]
  intro e he
  obtain ⟨x, hx, hxe⟩ := List.mem_filterMap.mp he
  cases x with
  | read | put => exact nomatch hxe
  | log e' =>
    obtain rfl := Option.some.inj hxe
    simp [h e' hx]

theorem Quiet.announced (h : Quiet xs) : Announced xs := by
  intro before hb
  have hq : Quiet before := fun e he => h e (hb.mem he)
  rw [hq.countP_eq_zero]
  exact Nat.zero_le _

theorem Quiet.heard (h : Quiet xs) : Heard xs := by
  rintro before e after rfl he
  have := h e (by simp)
  simp [this] at he

theorem Announced.append (hx : Announced xs) (hy : Announced ys) : Announced (xs ++ ys) := by
  rintro before ⟨after, h⟩
  -- The moment lies in the first trace, or after all of it and in the second.
  rcases List.append_eq_append_iff.mp h with ⟨rest, rfl, -⟩ | ⟨more, rfl, rfl⟩
  · exact hx before (List.prefix_append ..)
  · simp only [List.filterMap_append, List.countP_append, List.count_append]
    exact Nat.add_le_add (hx xs (List.prefix_refl _)) (hy more (List.prefix_append ..))

theorem Heard.append (hx : Heard xs) (hy : Heard ys) : Heard (xs ++ ys) := by
  intro before e after h he
  rcases List.append_eq_append_iff.mp h with ⟨rest, rfl, hr⟩ | ⟨more, rfl, hr⟩
  · obtain ⟨earlier, client, put, output, rfl, rfl⟩ := hy rest e after hr he
    exact ⟨xs ++ earlier, client, put, output, by simp, rfl⟩
  · rcases List.cons_eq_append_iff.mp hr with ⟨rfl, hr⟩ | ⟨more, rfl, -⟩
    · obtain ⟨earlier, _, _, _, hn, -⟩ := hy [] e after hr.symm he
      simp at hn
    · exact hx before e more rfl he

theorem heard_answer (client : Client) (put : Put) (output : PutOutput) :
    Heard [.put client put (.ok output), .log (createdEvent output)] := by
  intro before e after h _
  generalize hc : createdEvent output = created at h
  rcases before with _ | ⟨x, _ | ⟨y, before⟩⟩
  · simp at h
  · simp only [List.cons_append, List.nil_append, List.cons.injEq, Effect.log.injEq] at h
    obtain ⟨rfl, rfl, -⟩ := h
    exact ⟨[], client, put, output, rfl, hc.symm⟩
  · simp at h

theorem Quiet.announced_concat (h : Quiet xs) (hs : Effect.log startEvent ∈ xs)
    (e : Log.Event) : Announced (xs ++ [.log e]) := by
  intro before hb
  -- Only the whole trace can tell of an acknowledgement, and by then the put was announced.
  rcases List.prefix_concat_iff.mp hb with rfl | hb
  · have hm : startEvent ∈ xs.filterMap Effect.event? :=
      List.mem_filterMap.mpr ⟨_, hs, rfl⟩
    have hc := List.count_pos_iff.mpr hm
    have ho : List.countP tellsCreated [e] ≤ 1 := List.countP_le_length
    simp only [List.filterMap_append, List.countP_append, List.count_append, h.countP_eq_zero]
    exact (Nat.zero_add _).le.trans (ho.trans (hc.trans_le (Nat.le_add_right ..)))
  · exact h.announced before hb

end

namespace Job.Goes

variable {j : Job} {r : Run σ (Except SeedError PutOutput)}

/-- A call tells of no acknowledgement, or of one at its very end, directly upon it and after it has
told of the put. -/
theorem quiet_or (h : j.Goes o s r) : Quiet r.trace ∨
    ∃ xs client put output, r.trace = xs ++ [.put client put (.ok output),
      .log (createdEvent output)] ∧ Quiet xs ∧ .log startEvent ∈ xs := by
  cases h with
  | certFails | keyFails | putFails => exact .inl (by simp [Quiet])
  | acknowledged =>
    exact .inr ⟨[_, _, _, _], _, _, _, rfl, by simp [Quiet], by simp⟩

theorem announced (h : j.Goes o s r) : Announced r.trace := by
  rcases h.quiet_or with hq | ⟨xs, client, put, output, ht, hq, hs⟩
  · exact hq.announced
  · have hq' : Quiet (xs ++ [.put client put (.ok output)]) := by simpa [Quiet] using hq
    have ha := hq'.announced_concat (List.mem_append_left _ hs) (createdEvent output)
    rwa [ht, List.append_cons]

theorem heard (h : j.Goes o s r) : Heard r.trace := by
  rcases h.quiet_or with hq | ⟨xs, client, put, output, ht, hq, -⟩
  · exact hq.heard
  · rw [ht]
    exact hq.heard.append (heard_answer client put output)

end Job.Goes

theorem announced_seedAll (js : List Job) : Announced ((seedAll js).run o s).trace :=
  trace_seedAll_induction (Quiet.announced nofun) (fun _ _ => Announced.append)
    (fun _ _ _ h => h.announced) js s

theorem heard_seedAll (js : List Job) : Heard ((seedAll js).run o s).trace :=
  trace_seedAll_induction (Quiet.heard nofun) (fun _ _ => Heard.append)
    (fun _ _ _ h => h.heard) js s

/-! ## The program -/

namespace Program

theorem run_of_parse {argv : List Text.Bytes} {i : CommandLine.Invocation}
    (hp : CommandLine.parse argv = .ok i) (env : Environment) :
    (script argv env).run o s =
      ofSeeding ((seed (table (.ofEnvironment env)) i.hostname i.certFile i.keyFile).run o s) := by
  simp only [script, hp, Script.bind_eq, Script.run_bind, run_work, Script.pure_eq,
    Script.run_done, List.append_nil]
  rfl

/-- The job that the command line asks for. -/
def job (env : Environment) (i : CommandLine.Invocation) : Job :=
  ⟨table (.ofEnvironment env), i.hostname, i.certFile, i.keyFile⟩

theorem events_of_parse {argv : List Text.Bytes} {i : CommandLine.Invocation}
    (hp : CommandLine.parse argv = .ok i) (env : Environment) :
    let q := (job env i).script.run o s
    ((script argv env).run o s).events = q.events ++ toldAfter q.value := by
  intro q
  rw [run_of_parse hp, events_ofSeeding]
  rfl

variable {j : Job} {result : Except SeedError PutOutput}

theorem tells_error_iff :
    (∃ e ∈ told j.table j.hostname result ++ toldAfter result, e.level = .error) ↔
      (Outcome.seeded result).exitCode = 1 := by
  cases result with
  | ok output =>
    refine iff_of_false ?_ Nat.zero_ne_one
    rintro ⟨e, he, hl⟩
    simp only [told, toldAfter, List.append_nil, List.mem_cons, List.not_mem_nil,
      or_false] at he
    rcases he with rfl | rfl | rfl <;> cases hl
  | error e =>
    exact iff_of_true ⟨failureEvent e, List.mem_append_right _ (.head _), rfl⟩ rfl

theorem exitCode_of_tells_created
    (h : ∃ x ∈ told j.table j.hostname result ++ toldAfter result, tellsCreated x = true) :
    (Outcome.seeded result).exitCode = 0 := by
  obtain ⟨x, hx, hc⟩ := h
  rcases result with (⟨path, f⟩ | cause) | output
  · simp only [told, toldAfter, List.nil_append, List.mem_singleton] at hx
    subst hx
    cases hc
  · simp only [told, toldAfter, List.mem_append, List.mem_cons, List.not_mem_nil,
      or_false] at hx
    rcases hx with (rfl | rfl) | rfl <;> cases hc
  · rfl

end Program

/-- The log tells the truth about effects. The events of a row of calls are those of the calls, and
those of a call tell how it has gone: nothing when a file cannot be read, the beginning of a put
that fails, and the acknowledgement of one that does not. The program adds one error if its call
has failed, and nothing otherwise. -/
theorem log_tells_truth (o : Outside σ) :
    (∀ (j : Job) (s : σ), let r := j.script.run o s
      ((∃ path f, r.value = .error (.read path f)) ↔ ¬ ∃ cert key, o.Holds s j.certPath cert ∧
        o.Holds (o.read s j.certPath).2 j.keyPath key) ∧
      ∀ cert key, o.Holds s j.certPath cert → o.Holds (o.read s j.certPath).2 j.keyPath key →
        r.value = (o.put (o.read (o.read s j.certPath).2 j.keyPath).2 j.table.client
          (j.table.putOf ⟨j.hostname, cert, key⟩)).1.mapError fun e => .put (.ofSend e)) ∧
    (∀ (js : List Job) (s : σ), let r := (seedAll js).run o s
      r.value.length = js.length ∧
      r.events = (js.zip r.value).flatMap (fun x => told x.1.table x.1.hostname x.2) ∧
      r.events.count startEvent = r.puts.length ∧
      r.events.countP tellsCreated = r.value.countP Except.isOk ∧
      (∀ before, before <+: r.trace → (before.filterMap Effect.event?).countP tellsCreated ≤
        (before.filterMap Effect.event?).count startEvent) ∧
      ∀ before e after, r.trace = before ++ .log e :: after → tellsCreated e = true →
        ∃ earlier client put output, before = earlier ++ [.put client put (.ok output)] ∧
          e = createdEvent output) ∧
    ∀ argv env s i, CommandLine.parse argv = .ok i →
      let q := (Program.job env i).script.run o s
      let r := (Program.script argv env).run o s
      r.events = q.events ++ Program.toldAfter q.value ∧
      ¬ ((∃ e ∈ r.events, e.level = .error) ∧ ∃ e ∈ r.events, tellsCreated e = true) ∧
      ((∃ e ∈ r.events, e.level = .error) ↔ r.value.exitCode = 1) := by
  refine ⟨?_, ?_, ?_⟩
  · intro j s
    exact (j.goes_run o s).value_of_files
  · intro js s
    exact ⟨length_seedAll js, events_seedAll js, count_startEvent_seedAll js,
      countP_tellsCreated_seedAll js, announced_seedAll js, heard_seedAll js⟩
  · intro argv env s i hp q r
    have hq : q.events = told (Program.job env i).table i.hostname q.value :=
      ((Program.job env i).goes_run o s).events_eq
    have he : r.events = q.events ++ Program.toldAfter q.value := Program.events_of_parse hp env
    have hv : r.value = .seeded q.value := congrArg Run.value (Program.run_of_parse hp env)
    rw [hv, he, hq]
    refine ⟨rfl, ?_, Program.tells_error_iff⟩
    rintro ⟨hf, hc⟩
    have h₁ := Program.tells_error_iff.mp hf
    have h₀ := Program.exitCode_of_tells_created hc
    exact Nat.zero_ne_one (h₀.symm.trans h₁)

namespace World.Plain

theorem trace_eq {hostname cert key : String} {certPath keyPath : File.Path} {w : Plain}
    {r : Run Plain (Except SeedError PutOutput)}
    (h : Seeding outside table hostname certPath keyPath w r) (hc : outside.Holds w certPath cert)
    (hk : outside.Holds (outside.read w certPath).2 keyPath key) :
    ∃ earlier put, r.trace =
      earlier ++ [.put table.client put (.ok {})] ++ [.log (createdEvent {})] := by
  have hv := value_eq h hc hk
  cases h with
  | certFails | keyFails | putFails => exact nomatch hv
  | acknowledged =>
    cases hv
    exact ⟨[_, _, _, _], _, rfl⟩

end World.Plain

open World.Plain Text in
theorem log_tells_truth_plain :
    let w := ofFiles (Utf8.encode "cert") (Utf8.encode "key") {} rfl
    let bad : Job := ⟨table, "a.test", certPath, [0x78]⟩
    let good : Job := ⟨table, "a.test", certPath, keyPath⟩
    let r := (seedAll [bad, good]).run outside w
    let m := (Program.script (["cert-seed", "a.test", "c", "x"].map Utf8.encode)
      fun _ => none).run outside w
    r.events = [startEvent, putEvent table "a.test", createdEvent {}] ∧
    r.events.countP tellsCreated ≤ r.events.count startEvent ∧
    (∃ earlier client put output, r.trace =
      earlier ++ [.put client put (.ok output)] ++ [.log (createdEvent output)]) ∧
    m.events = [failureEvent (.read [0x78] (.system 2))] ∧ m.value.exitCode = 1 := by
  intro w bad good r m
  obtain ⟨-, hs, hm⟩ := log_tells_truth outside
  obtain ⟨-, he, -, -, ha, hh⟩ := hs [bad, good] w
  have hb : bad.script.run outside w = ⟨.error (.read [0x78] (.system 2)),
    [.read certPath (.ok (Utf8.encode "cert")), .read [0x78] (.error (.system 2))], w⟩ := rfl
  have hg : (good.script.run outside w).value = .ok {} :=
    value_eq (good.goes_run outside w) rfl rfl
  have hr : r.value = [.error (.read [0x78] (.system 2)), .ok {}] := by
    simp only [r, run_seedAll_cons, hb, hg]
    rfl
  refine ⟨?_, ha r.trace (List.prefix_refl _), ?_, ?_⟩
  · rw [he, hr]
    rfl
  · obtain ⟨before, hbt⟩ : ∃ before, r.trace = before ++ .log (createdEvent {}) :: [] := by
      obtain ⟨earlier, put, ht⟩ := trace_eq (good.goes_run outside w) rfl rfl
      simp only [r, run_seedAll_cons, hb, ht, ← List.append_assoc]
      exact ⟨_, List.append_nil _⟩
    obtain ⟨earlier, client, put, output, rfl, ho⟩ := hh _ _ _ hbt (tellsCreated_createdEvent _)
    exact ⟨earlier, client, put, output, ho ▸ hbt⟩
  · have hp : CommandLine.parse (["cert-seed", "a.test", "c", "x"].map Utf8.encode) =
        .ok ⟨"a.test", certPath, [0x78]⟩ := rfl
    obtain ⟨hq, -, hx⟩ := hm _ (fun _ => none) w _ hp
    have hj : Program.job (fun _ => none) ⟨"a.test", certPath, [0x78]⟩ = bad := rfl
    have he : m.events = [failureEvent (.read [0x78] (.system 2))] := by
      rw [hj, hb] at hq
      exact hq
    exact ⟨he, hx.mp ⟨_, he ▸ List.mem_singleton_self _, rfl⟩⟩

end TlsSeed
