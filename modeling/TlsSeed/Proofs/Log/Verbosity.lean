import TlsSeed.Proofs.Log.Truth
import TlsSeed.Proofs.Text.Parts

/-! # Verbosity

The variable that sets the log filter has no influence on a run but on what is printed of it. A
plain level prints the events of that level and the more severe ones, each on a line of its own, so
that a wider level prints more.
-/

namespace TlsSeed

open CommandLine Log Text

variable {σ : Type} {o : Outside σ} {s : σ}

namespace Log

namespace Bound

/-- The word that stands for a bound as a filter. -/
def word : Bound → String
  | none => "off"
  | some .error => "error"
  | some .warn => "warn"
  | some .info => "info"
  | some .debug => "debug"
  | some .trace => "trace"

/-- The place of the bound, nothing for the narrowest. -/
def rank : Bound → Nat
  | none => 0
  | some l => l.rank

theorem admits_mono {a b : Bound} (h : a.rank ≤ b.rank) {l : Level} (ha : admits a l = true) :
    admits b l = true := by
  match a, b with
  | some m, some n => exact decide_eq_true ((of_decide_eq_true ha).trans h)
  | some m, none => cases m <;> exact absurd h (by decide)

theorem admits_error_iff {b : Bound} : admits b .error = true ↔ b ≠ none := by
  rcases b with _ | (_ | _ | _ | _ | _) <;> decide

@[simp] theorem admits_none (l : Level) : admits none l = false := rfl

end Bound

/-! ## Lines -/

/-- The name of the level in five columns. -/
def Level.column : Level → String
  | error => "ERROR"
  | warn => " WARN"
  | info => " INFO"
  | debug => "DEBUG"
  | trace => "TRACE"

/-- The control characters that are written by number, as they steer a terminal. -/
def IsSteering (c : Char) : Prop :=
  c.toNat ∈ [0x07, 0x08, 0x0C, 0x1B, 0x7F] ∨ 0x80 ≤ c.toNat ∧ c.toNat < 0xA0

instance : DecidablePred IsSteering :=
  fun c => inferInstanceAs (Decidable (c.toNat ∈ _ ∨ 0x80 ≤ c.toNat ∧ c.toNat < 0xA0))

theorem visible_of_not_isSteering {c : Char} (h : ¬ IsSteering c) : visible c = [c] := by
  obtain ⟨hs, hc⟩ := not_or.mp h
  rw [visible, if_neg (by simpa using hs), if_neg hc]

theorem flatMap_visible {cs : List Char} (h : ∀ c ∈ cs, ¬ IsSteering c) :
    cs.flatMap visible = cs := by
  induction cs with
  | nil => rfl
  | cons c cs ih =>
    rw [List.flatMap_cons, visible_of_not_isSteering (h c List.mem_cons_self),
      ih fun d hd => h d (List.mem_cons_of_mem c hd), List.singleton_append]

namespace Event

variable {e : Event}

theorem line_eq (hd : e.details = []) : e.line [] =
    e.level.column ++ " " ++ String.ofList (e.text.toList.flatMap visible) ++ "\n" := by
  have hc : String.ofList (List.replicate (5 - e.level.name.length) ' ') ++ e.level.name =
      e.level.column := by
    cases e.level <;> decide
  rw [line, hc, hd]
  simp [Span.path, String.append_assoc]

theorem line_of_not_isSteering (hd : e.details = []) (h : ∀ c ∈ e.text.toList, ¬ IsSteering c) :
    e.line [] = e.level.column ++ " " ++ e.text ++ "\n" := by
  rw [line_eq hd, flatMap_visible h, String.ofList_toList]

theorem line_ne_empty (e : Event) (spans : List Span) : e.line spans ≠ "" := by
  simp [line]

end Event

namespace Filter

variable {b : Bound} {e : Event}

theorem read?_word (b : Bound) : read? b.word = some (plain b) := by
  rcases b with _ | (_ | _ | _ | _ | _) <;> rfl

theorem allows_plain {stands : Directive → Bool} (h : stands { bound := b } = true) (l : Level) :
    (plain b).allows stands l = admits b l := by
  simp [allows, rule?, plain, h]

theorem admits_reach_plain (l : Level) : admits (plain b).reach l = admits b l := by
  have hr : (plain b).reach = Bound.widest [b] := rfl
  rw [hr, Bound.admits_widest]
  simp

/-- No directive of a plain filter is about a span, so a span sets no bound and is seen as an event
of its level is. -/
theorem enter_plain (spans : List Span) (span : Span) :
    (plain b).enter ⟨spans, []⟩ span = ⟨spans ++ [span].filter (admits b ·.level), []⟩ := by
  have hi : (plain b).inside? span = none := rfl
  rw [enter, admits_reach_plain, hi, Scope.admits,
    allows_plain (by simp [Directive.fitsSpan, Directive.isStatic, Directive.isFor])]
  cases ha : admits b span.level <;> simp [ha]

theorem scope_plain : (plain b).scope e = ⟨e.spans.filter (admits b ·.level), []⟩ := by
  have h (inner outer : List Span) : inner.foldl (plain b).enter ⟨outer, []⟩ =
      ⟨outer ++ inner.filter (admits b ·.level), []⟩ := by
    induction inner generalizing outer with
    | nil => simp
    | cons span inner ih =>
      rw [List.foldl_cons, enter_plain, ih, List.append_assoc, ← List.filter_append,
        List.singleton_append]
  exact h e.spans []

theorem passes_plain : (plain b).passes e = admits b e.level := by
  rw [passes, allows_plain (by simp [Directive.fits, Directive.isStatic, Directive.isFor]),
    Scope.admits, scope_plain]
  simp

theorem line?_plain : (plain b).line? e =
    if admits b e.level then some (e.line (e.spans.filter (admits b ·.level))) else none := by
  rw [line?, passes_plain, scope_plain]

end Filter

end Log

namespace Environment

/-- The environments differ in the filter alone. -/
def AgreesBut (env₁ env₂ : Environment) : Prop :=
  ∀ name, name ≠ Filter.settingName → env₁ name = env₂ name

/-- The filter is a plain level. -/
def SetsLevel (env : Environment) (b : Bound) : Prop :=
  env Filter.settingName = some (Utf8.encode b.word)

/-- There is no filter: the variable is not set, or its value is no text or reads as no filter. -/
def SetsNone (env : Environment) : Prop :=
  env Filter.settingName = none ∨
    (∃ bs, env Filter.settingName = some bs ∧ ∀ t, Utf8.encode t ≠ bs) ∨
    ∃ t, env Filter.settingName = some (Utf8.encode t) ∧ Filter.read? t = none

variable {env env₁ env₂ : Environment} {b : Bound}

theorem AgreesBut.settings (h : env₁.AgreesBut env₂) :
    Settings.ofEnvironment env₁ = Settings.ofEnvironment env₂ := by
  rw [Settings.ofEnvironment, Settings.ofEnvironment, text?, text?, h _ (by decide)]

theorem SetsLevel.filter (h : env.SetsLevel b) : Program.filter env = .plain b := by
  rw [Program.filter, text?, h, Option.bind_some, Utf8.decode?_encode, Filter.ofValue,
    Option.bind_some, Filter.read?_word]
  rfl

theorem SetsNone.filter (h : env.SetsNone) : Program.filter env = .plain (some .info) := by
  rw [Program.filter, text?]
  rcases h with h | ⟨bs, h, hb⟩ | ⟨t, h, ht⟩
  · rw [h]
    rfl
  · have hd : Utf8.decode? bs = none := by
      rw [Utf8.decode?_eq_none_iff]
      rintro ⟨t, ht⟩
      exact hb t ht
    rw [h, Option.bind_some, hd]
    rfl
  · rw [h, Option.bind_some, Utf8.decode?_encode, Filter.ofValue, Option.bind_some, ht]
    rfl

end Environment

namespace Program

variable {argv : List Bytes} {env env₁ env₂ : Environment} {b : Bound}

theorem script_congr (h : env₁.AgreesBut env₂) : script argv env₁ = script argv env₂ := by
  rw [script, script, h.settings]

/-- What the program itself logs is inside of no span, and its text is all that it tells. -/
theorem plain_of_mem_told {j : Job} {result : Except SeedError Store.PutOutput} {e : Event}
    (h : e ∈ told j.table j.hostname result ++ toldAfter result) :
    e.spans = [] ∧ e.details = [] := by
  rcases result with (⟨path, f⟩ | cause) | output <;>
    simp only [told, toldAfter, List.mem_append, List.mem_cons, List.not_mem_nil, or_false,
      false_or] at h
  · subst h
    exact ⟨rfl, rfl⟩
  · rcases h with (rfl | rfl) | rfl <;> exact ⟨rfl, rfl⟩
  · rcases h with rfl | rfl | rfl <;> exact ⟨rfl, rfl⟩

/-- The program halts and tells nothing, or tells of its call and of the failure of that. -/
theorem events_cases (o : Outside σ) (s : σ) (argv : List Bytes) (env : Environment) :
    let r := (script argv env).run o s
    r.events = [] ∧ (∃ h, r.value = .halted h) ∨
      ∃ (j : Job) (result : _), r.events = told j.table j.hostname result ++ toldAfter result ∧
        r.value = .seeded result := by
  intro r
  cases hp : parse argv with
  | error h =>
    have hr : r = ⟨.halted h, [], s⟩ := by
      simp only [r, script, hp]
      rfl
    exact .inl ⟨by rw [hr]; rfl, h, by rw [hr]⟩
  | ok i =>
    let j := job env i
    refine .inr ⟨j, (j.script.run o s).value, ?_, congrArg Run.value (run_of_parse hp env)⟩
    rw [← (j.goes_run o s).events_eq]
    exact events_of_parse hp env

theorem plain_of_mem_events {e : Event} (h : e ∈ ((script argv env).run o s).events) :
    e.spans = [] ∧ e.details = [] := by
  rcases events_cases o s argv env with ⟨hn, -⟩ | ⟨j, result, he, -⟩
  · simp [hn] at h
  · exact plain_of_mem_told (he ▸ h)

theorem exists_of_exitCode_eq_one {outcome : Outcome} (h : outcome.exitCode = 1) :
    ∃ e, outcome = .seeded (.error e) := by
  match outcome with
  | .halted (.help _) | .halted .version | .halted (.usage _) => exact nomatch h
  | .seeded (.ok _) => exact nomatch h
  | .seeded (.error e) => exact ⟨e, rfl⟩

/-! ## What is printed -/

/-- What is reported of a run are its events, and between them what the client tells of the put. -/
theorem Running.reports_eq {r : Run σ Outcome} (h : Running o s argv env r) : r.reports =
    r.events.take 2 ++ r.puts.flatMap (fun x => x.2.1.notices x.1) ++ r.events.drop 2 := by
  cases h with
  | halts => rfl
  | seeds _ hs =>
    rw [reports_ofSeeding, events_ofSeeding, puts_ofSeeding, hs.reports_eq, hs.events_eq]
    cases hs <;> simp [told, toldAfter, Run.puts, Effect.put?, List.filterMap_cons]

theorem shown_of_setsLevel (h : env.SetsLevel b) (e : Event) : shown env e =
    if admits b e.level then e.line (e.spans.filter (admits b ·.level)) else "" := by
  rw [shown, h.filter, Filter.line?_plain]
  split <;> rfl

theorem shown_ne_empty_iff (h : env.SetsLevel b) {e : Event} :
    shown env e ≠ "" ↔ admits b e.level = true := by
  rw [shown_of_setsLevel h]
  split
  · next ha => exact iff_of_true (e.line_ne_empty _) ha
  · next ha => exact iff_of_false (not_not_intro rfl) ha

/-- What a narrower level shows is shown by a wider one. -/
theorem shown_ne_empty_mono {b₁ b₂ : Bound} (hb : b₁.rank ≤ b₂.rank) (h₁ : env₁.SetsLevel b₁)
    (h₂ : env₂.SetsLevel b₂) {e : Event} (ha : shown env₁ e ≠ "") : shown env₂ e ≠ "" := by
  rw [shown_ne_empty_iff h₁] at ha
  exact (shown_ne_empty_iff h₂).mpr (Bound.admits_mono hb ha)

/-- An event of the program is shown as the same line under every level that admits it. -/
theorem shown_of_mem_events {e : Event} (he : e ∈ ((script argv env).run o s).events)
    (h₁ : env₁.SetsLevel b) : shown env₁ e = if admits b e.level then e.line [] else "" := by
  rw [shown_of_setsLevel h₁, (plain_of_mem_events he).1, List.filter_nil]

theorem seen_congr (hf : filter env₁ = filter env₂) (r : Run σ Outcome) :
    seen argv env₁ r = seen argv env₂ r := by
  have hs : shown env₁ = shown env₂ := by
    funext e
    rw [shown, shown, hf]
  rw [seen, seen, hs]

/-- What is printed of a run are the lines of the events that the level admits. -/
theorem stdout_of_setsLevel (h : env.SetsLevel b) (r : Run σ Outcome) :
    (seen argv env r).stdout = String.join ((r.reports.filter (admits b ·.level)).map fun e =>
      e.line (e.spans.filter (admits b ·.level))) ++ stdoutOf argv r.value := by
  have hj (es : List Event) : String.join (es.map (shown env)) =
      String.join ((es.filter (admits b ·.level)).map fun e =>
        e.line (e.spans.filter (admits b ·.level))) := by
    induction es with
    | nil => simp
    | cons e es ih =>
      cases ha : admits b e.level <;> simp [shown_of_setsLevel h, ih, ha]
  rw [seen, hj]

/-- A run that fails ends with the event of its failure. -/
theorem exists_reports_eq {e : SeedError}
    (h : ((script argv env).run o s).value = .seeded (.error e)) :
    failureEvent e ∈ ((script argv env).run o s).events ∧
    ∃ earlier, ((script argv env).run o s).reports = earlier ++ [failureEvent e] := by
  have hr := running_run o s argv env
  generalize (script argv env).run o s = r at hr h
  cases hr with
  | halts => exact nomatch h
  | @seeds i q hp hs =>
    have hv : q.value = .error e := Outcome.seeded.inj h
    rw [events_ofSeeding, reports_ofSeeding, hv]
    exact ⟨List.mem_append_right _ (.head _), q.reports, rfl⟩

theorem stdout_endsWith_failure {e : SeedError} (env' : Environment)
    (h : ((script argv env).run o s).value = .seeded (.error e)) :
    EndsWith (seen argv env' ((script argv env).run o s)).stdout (shown env' (failureEvent e)) := by
  obtain ⟨-, earlier, hr⟩ := exists_reports_eq h
  refine ⟨String.join (earlier.map (shown env')), ?_⟩
  rw [seen, h, hr]
  simp [stdoutOf]

end Program

/-- The filter decides what is printed and nothing else. A plain level prints the events that it
admits, each as its line, and with them nothing but what the client tells of the put. So a wider
level prints all that a narrower one does, and every level but the one that is off prints why a run
has failed. -/
theorem verbosity_only_filters (o : Outside σ) (s : σ) (argv : List Bytes) :
    (∀ env₁ env₂ : Environment, env₁.AgreesBut env₂ →
      let r₁ := (Program.script argv env₁).run o s
      let r₂ := (Program.script argv env₂).run o s
      r₁ = r₂ ∧ (Program.seen argv env₁ r₁).exitCode = (Program.seen argv env₂ r₂).exitCode ∧
      (Program.seen argv env₁ r₁).stderr = (Program.seen argv env₂ r₂).stderr ∧
      (env₁.SetsNone → env₂.SetsLevel (some .info) →
        Program.seen argv env₁ r₁ = Program.seen argv env₂ r₂) ∧
      ∀ b₁ b₂ : Bound, b₁.rank ≤ b₂.rank → env₁.SetsLevel b₁ → env₂.SetsLevel b₂ →
        (r₁.events.filter (Program.shown env₁ · ≠ "")).Sublist
          (r₂.events.filter (Program.shown env₂ · ≠ "")) ∧
        ∀ e ∈ r₁.events, Program.shown env₁ e ≠ "" →
          Program.shown env₁ e = Program.shown env₂ e) ∧
    ∀ (env : Environment) (b : Bound), env.SetsLevel b →
      let r := (Program.script argv env).run o s
      let stdout := (Program.seen argv env r).stdout
      r.reports = r.events.take 2 ++ r.puts.flatMap (fun x => x.2.1.notices x.1) ++
        r.events.drop 2 ∧
      (r.events.filter (Program.shown env · ≠ "") = r.events.filter fun e => admits b e.level) ∧
      (∀ e ∈ r.events, e.spans = [] ∧
        Program.shown env e = (if admits b e.level then e.line [] else "") ∧
        ((∀ c ∈ e.text.toList, ¬ IsSteering c) →
          e.line [] = e.level.column ++ " " ++ e.text ++ "\n")) ∧
      stdout = String.join ((r.reports.filter fun e => admits b e.level).map fun e =>
        e.line (e.spans.filter fun span => admits b span.level)) ++
          Program.stdoutOf argv r.value ∧
      (r.value.exitCode = 1 → ∃ e, r.value = .seeded (.error e) ∧ failureEvent e ∈ r.events ∧
        EndsWith stdout (Program.shown env (failureEvent e)) ∧
        (Program.shown env (failureEvent e) ≠ "" ↔ b ≠ none) ∧ (b = none → stdout = "")) := by
  refine ⟨?_, ?_⟩
  · intro env₁ env₂ h r₁ r₂
    have hr : r₁ = r₂ := by simp only [r₁, r₂, Program.script_congr h]
    refine ⟨hr, by rw [hr]; rfl, by rw [hr]; rfl, fun h₁ h₂ => ?_, fun b₁ b₂ hb h₁ h₂ => ⟨?_, ?_⟩⟩
    · rw [hr]
      exact Program.seen_congr (h₁.filter.trans h₂.filter.symm) r₂
    · rw [← hr]
      refine List.monotone_filter_right _ fun e ha => ?_
      simpa using Program.shown_ne_empty_mono hb h₁ h₂ (by simpa using ha)
    · intro e he ha
      have ha₂ := Program.shown_ne_empty_mono hb h₁ h₂ ha
      rw [Program.shown_ne_empty_iff h₁] at ha
      rw [Program.shown_ne_empty_iff h₂] at ha₂
      rw [Program.shown_of_mem_events he h₁, Program.shown_of_mem_events he h₂, if_pos ha,
        if_pos ha₂]
  · intro env b h r stdout
    refine ⟨(Program.running_run o s argv env).reports_eq, ?_, ?_, Program.stdout_of_setsLevel h r,
      ?_⟩
    · refine List.filter_congr fun e _ => ?_
      rw [Bool.eq_iff_iff, decide_eq_true_iff, Program.shown_ne_empty_iff h]
    · intro e he
      obtain ⟨hs, hd⟩ := Program.plain_of_mem_events he
      exact ⟨hs, Program.shown_of_mem_events he h, Event.line_of_not_isSteering hd⟩
    · intro hx
      obtain ⟨e, hv⟩ := Program.exists_of_exitCode_eq_one hx
      refine ⟨e, hv, (Program.exists_reports_eq hv).1, Program.stdout_endsWith_failure env hv,
        (Program.shown_ne_empty_iff h).trans Bound.admits_error_iff, ?_⟩
      rintro rfl
      have ho : stdout = _ := Program.stdout_of_setsLevel h r
      simpa [hv, Program.stdoutOf] using ho

open World.Plain in
theorem verbosity_only_filters_missing :
    let w := ofFiles (Utf8.encode "cert") (Utf8.encode "key") {} rfl
    let argv := ["cert-seed", "a.test", "c", "x"].map Utf8.encode
    let env (value : Option Bytes) : Environment :=
      fun name => if name = Filter.settingName then value else none
    let level (b : Bound) := env (some (Utf8.encode b.word))
    let r (e : Environment) := (Program.script argv e).run outside w
    Program.seen argv (env none) (r (env none)) =
      Program.seen argv (level (some .info)) (r (level (some .info))) ∧
    ((r (level none)).events.filter (Program.shown (level none) · ≠ "")).Sublist
      ((r (level (some .warn))).events.filter (Program.shown (level (some .warn)) · ≠ "")) ∧
    EndsWith (Program.seen argv (level (some .warn)) (r (level (some .warn)))).stdout
      ("ERROR Could not read the certificate or key: " ++
        "Could not read x: No such file or directory (os error 2)\n") := by
  intro w argv env level r
  have ha (v v' : Option Bytes) : (env v).AgreesBut (env v') := fun name hn => by
    simp only [env, if_neg hn]
  have hl (b : Bound) : (level b).SetsLevel b := if_pos rfl
  have h := verbosity_only_filters outside w argv
  refine ⟨(h.1 _ _ (ha _ _)).2.2.2.1 (.inl (if_pos rfl)) (hl _),
    ((h.1 _ _ (ha _ _)).2.2.2.2 _ _ (by decide) (hl none) (hl (some .warn))).1, ?_⟩
  have hv : (r (level (some .warn))).value = .seeded (.error (.read [0x78] (.system 2))) := rfl
  obtain ⟨-, -, hs, -, hf⟩ := h.2 _ _ (hl (some .warn))
  obtain ⟨e, he, hm, ⟨before, ho⟩, -⟩ := hf (congrArg Program.Outcome.exitCode hv)
  cases hv.symm.trans he
  have ht : (failureEvent (.read [0x78] (.system 2))).text =
      "Could not read the certificate or key: " ++
        "Could not read x: No such file or directory (os error 2)" := by
    decide
  have hc : (failureEvent (.read [0x78] (.system 2))).text.toList.all (¬ IsSteering ·) = true := by
    rw [ht]
    decide
  obtain ⟨-, hp, hn⟩ := hs _ hm
  have hp := hp.trans (hn fun c h => of_decide_eq_true (List.all_eq_true.mp hc c h))
  rw [ht] at hp
  exact ⟨before, ho.trans (congrArg (before ++ ·) hp)⟩

end TlsSeed
