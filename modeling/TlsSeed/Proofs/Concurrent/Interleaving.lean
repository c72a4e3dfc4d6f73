import Mathlib.Logic.Function.Basic
import TlsSeed.Proofs.Concurrent.Execution
import TlsSeed.Proofs.Store.Keeper

/-! # Interleaved executions

Any number of calls of seeding are under way at once and share files and a store. They act in any
order, the files change between any two of their deeds, and a request is applied at any time after
it was sent, or never. Whatever they do, the store never holds a mixture of what two of them sent.
-/

namespace TlsSeed

open Item Store Text

/-- What executions share, how far each of them is, and the requests that were sent and not yet
applied. -/
structure Scene (ι : Type) where
  files : File.Path → Except File.Fault Bytes
  held : Contents
  flight : List (ι × Request)
  executions : ι → Execution (Except SeedError PutOutput)

/-- What can happen in a scene. A request that is lost, or that goes to another store, leaves no
trace in this one. -/
inductive Act (ι : Type) where
  | does (i : ι) (deed : Deed)
  | change (files : File.Path → Except File.Fault Bytes)
  | applies (i : ι) (request : Request)
  | loses (i : ι) (request : Request)

namespace Act

variable {ι : Type} [DecidableEq ι]

/-- The deed of one execution. -/
def deed? (i : ι) : Act ι → Option Deed
  | does j deed => if j = i then some deed else none
  | _ => none

/-- What one execution reads, and what it finds. -/
def read? (i : ι) (a : Act ι) : Option (File.Path × Except File.Fault Bytes) :=
  (a.deed? i).bind Deed.read?

theorem eq_of_deed? {i : ι} {a : Act ι} {d : Deed} (h : a.deed? i = some d) : a = does i d := by
  cases a with
  | change | applies | loses => exact nomatch h
  | does j d' =>
    obtain ⟨rfl, he⟩ := Option.ite_none_right_eq_some.mp h
    rw [Option.some.inj he]

theorem eq_of_read? {i : ι} {a : Act ι} {path : File.Path} {answer : Except File.Fault Bytes}
    (h : a.read? i = some (path, answer)) : a = does i (.read path answer) := by
  obtain ⟨d, hd, hr⟩ := Option.bind_eq_some_iff.mp h
  rw [eq_of_deed? hd, Deed.eq_of_read? hr]

end Act

section

variable {ι : Type} [DecidableEq ι]

/-- The deeds of one execution among all that happens, in order. -/
def deedsOf (i : ι) (acts : List (Act ι)) : List Deed :=
  acts.filterMap (Act.deed? i)

/-- An execution has sent a put. -/
def Sent (i : ι) (acts : List (Act ι)) (p : Put) : Prop :=
  ∃ client, (client, p) ∈ sendsOf (deedsOf i acts)

variable {i : ι} {acts : List (Act ι)} {d : Deed} {p : Put}

theorem deedsOf_append (acts more : List (Act ι)) :
    deedsOf i (acts ++ more) = deedsOf i acts ++ deedsOf i more :=
  List.filterMap_append

theorem deedsOf_concat_self : deedsOf i (acts ++ [.does i d]) = deedsOf i acts ++ [d] := by
  simp [deedsOf, Act.deed?]

theorem deedsOf_concat_other {a : Act ι} (h : a.deed? i = none) :
    deedsOf i (acts ++ [a]) = deedsOf i acts := by
  simp [deedsOf, h]

theorem Sent.mono (h : Sent i acts p) (more : List (Act ι)) : Sent i (acts ++ more) p := by
  obtain ⟨client, hm⟩ := h
  refine ⟨client, ?_⟩
  rw [deedsOf_append, sendsOf, List.filterMap_append]
  exact List.mem_append_left _ hm

theorem sent_of_mem_requests {r : Request} (h : r ∈ d.requests) :
    Sent i (acts ++ [.does i d]) r.put := by
  cases d with
  | read | hear | log => exact nomatch h
  | send client q =>
    have hr : q.request client = .ok r := by
      cases hq : q.request client <;> simp_all [Deed.requests, Except.toOption]
    obtain rfl := put_of_request hr
    refine ⟨client, ?_⟩
    rw [deedsOf_concat_self, sendsOf, List.filterMap_append]
    exact List.mem_append_right _ List.mem_cons_self

end

namespace Scene

variable {ι : Type} [DecidableEq ι]

/-- One step of a scene. An execution reads what the files hold at that moment. What it hears about
its put is left open, as is when: it may hear of a failure while its request is still under way. -/
inductive Step : Scene ι → Act ι → Scene ι → Prop
  | act {s : Scene ι} {i : ι} {d : Deed} {x : Execution (Except SeedError PutOutput)}
      (hd : (s.executions i).Does d x) (hf : d.Agrees s.files) :
      Step s (.does i d) { s with
        flight := s.flight ++ d.requests.map (i, ·)
        executions := Function.update s.executions i x }
  | change {s : Scene ι} (files : File.Path → Except File.Fault Bytes) :
      Step s (.change files) { s with files }
  | apply {s : Scene ι} {i : ι} {r : Request} {before after : List (ι × Request)}
      (h : s.flight = before ++ (i, r) :: after) :
      Step s (.applies i r) { s with held := s.held.replace r.put, flight := before ++ after }
  | lose {s : Scene ι} {i : ι} {r : Request} {before after : List (ι × Request)}
      (h : s.flight = before ++ (i, r) :: after) :
      Step s (.loses i r) { s with flight := before ++ after }

/-- Any number of steps, with what happens in them. -/
inductive Runs : Scene ι → List (Act ι) → Scene ι → Prop
  | nil (s : Scene ι) : Runs s [] s
  | cons {s s₁ s' : Scene ι} {a : Act ι} {acts : List (Act ι)} (h : s.Step a s₁)
      (hr : Runs s₁ acts s') : Runs s (a :: acts) s'

/-- No call has done anything yet. -/
structure Begins (jobs : ι → Job) (s : Scene ι) : Prop where
  ready (i : ι) : s.executions i = .ready (jobs i).script
  flight : s.flight = []

/-- In a run, an execution reads the texts of a certificate and a key, each as its file holds it at
that moment and the key later, and it reads nothing else. -/
inductive Captures (i : ι) (j : Job) (cert key : String) (start : Scene ι) :
    List (Act ι) → Scene ι → Prop
  | intro {before between after : List (Act ι)} {s₁ s₂ s₃ s₄ s : Scene ι}
      (toCert : start.Runs before s₁)
      (cert_held : s₁.files j.certPath = .ok (Utf8.encode cert))
      (readCert : s₁.Step (.does i (.read j.certPath (.ok (Utf8.encode cert)))) s₂)
      (toKey : s₂.Runs between s₃)
      (key_held : s₃.files j.keyPath = .ok (Utf8.encode key))
      (readKey : s₃.Step (.does i (.read j.keyPath (.ok (Utf8.encode key)))) s₄)
      (rest : s₄.Runs after s)
      (none_before : readsOf (deedsOf i before) = [])
      (none_between : readsOf (deedsOf i between) = [])
      (none_after : readsOf (deedsOf i after) = []) :
      Captures i j cert key start
        (before ++ .does i (.read j.certPath (.ok (Utf8.encode cert))) ::
          (between ++ .does i (.read j.keyPath (.ok (Utf8.encode key))) :: after)) s

variable {jobs : ι → Job} {held : Contents} {acts : List (Act ι)} {s s' : Scene ι} {a : Act ι}

theorem Runs.trans {s₁ s₂ : Scene ι} {more : List (Act ι)} (h : s.Runs acts s₁)
    (h' : s₁.Runs more s₂) : s.Runs (acts ++ more) s₂ := by
  induction h with
  | nil => exact h'
  | cons hs _ ih => exact .cons hs (ih h')

theorem Runs.split {before after : List (Act ι)} (h : s.Runs (before ++ a :: after) s') :
    ∃ s₁ s₂, s.Runs before s₁ ∧ s₁.Step a s₂ ∧ s₂.Runs after s' := by
  induction before generalizing s with
  | nil =>
    cases h with
    | cons hs hr => exact ⟨_, _, .nil s, hs, hr⟩
  | cons b before ih =>
    cases h with
    | cons hs hr =>
      obtain ⟨s₁, s₂, h₁, h₂, h₃⟩ := ih hr
      exact ⟨s₁, s₂, .cons hs h₁, h₂, h₃⟩

/-- What one execution does while nobody else acts. -/
theorem runs_of_carries {i : ι} {x : Execution (Except SeedError PutOutput)} {ds : List Deed}
    (h : (s.executions i).Carries ds x) (ha : ∀ d ∈ ds, d.Agrees s.files) :
    s.Runs (ds.map (.does i)) { s with
      flight := s.flight ++ (ds.flatMap Deed.requests).map (i, ·)
      executions := Function.update s.executions i x } := by
  induction ds generalizing s with
  | nil =>
    cases h
    simpa using Runs.nil s
  | cons d ds ih =>
    cases h with
    | @cons _ y _ _ _ hd hc =>
      rw [List.forall_mem_cons] at ha
      let s₁ : Scene ι := { s with
        flight := s.flight ++ d.requests.map (i, ·)
        executions := Function.update s.executions i y }
      have hc : (s₁.executions i).Carries ds x := by rwa [show s₁.executions i = y by simp [s₁]]
      have h₁ := ih hc ha.2
      simp only [s₁, Function.update_idem, List.append_assoc, ← List.map_append] at h₁
      exact .cons (.act hd ha.1) h₁

/-- A call that finds two texts can get its record into the store. -/
theorem Begins.can_store (hb : s.Begins jobs) (i : ι) {cert key : String} {r : Request}
    (hc : s.files (jobs i).certPath = .ok (Utf8.encode cert))
    (hk : s.files (jobs i).keyPath = .ok (Utf8.encode key))
    (hr : ((jobs i).table.putOf ⟨(jobs i).hostname, cert, key⟩).request (jobs i).table.client =
      .ok r) :
    ∃ acts s', s.Runs acts s' ∧
      s'.held = s.held.replace ((jobs i).table.putOf ⟨(jobs i).hostname, cert, key⟩) := by
  obtain ⟨x, hx⟩ := (jobs i).carries_deeds cert key
  rw [← hb.ready i] at hx
  have h := runs_of_carries hx (Job.agrees_deeds hc hk)
  rw [Job.requests_deeds hr] at h
  refine ⟨_, _, h.trans (.cons (.apply rfl) (.nil _)), ?_⟩
  rw [put_of_request hr]

/-! ## What every step keeps -/

/-- What has happened so far accounts for how far the executions are, for the requests under way,
and for what the store holds. -/
structure Accounts (jobs : ι → Job) (held : Contents) (acts : List (Act ι)) (s : Scene ι) :
    Prop where
  keeps (i : ι) : (s.executions i).Keeps (jobs i).Orderly (deedsOf i acts)
  sent : ∀ i r, (i, r) ∈ s.flight → Sent i acts r.put
  stored : ∀ table hostname, ∀ item ∈ s.held table hostname, item ∈ held table hostname ∨
    ∃ i p, Sent i acts p ∧ p.table = table ∧ hostnameOf? p.item = some hostname ∧ p.item = item
  keyed : held.IsKeyed → s.held.IsKeyed

theorem Begins.accounts (h : s.Begins jobs) : Accounts jobs s.held [] s where
  keeps i := by
    rw [h.ready]
    exact (jobs i).keeps_orderly
  sent i r hm := by
    rw [h.flight] at hm
    exact nomatch hm
  stored _ _ _ hm := .inl hm
  keyed hk := hk

theorem Step.keeps {P : ι → List Deed → Prop} (hs : s.Step a s')
    (h : ∀ i, (s.executions i).Keeps (P i) (deedsOf i acts)) (i : ι) :
    (s'.executions i).Keeps (P i) (deedsOf i (acts ++ [a])) := by
  cases hs with
  | @act k d x hd =>
    change (Function.update s.executions k x i).Keeps _ _
    by_cases hi : k = i
    · subst hi
      rw [deedsOf_concat_self, Function.update_self]
      exact (h k).does hd
    · rw [deedsOf_concat_other (by simp [Act.deed?, hi]), Function.update_of_ne (Ne.symm hi)]
      exact h i
  | change | apply | lose =>
    rw [deedsOf_concat_other rfl]
    exact h i

/-- A request that is under way after a step was under way before, or its put is sent in it. -/
theorem Step.sent (hs : s.Step a s') (h : ∀ i r, (i, r) ∈ s.flight → Sent i acts r.put) (i : ι)
    (r : Request) (hm : (i, r) ∈ s'.flight) : Sent i (acts ++ [a]) r.put := by
  cases hs with
  | act =>
    rcases List.mem_append.mp hm with hm | hm
    · exact (h i r hm).mono _
    · obtain ⟨r', hr, he⟩ := List.mem_map.mp hm
      obtain ⟨rfl, rfl⟩ := Prod.mk.inj he
      exact sent_of_mem_requests hr
  | change => exact (h i r hm).mono _
  | @apply _ _ before after hf | @lose _ _ before after hf =>
    refine (h i r ?_).mono _
    rw [hf]
    exact ((List.sublist_cons_self _ after).append_left before).subset hm

/-- A step stores nothing but the item of a request that is under way. -/
theorem Step.stored (hs : s.Step a s') {table hostname : String} {item : Entries}
    (hm : item ∈ s'.held table hostname) : item ∈ s.held table hostname ∨
      ∃ i r, (i, r) ∈ s.flight ∧ r.put.table = table ∧ hostnameOf? r.put.item = some hostname ∧
        r.put.item = item := by
  cases hs with
  | act | change | lose => exact .inl hm
  | @apply i r before after hf =>
    rcases Contents.mem_replace hm with hp | hm
    · have hr : (i, r) ∈ s.flight := hf ▸ List.mem_append_right _ List.mem_cons_self
      exact .inr ⟨i, r, hr, hp⟩
    · exact .inl hm

theorem Step.keyed (hs : s.Step a s') (h : s.held.IsKeyed) : s'.held.IsKeyed := by
  cases hs with
  | act | change | lose => exact h
  | apply => exact h.replace _

theorem Accounts.step (h : Accounts jobs held acts s) (hs : s.Step a s') :
    Accounts jobs held (acts ++ [a]) s' where
  keeps := hs.keeps h.keeps
  sent := hs.sent h.sent
  stored table hostname item hm := by
    rcases hs.stored hm with hm | ⟨i, r, hr, hp⟩
    · refine (h.stored table hostname item hm).imp_right ?_
      rintro ⟨i, p, hp, hat⟩
      exact ⟨i, p, hp.mono _, hat⟩
    · exact .inr ⟨i, r.put, (h.sent i r hr).mono _, hp⟩
  keyed hk := hs.keyed (h.keyed hk)

theorem Accounts.runs {more : List (Act ι)} (h : Accounts jobs held acts s) (hr : s.Runs more s') :
    Accounts jobs held (acts ++ more) s' := by
  -- What has happened before the run grows with every step of it.
  induction hr generalizing acts with
  | nil => rwa [List.append_nil]
  | cons hs hr ih =>
    rw [List.append_cons]
    exact ih (h.step hs)

/-! ## What was read when -/

theorem Step.files_of_read {i : ι} {path : File.Path} {answer : Except File.Fault Bytes}
    (h : s.Step (.does i (.read path answer)) s') : s.files path = answer := by
  cases h with
  | act hd hf => exact hf.symm

theorem readsOf_deedsOf (i : ι) (acts : List (Act ι)) :
    readsOf (deedsOf i acts) = acts.filterMap (Act.read? i) :=
  List.filterMap_filterMap

theorem split_of_reads {i : ι} {path : File.Path} {answer : Except File.Fault Bytes}
    {reads : List (File.Path × Except File.Fault Bytes)}
    (h : readsOf (deedsOf i acts) = (path, answer) :: reads) :
    ∃ before after, acts = before ++ .does i (.read path answer) :: after ∧
      readsOf (deedsOf i before) = [] ∧ readsOf (deedsOf i after) = reads := by
  simp only [readsOf_deedsOf] at h ⊢
  obtain ⟨before, a, after, rfl, hb, ha, rfl⟩ := List.filterMap_eq_cons_iff.mp h
  obtain rfl := Act.eq_of_read? ha
  exact ⟨before, after, rfl, List.filterMap_eq_nil_iff.mpr hb, rfl⟩

theorem Runs.captures {i : ι} {j : Job} {cert key : String} (h : s.Runs acts s')
    (hr : readsOf (deedsOf i acts) = [(j.certPath, .ok (Utf8.encode cert)),
      (j.keyPath, .ok (Utf8.encode key))]) : Captures i j cert key s acts s' := by
  obtain ⟨before, rest, rfl, hb, hr⟩ := split_of_reads hr
  obtain ⟨between, after, rfl, hw, ha⟩ := split_of_reads hr
  obtain ⟨s₁, s₂, toCert, readCert, h⟩ := h.split
  obtain ⟨s₃, s₄, toKey, readKey, rest⟩ := h.split
  exact .intro toCert readCert.files_of_read readCert toKey readKey.files_of_read readKey rest
    hb hw ha

theorem Begins.orderly {start : Scene ι} (hb : start.Begins jobs) (h : start.Runs acts s) (i : ι) :
    (jobs i).Orderly (deedsOf i acts) :=
  ((hb.accounts.runs h).keeps i).now

theorem Begins.captures_of_sent {start : Scene ι} {i : ι} {client : Client} {p : Put}
    (hb : start.Begins jobs) (h : start.Runs acts s)
    (hp : (client, p) ∈ sendsOf (deedsOf i acts)) :
    ∃ cert key, client = (jobs i).table.client ∧
      p = (jobs i).table.putOf ⟨(jobs i).hostname, cert, key⟩ ∧
      Captures i (jobs i) cert key start acts s := by
  rcases hb.orderly h i with hn | ⟨cert, key, hr, hs⟩
  · rw [hn] at hp
    exact nomatch hp
  · rw [hs, List.mem_singleton, Prod.mk.injEq] at hp
    exact ⟨cert, key, hp.1, hp.2, h.captures hr⟩

theorem Begins.sends_le {start : Scene ι} (hb : start.Begins jobs) (h : start.Runs acts s)
    (i : ι) : (sendsOf (deedsOf i acts)).length ≤ 1 := by
  rcases hb.orderly h i with hn | ⟨cert, key, -, hs⟩
  · simp [hn]
  · simp [hs]

/-- In every scene that calls of seeding can get to, an item of the store was there in the
beginning, or it is the record of one single call: its own hostname with the texts that this call
itself has read, each as its file held it at that moment. A call sends at most one put, and only
after it has read both texts. -/
theorem Runs.never_mixed {start : Scene ι} (hb : start.Begins jobs) (h : start.Runs acts s) :
    (∀ table hostname, ∀ item ∈ s.held table hostname, item ∈ start.held table hostname ∨
      ∃ i cert key, (jobs i).table.name = table ∧ (jobs i).hostname = hostname ∧
        item = [("hostname", .string hostname), ("cert", .string cert), ("key", .string key)] ∧
        Captures i (jobs i) cert key start acts s) ∧
    (∀ i, (sendsOf (deedsOf i acts)).length ≤ 1) ∧
    (∀ i, ∀ sent ∈ sendsOf (deedsOf i acts), ∃ cert key,
      sent = ((jobs i).table.client, (jobs i).table.putOf ⟨(jobs i).hostname, cert, key⟩) ∧
      Captures i (jobs i) cert key start acts s) ∧
    (start.held.IsKeyed → s.held.IsKeyed) := by
  have ha := hb.accounts.runs h
  refine ⟨fun table hostname item hm => ?_, hb.sends_le h, fun i ⟨client, p⟩ hp => ?_, ha.keyed⟩
  · refine (ha.stored table hostname item hm).imp_right ?_
    rintro ⟨i, p, ⟨client, hp⟩, rfl, hh, rfl⟩
    obtain ⟨cert, key, rfl, rfl, hc⟩ := hb.captures_of_sent h hp
    obtain rfl := Option.some.inj hh
    exact ⟨i, cert, key, rfl, rfl, rfl, hc⟩
  · obtain ⟨cert, key, rfl, rfl, hc⟩ := hb.captures_of_sent h hp
    exact ⟨cert, key, rfl, hc⟩

open World.Plain in
theorem Runs.never_mixed_overtaken :
    let files (cert key : String) :=
      (ofFiles (Utf8.encode cert) (Utf8.encode key) {} rfl).1.files.read
    let j : Job := ⟨table, "a.test", certPath, keyPath⟩
    let start : Scene Bool :=
      ⟨files "old cert" "old key", fun _ _ => [], [], fun _ => .ready j.script⟩
    ∃ acts s, start.Runs acts s ∧
      s.held table.name "a.test" = [[("hostname", .string "a.test"),
        ("cert", .string "old cert"), ("key", .string "new key")]] ∧
      ∃ i, Captures i j "old cert" "new key" start acts s := by
  intro files j start
  have hb : start.Begins fun _ => j := ⟨fun _ => rfl, rfl⟩
  have hok (cert : String) : ∃ r,
      (j.table.putOf ⟨j.hostname, cert, "new key"⟩).request j.table.client = .ok r :=
    Shelf.isOk_request_iff.mp (takes_putOf _).1
  obtain ⟨r, hr⟩ := hok "old cert"
  obtain ⟨q, hq⟩ := hok "new cert"
  -- The slower call reads its certificate, then the files change, and the faster call does all that
  -- it does before the slower one reads its key.
  obtain ⟨x, _ | @⟨_, x₁, _, _, _, hx₁, hx⟩⟩ := j.carries_deeds "old cert" "new key"
  change x₁.Carries (j.deeds "old cert" "new key").tail x at hx
  obtain ⟨y, hy⟩ := j.carries_deeds "new cert" "new key"
  let s₁ : Scene Bool := { start with executions := Function.update start.executions false x₁ }
  have h₁ : start.Runs _ s₁ := .cons (.act hx₁ rfl) (.nil _)
  let s₂ : Scene Bool := { s₁ with files := files "new cert" "new key" }
  have h₂ : s₁.Runs _ s₂ := .cons (.change _) (.nil _)
  let s₃ : Scene Bool := { s₂ with
    flight := [(true, q)], executions := Function.update s₂.executions true y }
  have h₃ := runs_of_carries (s := s₂) (i := true) hy (Job.agrees_deeds rfl rfl)
  rw [Job.requests_deeds hq] at h₃
  change s₂.Runs _ s₃ at h₃
  let s₄ : Scene Bool := { s₃ with
    flight := [(true, q), (false, r)], executions := Function.update s₃.executions false x }
  have h₄ := runs_of_carries (s := s₃) (i := false) hx
    (List.forall_mem_cons.mpr ⟨rfl, by simp [Deed.Agrees]⟩)
  rw [show (j.deeds "old cert" "new key").tail.flatMap Deed.requests = [r] from
    Job.requests_deeds hr] at h₄
  change s₃.Runs _ s₄ at h₄
  have h₅ := Runs.cons (.apply (show s₄.flight = [] ++ (true, q) :: [(false, r)] from rfl))
    (.cons (.apply (i := false) (r := r) rfl) (.nil _))
  have h := h₁.trans (h₂.trans (h₃.trans (h₄.trans h₅)))
  have hs : (start.held.replace q.put).replace r.put table.name "a.test" =
      [[("hostname", .string "a.test"), ("cert", .string "old cert"),
        ("key", .string "new key")]] := by
    rw [put_of_request hr]
    exact Contents.replace_self rfl
  refine ⟨_, _, h, hs, ?_⟩
  rcases (h.never_mixed hb).1 table.name "a.test" _ (hs ▸ List.mem_singleton_self _) with
    hn | ⟨i, cert, key, -, -, he, hc⟩
  · exact absurd hn List.not_mem_nil
  · obtain ⟨rfl, rfl⟩ : "old cert" = cert ∧ "new key" = key := by simpa using he
    exact ⟨i, hc⟩

end Scene

end TlsSeed
