import TlsSeed.Proofs.Job

/-! # Executions

A script is carried out deed by deed, and others may act between two deeds. What it has done at any
moment can be told from the script alone, whatever it was answered.
-/

namespace TlsSeed

open Item Text

variable {α : Type}

/-- One thing that an execution does. It may wait between the sending of a put and the answer. -/
inductive Deed where
  | read (path : File.Path) (answer : Except File.Fault Bytes)
  | send (client : Client) (put : Store.Put)
  | hear (answer : Except Store.SendError Store.PutOutput)
  | log (event : Log.Event)

namespace Deed

/-- The file that is read, and what was found. -/
def read? : Deed → Option (File.Path × Except File.Fault Bytes)
  | read path answer => some (path, answer)
  | _ => none

/-- The put that a client is asked to send. -/
def send? : Deed → Option (Client × Store.Put)
  | send client put => some (client, put)
  | _ => none

/-- The requests that go out. A client makes at most one for a put, and tries once. -/
def requests : Deed → List Store.Request
  | send client put => (put.request client).toOption.toList
  | _ => []

theorem eq_of_read? {d : Deed} {path : File.Path} {answer : Except File.Fault Bytes}
    (h : d.read? = some (path, answer)) : d = read path answer := by
  cases d with
  | send | hear | log => exact nomatch h
  | read => obtain ⟨rfl, rfl⟩ := Prod.mk.inj (Option.some.inj h); rfl

/-- What is read is what the files hold. -/
def Agrees (files : File.Path → Except File.Fault Bytes) : Deed → Prop
  | read path answer => answer = files path
  | _ => True

end Deed

/-- The reads among deeds, in order. -/
def readsOf (ds : List Deed) : List (File.Path × Except File.Fault Bytes) :=
  ds.filterMap Deed.read?

/-- The puts sent among deeds, in order. -/
def sendsOf (ds : List Deed) : List (Client × Store.Put) :=
  ds.filterMap Deed.send?

/-- A script that is under way: what is left of it, or what follows the answer it waits for. -/
inductive Execution (α : Type) where
  | ready (rest : Script α)
  | waiting (next : Except Store.SendError Store.PutOutput → Script α)

/-- What an execution can do next, and how it is then. -/
inductive Execution.Does : Execution α → Deed → Execution α → Prop
  | read (path : File.Path) (next : Except File.Fault Bytes → Script α)
      (answer : Except File.Fault Bytes) :
      Does (.ready (.read path next)) (.read path answer) (.ready (next answer))
  | send (client : Client) (put : Store.Put)
      (next : Except Store.SendError Store.PutOutput → Script α) :
      Does (.ready (.put client put next)) (.send client put) (.waiting next)
  | hear (next : Except Store.SendError Store.PutOutput → Script α)
      (answer : Except Store.SendError Store.PutOutput) :
      Does (.waiting next) (.hear answer) (.ready (next answer))
  | log (event : Log.Event) (rest : Script α) :
      Does (.ready (.log event rest)) (.log event) (.ready rest)

/-- Deeds one after another. -/
inductive Execution.Carries : Execution α → List Deed → Execution α → Prop
  | nil (x : Execution α) : Carries x [] x
  | cons {x y z : Execution α} {d : Deed} {ds : List Deed} (h : x.Does d y)
      (hc : Carries y ds z) : Carries x (d :: ds) z

/-- The deeds that an effect is made of. -/
def Effect.deeds : Effect → List Deed
  | read path answer => [.read path answer]
  | put client p answer => [.send client p, .hear answer]
  | log event => [.log event]

/-- A run is an execution that nobody interrupts. -/
theorem Script.carries_run {σ : Type} (p : Script α) (o : Outside σ) (s : σ) :
    (Execution.ready p).Carries ((p.run o s).trace.flatMap Effect.deeds)
      (.ready (.done (p.run o s).value)) := by
  induction p generalizing s with
  | done value => exact .nil _
  | read path next ih => exact .cons (.read ..) (ih _ _)
  | put client p next ih => exact .cons (.send ..) (.cons (.hear ..) (ih _ _))
  | log event rest ih => exact .cons (.log ..) (ih _)

/-! ## What holds at every moment -/

variable {P : List Deed → Prop} {past : List Deed}

/-- After what was done, the script keeps a property of all that has been done so far. -/
def Script.Keeps (P : List Deed → Prop) : List Deed → Script α → Prop
  | past, done _ => P past
  | past, read path next =>
    P past ∧ ∀ answer, (next answer).Keeps P (past ++ [.read path answer])
  | past, put client p next =>
    P past ∧ P (past ++ [.send client p]) ∧
      ∀ answer, (next answer).Keeps P (past ++ [.send client p] ++ [.hear answer])
  | past, log event rest => P past ∧ rest.Keeps P (past ++ [.log event])

/-- The same of a script that is under way. -/
def Execution.Keeps (P : List Deed → Prop) (past : List Deed) : Execution α → Prop
  | ready rest => rest.Keeps P past
  | waiting next => P past ∧ ∀ answer, (next answer).Keeps P (past ++ [.hear answer])

theorem Script.Keeps.now {p : Script α} (h : p.Keeps P past) : P past := by
  cases p with
  | done => exact h
  | read | put | log => exact h.1

theorem Execution.Keeps.now {x : Execution α} (h : x.Keeps P past) : P past := by
  cases x with
  | ready rest => exact Script.Keeps.now h
  | waiting next => exact h.1

theorem Execution.Keeps.does {x y : Execution α} {d : Deed} (h : x.Keeps P past)
    (hd : x.Does d y) : y.Keeps P (past ++ [d]) := by
  cases hd with
  | read path next answer => exact h.2 answer
  | send client put next => exact h.2
  | hear next answer => exact h.2 answer
  | log event rest => exact h.2

/-! ## Seeding -/

theorem File.eq_ok_of_bind_textOf {answer : Except File.Fault Bytes} {text : String}
    (h : answer.bind File.textOf = .ok text) : answer = .ok (Utf8.encode text) := by
  cases answer with
  | error f => exact nomatch h
  | ok bs => rw [File.textOf_eq_ok.mp h]

theorem readText_bind {β : Type} (path : File.Path) (f : Except SeedError String → Script β) :
    (readText path).bind f =
      .read path fun a => f ((a.bind File.textOf).mapError (SeedError.read path)) := rfl

/-- The call of seeding with its answers left open. -/
theorem Job.script_eq (j : Job) : j.script =
    .read j.certPath fun a => match a.bind File.textOf with
      | .error f => .done (.error (.read j.certPath f))
      | .ok cert => .read j.keyPath fun b => match b.bind File.textOf with
        | .error f => .done (.error (.read j.keyPath f))
        | .ok key => .log startEvent (.log (putEvent j.table j.hostname)
            (.put j.table.client (j.table.putOf ⟨j.hostname, cert, key⟩) fun answer =>
              match answer with
              | .error e => .done (.error (.put (.ofSend e)))
              | .ok output => .log (createdEvent output) (.done (.ok output)))) := by
  simp only [Job.script, seed, readRecord, Script.bind_eq, readText_bind, Script.bind]
  refine congrArg (Script.read j.certPath) (funext fun a => ?_)
  rcases a.bind File.textOf with f | cert
  · rfl
  refine congrArg (Script.read j.keyPath) (funext fun b => ?_)
  beta_reduce
  rcases b.bind File.textOf with f | key
  · rfl
  · refine congrArg (fun next => Script.log startEvent (.log (putEvent j.table j.hostname)
      (.put j.table.client (j.table.putOf ⟨j.hostname, cert, key⟩) next)))
      (funext fun answer => ?_)
    cases answer <;> rfl

/-- Nothing was sent, or both files were read, the certificate first, and their texts alone were
then sent, once. -/
def Job.Orderly (j : Job) (ds : List Deed) : Prop :=
  sendsOf ds = [] ∨ ∃ cert key,
    readsOf ds = [(j.certPath, .ok (Utf8.encode cert)), (j.keyPath, .ok (Utf8.encode key))] ∧
    sendsOf ds = [(j.table.client, j.table.putOf ⟨j.hostname, cert, key⟩)]

theorem Job.keeps_orderly (j : Job) : j.script.Keeps j.Orderly [] := by
  rw [script_eq]
  refine ⟨.inl rfl, fun a => ?_⟩
  dsimp only
  cases ha : a.bind File.textOf with
  | error f => exact .inl rfl
  | ok cert =>
    obtain rfl := File.eq_ok_of_bind_textOf ha
    refine ⟨.inl rfl, fun b => ?_⟩
    dsimp only
    cases hb : b.bind File.textOf with
    | error f => exact .inl rfl
    | ok key =>
      obtain rfl := File.eq_ok_of_bind_textOf hb
      -- From the put on, the reads and the puts sent stay as they are.
      refine ⟨.inl rfl, .inl rfl, .inl rfl, .inr ⟨cert, key, rfl, rfl⟩, fun answer => ?_⟩
      cases answer with
      | error e => exact .inr ⟨cert, key, rfl, rfl⟩
      | ok output => exact ⟨.inr ⟨cert, key, rfl, rfl⟩, .inr ⟨cert, key, rfl, rfl⟩⟩

/-- The deeds of a call that finds two texts, until it has sent them. -/
def Job.deeds (j : Job) (cert key : String) : List Deed :=
  [.read j.certPath (.ok (Utf8.encode cert)), .read j.keyPath (.ok (Utf8.encode key)),
    .log startEvent, .log (putEvent j.table j.hostname),
    .send j.table.client (j.table.putOf ⟨j.hostname, cert, key⟩)]

theorem Job.agrees_deeds {j : Job} {cert key : String}
    {files : File.Path → Except File.Fault Bytes} (hc : files j.certPath = .ok (Utf8.encode cert))
    (hk : files j.keyPath = .ok (Utf8.encode key)) : ∀ d ∈ j.deeds cert key, d.Agrees files := by
  simp [deeds, Deed.Agrees, hc, hk]

theorem Job.requests_deeds {j : Job} {cert key : String} {r : Store.Request}
    (h : (j.table.putOf ⟨j.hostname, cert, key⟩).request j.table.client = .ok r) :
    (j.deeds cert key).flatMap Deed.requests = [r] := by
  simp [deeds, Deed.requests, h, Except.toOption]

theorem Job.carries_deeds (j : Job) (cert key : String) :
    ∃ x, (Execution.ready j.script).Carries (j.deeds cert key) x := by
  have hc : (Except.ok (Utf8.encode cert)).bind File.textOf = .ok cert :=
    File.textOf_eq_ok.mpr rfl
  have hk : (Except.ok (Utf8.encode key)).bind File.textOf = .ok key :=
    File.textOf_eq_ok.mpr rfl
  rw [script_eq]
  refine Exists.imp (fun x h => .cons (.read ..) h) ?_
  simp only [hc]
  refine Exists.imp (fun x h => .cons (.read ..) h) ?_
  simp only [hk]
  exact ⟨_, .cons (.log ..) (.cons (.log ..) (.cons (.send ..) (.nil _)))⟩

end TlsSeed
