import TlsSeed.Error
import TlsSeed.Store.Notice

/-! # Scripts

A script is a run of the program as far as the program itself decides it: what it reads, puts and
logs, in which order, and how it goes on after each answer. What the answers are is up to what
lies outside, and a run against it leaves a trace of all that was asked, answered and logged.
-/

namespace TlsSeed

open Text

/-- A run up to its value, with the answers from outside left open. -/
inductive Script (α : Type) where
  | done (value : α)
  | read (path : File.Path) (next : Except File.Fault Bytes → Script α)
  | put (client : Client) (put : Store.Put)
      (next : Except Store.SendError Store.PutOutput → Script α)
  | log (event : Log.Event) (rest : Script α)

/-- What lies outside the program: files that can be read and a store that can be put to. Its state
may change with every question. -/
structure Outside (σ : Type) where
  read : σ → File.Path → Except File.Fault Bytes × σ
  put : σ → Client → Store.Put → Except Store.SendError Store.PutOutput × σ

/-- One thing that a run did, with the answer that it got. -/
inductive Effect where
  | read (path : File.Path) (answer : Except File.Fault Bytes)
  | put (client : Client) (put : Store.Put) (answer : Except Store.SendError Store.PutOutput)
  | log (event : Log.Event)

namespace Effect

/-- The event that the program itself logs with an effect. -/
def event? : Effect → Option Log.Event
  | log event => some event
  | _ => none

/-- The events that come of an effect: those of the program and those of its client. -/
def reports : Effect → List Log.Event
  | log event => [event]
  | put client p _ => p.notices client
  | read .. => []

end Effect

/-- A run that has come to its end: its value, what it did in order, and the state outside after
it. -/
structure Run (σ α : Type) where
  value : α
  trace : List Effect
  final : σ

/-- The events that the program itself logs in a run, in order. -/
def Run.events {σ α : Type} (r : Run σ α) : List Log.Event :=
  r.trace.filterMap Effect.event?

def Run.reports {σ α : Type} (r : Run σ α) : List Log.Event :=
  r.trace.flatMap Effect.reports

def Run.after {σ α : Type} (e : Effect) (r : Run σ α) : Run σ α :=
  { r with trace := e :: r.trace }

namespace Script

variable {α β σ : Type}

/-- Goes on with what the value of a script leads to. -/
def bind : Script α → (α → Script β) → Script β
  | done value, f => f value
  | read path next, f => read path fun answer => (next answer).bind f
  | put client p next, f => put client p fun answer => (next answer).bind f
  | log event rest, f => log event (rest.bind f)

instance : Monad Script where
  pure := done
  bind := bind

def report (event : Log.Event) : Script Unit :=
  log event (done ())

/-- Logs a text together with the place in the program. -/
def say (level : Log.Level) (target text : String) : Script Unit :=
  report { level, target, text, isLocated := true }

def readFile (path : File.Path) : Script (Except File.Fault Bytes) :=
  read path done

def send (client : Client) (p : Store.Put) :
    Script (Except Store.SendError Store.PutOutput) :=
  put client p done

/-- The run of a script against what lies outside. -/
def run (outside : Outside σ) : Script α → σ → Run σ α
  | done value, s => ⟨value, [], s⟩
  | read path next, s =>
    let (answer, s) := outside.read s path
    ((next answer).run outside s).after (.read path answer)
  | put client p next, s =>
    let (answer, s) := outside.put s client p
    ((next answer).run outside s).after (.put client p answer)
  | log event rest, s => (rest.run outside s).after (.log event)

end Script

end TlsSeed
