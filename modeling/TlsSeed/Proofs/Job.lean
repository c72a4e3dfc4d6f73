import TlsSeed.Proofs.Seed

/-! # Jobs

A job is what one call of seeding is asked for. Jobs that are done one after another, whatever comes
of each, make a run of the runs of the calls.
-/

namespace TlsSeed

variable {σ : Type} {o : Outside σ} {s : σ}

/-- What a call of seeding is asked for. -/
structure Job where
  table : Table
  hostname : String
  certPath : File.Path
  keyPath : File.Path
  deriving DecidableEq, Repr

def Job.script (j : Job) : Script (Except SeedError Store.PutOutput) :=
  seed j.table j.hostname j.certPath j.keyPath

/-- A way in which the call for a job can go. -/
abbrev Job.Goes (o : Outside σ) (j : Job) (s : σ) :
    Run σ (Except SeedError Store.PutOutput) → Prop :=
  Seeding o j.table j.hostname j.certPath j.keyPath s

theorem Job.goes_run (o : Outside σ) (j : Job) (s : σ) : j.Goes o s (j.script.run o s) :=
  seeding_run ..

/-- Does jobs in order, and gives what came of each. -/
def seedAll : List Job → Script (List (Except SeedError Store.PutOutput))
  | [] => return []
  | j :: js => do
    let result ← j.script
    return result :: (← seedAll js)

theorem run_seedAll_cons (j : Job) (js : List Job) :
    (seedAll (j :: js)).run o s =
      let r := j.script.run o s
      let rs := (seedAll js).run o r.final
      ⟨r.value :: rs.value, r.trace ++ rs.trace, rs.final⟩ := by
  simp only [seedAll, Script.bind_eq, Script.run_bind, Script.pure_eq, Script.run_done,
    List.append_nil]

/-- What is true of the trace of each call, and of two traces one after the other if it is of both,
is true of the trace of all jobs. -/
theorem trace_seedAll_induction {P : List Effect → Prop} (nil : P [])
    (append : ∀ xs ys, P xs → P ys → P (xs ++ ys))
    (call : ∀ (j : Job) (s : σ) r, j.Goes o s r → P r.trace) (js : List Job) (s : σ) :
    P ((seedAll js).run o s).trace := by
  induction js generalizing s with
  | nil => exact nil
  | cons j js ih =>
    rw [run_seedAll_cons]
    exact append _ _ (call j s _ (j.goes_run o s)) (ih _)

end TlsSeed
