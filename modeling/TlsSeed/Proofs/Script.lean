import TlsSeed.Script

/-! # Runs of scripts

A run of one script after another does what the first does and then what the second does, from the
state in which the first ends. What a run reads and puts is told by its trace.
-/

namespace TlsSeed

variable {σ α β : Type}

namespace Effect

/-- The path of the file that an effect reads. -/
def read? : Effect → Option File.Path
  | read path _ => some path
  | _ => none

/-- The put that an effect asks a client for, and the answer. -/
def put? : Effect → Option (Client × Store.Put × Except Store.SendError Store.PutOutput)
  | put client p answer => some (client, p, answer)
  | _ => none

end Effect

namespace Run

/-- The paths of the files that a run reads, in order. -/
def reads (r : Run σ α) : List File.Path :=
  r.trace.filterMap Effect.read?

/-- The puts that a run asks its clients for, in order, with the answers. -/
def puts (r : Run σ α) : List (Client × Store.Put × Except Store.SendError Store.PutOutput) :=
  r.trace.filterMap Effect.put?

end Run

namespace Script

variable {o : Outside σ} {s : σ}

@[simp] theorem bind_eq (p : Script α) (f : α → Script β) : p >>= f = p.bind f := rfl

@[simp] theorem pure_eq (a : α) : (pure a : Script α) = done a := rfl

@[simp] theorem run_done (a : α) : (done a).run o s = ⟨a, [], s⟩ := rfl

@[simp] theorem run_report (e : Log.Event) : (report e).run o s = ⟨(), [.log e], s⟩ := rfl

/-- One script after another. -/
theorem run_bind (p : Script α) (f : α → Script β) :
    (p.bind f).run o s =
      let r := p.run o s
      let q := (f r.value).run o r.final
      ⟨q.value, r.trace ++ q.trace, q.final⟩ := by
  induction p generalizing s with
  | done a => rfl
  | read path next ih => simp only [bind, run, ih, Run.after, List.cons_append]
  | put c p next ih => simp only [bind, run, ih, Run.after, List.cons_append]
  | log e rest ih => simp only [bind, run, ih, Run.after, List.cons_append]

end Script

end TlsSeed
