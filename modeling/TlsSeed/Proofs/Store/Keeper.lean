import TlsSeed.Program
import TlsSeed.Proofs.Store.Contents
import TlsSeed.World

/-! # Stores that keep what they acknowledge

What the program relies on in a store that lies outside. The store of a world in memory can be
relied on so, unless it was told what to reply.
-/

namespace TlsSeed

open Store

variable {σ : Type}

/-- A store that applies a put as a whole or not at all, and has applied every put that it
acknowledges. Whether it applies a put that it does not acknowledge is left open. -/
structure Keeper (o : Outside σ) where
  held : σ → Contents
  Applies : σ → Client → Put → Prop
  held_read (s : σ) (path : File.Path) : held (o.read s path).2 = held s
  held_put {s : σ} {c : Client} {p : Put} (h : Applies s c p) :
    held (o.put s c p).2 = (held s).replace p
  held_drop {s : σ} {c : Client} {p : Put} (h : ¬ Applies s c p) : held (o.put s c p).2 = held s
  applies_of_ok {s : σ} {c : Client} {p : Put} {output : PutOutput}
    (h : (o.put s c p).1 = .ok output) : Applies s c p

namespace World

/-- A world whose store has no reply to give before its own. -/
abbrev Plain : Type := { w : World // w.store.replies = [] }

namespace Plain

def certPath : File.Path := [0x63]

def keyPath : File.Path := [0x6B]

/-- A plain world as it lies outside the program. -/
def outside : Outside Plain where
  read w path := ((World.outside.read w.1 path).1, ⟨(World.outside.read w.1 path).2, w.2⟩)
  put w c p := ((World.outside.put w.1 c p).1,
    ⟨(World.outside.put w.1 c p).2, Shelf.replies_put w.2 c p⟩)

/-- The store of a plain world applies the puts that it takes. -/
def keeper : Keeper outside where
  held w := w.1.store.contents
  Applies _ c p := Shelf.Takes c p
  held_read _ _ := rfl
  held_put {w} _ _ h := Shelf.contents_put_of_takes w.2 h
  held_drop {w} _ _ h := (Shelf.put_of_not_takes w.2 h).2
  applies_of_ok {w} c p output h := by
    refine Classical.byContradiction fun hn => ?_
    obtain ⟨e, he⟩ := (Shelf.put_of_not_takes w.2 hn).1
    exact nomatch he.symm.trans h

/-- A plain world of a certificate and a key. -/
def ofFiles (cert key : Text.Bytes) (store : Shelf) (h : store.replies = []) : Plain :=
  ⟨⟨⟨.directory [(certPath, .file cert), (keyPath, .file key)], []⟩, store⟩, h⟩

/-- Other files leave what the store holds as it is. -/
theorem held_ofFiles (cert key : Text.Bytes) (w : Plain) :
    keeper.held (ofFiles cert key w.1.store w.2) = keeper.held w := rfl

/-- The table of the default settings, as every plain world has it. -/
def table : Table :=
  Program.table (.ofEnvironment fun _ => none)

theorem takes_putOf (r : Item.Record) : Shelf.Takes table.client (table.putOf r) := by
  have ht : (table.putOf r).table = (table.putOf ⟨"", "", ""⟩).table := rfl
  refine ⟨?_, rfl, _, rfl⟩
  rw [Put.isOk_request_congr ht]
  decide +kernel

end Plain

end World

end TlsSeed
