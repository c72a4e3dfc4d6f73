/-! # Levels

How severe an event is, and the bounds that let only the more severe events pass.
-/

namespace TlsSeed.Log

inductive Level where
  | error | warn | info | debug | trace
  deriving DecidableEq, Repr

namespace Level

/-- The levels from the most severe on. -/
def all : List Level :=
  [error, warn, info, debug, trace]

/-- The place of the level, one for the most severe. -/
def rank : Level → Nat
  | error => 1
  | warn => 2
  | info => 3
  | debug => 4
  | trace => 5

def name : Level → String
  | error => "ERROR"
  | warn => "WARN"
  | info => "INFO"
  | debug => "DEBUG"
  | trace => "TRACE"

end Level

/-- A bound for levels: nothing passes, or the events of a level and the more severe ones. -/
abbrev Bound := Option Level

/-- The event is severe enough for the bound. -/
def admits (b : Bound) (l : Level) : Bool :=
  match b with
  | none => false
  | some m => l.rank ≤ m.rank

namespace Bound

def wider (a b : Bound) : Bound :=
  match a, b with
  | a, none => a
  | none, b => b
  | some l, some m => if l.rank ≤ m.rank then some m else some l

/-- The bound that lets pass what some bound of the list does. -/
def widest (bs : List Bound) : Bound :=
  bs.foldr wider none

theorem admits_wider {a b : Bound} {l : Level} :
    admits (wider a b) l = (admits a l || admits b l) := by
  match a, b with
  | a, none => cases a <;> simp [wider, admits]
  | none, some m => simp [wider, admits]
  | some k, some m => rw [wider]; split <;> simp [admits] <;> omega

theorem admits_widest {bs : List Bound} {l : Level} :
    admits (widest bs) l = bs.any (admits · l) := by
  induction bs with
  | nil => rfl
  | cons b bs ih => simp [widest, admits_wider, ← ih]

end Bound

end TlsSeed.Log
