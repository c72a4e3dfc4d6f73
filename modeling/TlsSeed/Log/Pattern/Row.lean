/-! # Nesting of patterns

A pattern is nested as deeply as its deepest part, and one level deeper wherever several parts stand
together or a part is repeated or enclosed. Only so much nesting is allowed.
-/

namespace TlsSeed.Log.Pattern

def maxDepth : Nat := 250

/-- Parts that stand together: how many there are, and how deeply the deepest of them is nested. -/
structure Row where
  size : Nat := 0
  deepest : Nat := 0
  deriving DecidableEq, Repr

namespace Row

def add (r : Row) (depth : Nat) : Row :=
  ⟨r.size + 1, max r.deepest depth⟩

def deepen (r : Row) (depth : Nat) : Row :=
  { r with deepest := max r.deepest depth }

/-- How deeply the row is nested. A single part makes no level of its own. -/
def depth (r : Row) : Nat :=
  if r.size ≤ 1 then r.deepest else r.deepest + 1

end Row

end TlsSeed.Log.Pattern
