/-! # Ranges of code points

A Unicode property is a list of closed ranges of code points, and a character has the property when
some range holds it.
-/

namespace TlsSeed.Text

/-- The code points from the first number to the second, both included. -/
abbrev CodeRange := Nat × Nat

namespace CodeRange

def holds (r : CodeRange) (c : Char) : Bool :=
  r.1 ≤ c.toNat && c.toNat ≤ r.2

def anyHolds (rs : List CodeRange) (c : Char) : Bool :=
  rs.any (·.holds c)

end CodeRange

end TlsSeed.Text
