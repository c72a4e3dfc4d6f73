/-! # Chains of causes

An error and the causes behind it are told in one line, from the outside in, each after a colon. A
dump of the whole error may follow in parentheses.
-/

namespace TlsSeed.Text

/-- The causes in one line. -/
def chainText (causes : List String) : String :=
  ": ".intercalate causes

/-- The causes in one line, with the dump of the error after them. -/
def chainReport (causes : List String) (dump : String) : String :=
  chainText causes ++ " (" ++ dump ++ ")"

end TlsSeed.Text
