import TlsSeed.Log.Level

/-! # Spans

A span is a stretch of work with a name. Events happen inside of spans, and spans inside of one
another.
-/

namespace TlsSeed.Log

structure Span where
  name : String
  target : String
  level : Level := .debug
  /-- What the work is about, as names and counts. -/
  fields : List (String × Nat) := []
  deriving DecidableEq, Repr

namespace Span

/-- The names of the fields and their counts in braces, if there are any. -/
def label (s : Span) : String :=
  let fields := s.fields.map fun (name, n) => name ++ "=" ++ toString n
  s.name ++ if fields.isEmpty then "" else "\x7b" ++ " ".intercalate fields ++ "\x7d"

/-- Spans from the outermost on, as they stand in front of a text. -/
def path (ss : List Span) : String :=
  if ss.isEmpty then "" else String.join (ss.map fun s => s.label ++ ":") ++ " "

end Span

end TlsSeed.Log
