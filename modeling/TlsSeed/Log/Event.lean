import TlsSeed.Log.Span

/-! # Log events

What is reported while the program runs: a severity, the part that reports, a text, and what the
text is about in detail. Everything that an event says stands in a field with a name, and it may
have happened inside of spans.
-/

namespace TlsSeed.Log

structure Event where
  level : Level
  target : String
  text : String
  /-- Names and values that are told after the text. -/
  details : List (String × String) := []
  /-- The event says in which file and line it was made. -/
  isLocated : Bool := false
  /-- The spans around the event, from the outermost on. -/
  spans : List Span := []
  deriving DecidableEq, Repr

/-- The fields of an event that say where it was made. -/
def locationFields : List String :=
  ["log.target", "log.module_path", "log.file", "log.line"]

def Event.fields (e : Event) : List String :=
  "message" :: e.details.map (·.1) ++ if e.isLocated then locationFields else []

/-- A character in a log line. Those that move the cursor or steer a terminal are written by
number. -/
def visible (c : Char) : List Char :=
  let n := c.toNat
  if [0x07, 0x08, 0x0C, 0x1B, 0x7F].contains n then
    ['\\', 'x', Nat.digitChar (n / 16), Nat.digitChar (n % 16)]
  else if 0x80 ≤ n ∧ n < 0xA0 then ['\\', 'u', '\x7b'] ++ Nat.toDigits 16 n ++ ['\x7d']
  else [c]

/-- The line of an event: its level in five columns, those of its spans that are to be seen, its
text, and its details as they are. -/
def Event.line (e : Event) (spans : List Span) : String :=
  String.ofList (List.replicate (5 - e.level.name.length) ' ') ++ e.level.name ++ " " ++
    Span.path spans ++ String.ofList (e.text.toList.flatMap visible) ++
    String.join (e.details.map fun (name, value) => " " ++ name ++ "=" ++ value) ++ "\n"

end TlsSeed.Log
