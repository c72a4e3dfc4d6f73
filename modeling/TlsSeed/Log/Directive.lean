import TlsSeed.Log.Event
import TlsSeed.Log.Pattern
import TlsSeed.Number.Numeral
import TlsSeed.Text.Blank
import TlsSeed.Text.Utf8

/-! # Directives of a log filter

A directive gives the bound for the levels of some events. It may ask for a beginning of the name of
the reporting part, and, in brackets, for a span of work around the event and for a field. Its
pieces are cut out at the places where the marks between them stand once the blanks around it are
gone, but out of the directive with its blanks.
-/

namespace TlsSeed.Log

open Number Text

namespace Bound

/-- The bound that a digit from zero to five gives. -/
def ofNumber? : Nat → Option Bound
  | 0 => some none
  | n + 1 => (Level.all[n]?).map some

/-- The bound that a word or a number gives. Capitals do not matter. -/
def read? (s : String) : Option Bound :=
  match (Numeral.natural? s.toList).bind ofNumber? with
  | some b => some b
  | none =>
    let word := String.ofList (s.toList.map Char.toUpper)
    if word = "OFF" then some none
    else (Level.all.find? (·.name == word)).map some

/-- The bound after an equals sign. Nothing there stands for all levels. -/
def given? (s : String) : Option Bound :=
  if s.isEmpty then some (some .trace) else read? s

end Bound

/-- A value that a field may be asked to have. Spans count things and say nothing else, so that
only a count can be met. -/
inductive Wanted where
  | count (n : Nat)
  | other
  deriving DecidableEq, Repr

def Wanted.read? (cs : List Char) : Option Wanted :=
  match Numeral.natural? cs with
  | some n => some (count n)
  | none => if (Numeral.read? cs).isSome || Pattern.isWellFormed cs then some other else none

/-- A field that a directive asks for, perhaps with a value. -/
structure FieldMatch where
  name : String
  value : Option Wanted := none
  deriving DecidableEq, Repr

namespace FieldMatch

/-- Reads a field: a name, and a value after an equals sign. What follows a second one is
ignored. -/
def read? (s : String) : Option FieldMatch :=
  match s.toList.splitOn '=' with
  | [] => none
  | [name] => some ⟨String.ofList name, none⟩
  | name :: value :: _ => (Wanted.read? value).map fun w => ⟨String.ofList name, some w⟩

def isFieldOf (f : FieldMatch) (s : Span) : Bool :=
  s.fields.any (·.1 == f.name)

/-- The span has the field with the value. -/
def isMetBy (f : FieldMatch) (s : Span) : Bool :=
  s.fields.any fun (name, n) => name == f.name && f.value.all (· == .count n)

end FieldMatch

/-- A bound, and the events for which it stands: those of parts with a certain beginning, inside a
span with a name, and with a field. What is left out excludes nothing. -/
structure Directive where
  target : Option String := none
  span : Option String := none
  field : Option FieldMatch := none
  bound : Bound := some .trace
  deriving DecidableEq, Repr

/-- A directive as it is written, with the blanks around it and without. -/
structure Written where
  whole : Bytes
  trimmed : Bytes

namespace Written

def ofChars (cs : List Char) : Written where
  whole := cs.flatMap Utf8.encodeChar
  trimmed := (trim cs).flatMap Utf8.encodeChar

/-- The piece from one place up to another. -/
def piece? (w : Written) (start stop : Nat) : Option String :=
  Utf8.decode? ((w.whole.take stop).drop start)

def rest? (w : Written) (start : Nat) : Option String :=
  Utf8.decode? (w.whole.drop start)

/-- The first place of one of two marks, from a place on. -/
def find? (w : Written) (one other : UInt8) (start : Nat) : Option Nat :=
  ((w.trimmed.drop start).findIdx? fun b => b == one || b == other).map (start + ·)

end Written

namespace Directive

def equals : UInt8 := 0x3D

def openBracket : UInt8 := 0x5B

def closeBracket : UInt8 := 0x5D

def openBrace : UInt8 := 0x7B

def closeBrace : UInt8 := 0x7D

/-- The directive with what is given and the bound behind its closing bracket. -/
def finish? (d : Directive) (w : Written) (start : Nat) : Option Directive := do
  match w.trimmed[start]? with
  | none => return d
  | some b =>
    if b = equals then return { d with bound := ← Bound.given? (← w.rest? (start + 1)) }
    else none

/-- The directive for a target, and for what its brackets say: the name of a span, a field in
braces, or both. -/
def bracketed? (target : Option String) (w : Written) (start : Nat) : Option Directive := do
  let i ← w.find? closeBracket openBrace start
  let name ← w.piece? start i
  if w.trimmed[i]? = some closeBracket then
    finish? { target, span := some name } w (i + 1)
  else
    let j ← w.find? closeBrace closeBrace (i + 1)
    let field ← w.piece? (i + 1) j
    if field.isEmpty || w.trimmed[j + 1]? != some closeBracket then none
    let span := if name.isEmpty then none else some name
    finish? { target, span, field := some (← FieldMatch.read? field) } w (j + 2)

def isStart (c : Char) : Bool :=
  c == '-' || c == ':' || c == '_' || isAlphanumeric c

/-- Reads a directive. A word alone is a level, or else a target for all levels. -/
def read? (cs : List Char) : Option Directive := do
  let w := Written.ofChars cs
  let first ← (cs.dropWhile isBlankChar).head?
  if first = '[' then bracketed? none w 1
  else if !isStart first then none
  else match w.find? equals openBracket 0 with
    | none =>
      let word := String.ofList cs
      match Bound.read? word with
      | some bound => return { bound }
      | none => return { target := some word }
    | some i =>
      let target ← w.piece? 0 i
      if w.trimmed[i]? = some equals then
        return { target := some target, bound := ← Bound.given? (← w.rest? (i + 1)) }
      else bracketed? (some target) w (i + 1)

/-- The directive sets the bound by what an event or a span says of itself: it names no span, and
asks for no value. -/
def isStatic (d : Directive) : Bool :=
  d.span.isNone && d.field.all (·.value.isNone)

/-- The directive sets the bound for the events inside of some spans: it names one, or asks for a
field. -/
def isDynamic (d : Directive) : Bool :=
  d.span.isSome || d.field.isSome

/-- The part that reports is one that the directive asks for. -/
def isFor (d : Directive) (target : String) : Bool :=
  d.target.all fun name => name.toList.isPrefixOf target.toList

def fits (d : Directive) (e : Event) : Bool :=
  d.isStatic && d.isFor e.target && d.field.all (e.fields.contains ·.name)

/-- The directive stands for a span as if it were an event. Its field does not matter then. -/
def fitsSpan (d : Directive) (s : Span) : Bool :=
  d.isStatic && d.isFor s.target

/-- The directive speaks of the span, if its fields have the right values. -/
def concerns (d : Directive) (s : Span) : Bool :=
  d.isDynamic && d.isFor s.target && d.span.all (· == s.name) && d.field.all (·.isFieldOf s)

def isMetBy (d : Directive) (s : Span) : Bool :=
  d.field.all (·.isMetBy s)

/-- The directives ask for the same, and so the later one replaces the other. -/
def asksLike (a b : Directive) : Bool :=
  a.target == b.target && a.span == b.span && a.field == b.field

/-- How closely a directive describes its events: the length of the beginning that it asks for goes
before a field, and a longer one weighs more. -/
def weight (d : Directive) : Nat :=
  2 * (d.target.map (·.utf8ByteSize + 1)).getD 0 + (if d.field.isSome then 1 else 0)

/-- The second directive describes its events at least as closely as the first. Of two fields the
one that is later in the alphabet goes before the other. -/
def le (a b : Directive) : Bool :=
  a.weight < b.weight ||
    (a.weight == b.weight && (a.field.map (·.name)).getD "" ≤ (b.field.map (·.name)).getD "")

end Directive

end TlsSeed.Log
