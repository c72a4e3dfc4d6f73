import TlsSeed.Log.Pattern.Bracket
import TlsSeed.Text.Alphanumeric

/-! # Patterns

The regular expressions that a log filter may compare values with. No value that is reported can be
compared with one, so that all that matters of a pattern is whether it is one.
-/

namespace TlsSeed.Log.Pattern

open Text

/-- The letters that change how a pattern is taken. -/
def flagLetters : List Char := "imsUuRx".toList

/-- The mode that flags lead to, if each comes once, and at most one hyphen, which takes back those
after it, stands in front of one of them. -/
def flags? (m : Mode) (cs : List Char) : Option Mode :=
  let given := cs.takeWhile (· != '-')
  let back := (cs.dropWhile (· != '-')).drop 1
  if cs.Nodup ∧ cs.all (fun c => c = '-' || flagLetters.contains c) ∧ cs.getLast? ≠ some '-' then
    some (back.foldl (·.set false ·) (given.foldl (·.set true ·) m))
  else none

def isGroupName (cs : List Char) : Bool :=
  match cs with
  | [] => false
  | c :: rest => (c == '_' || isAlphabetic c) &&
      rest.all fun c => "_.[]".toList.contains c || isAlphanumeric c

/-- A group that is open: the mode in it, the alternatives that it has so far, and the parts of the
next one. The last part may be such that it can be repeated, and then its depth is told. -/
structure Group where
  mode : Mode := {}
  alternatives : Row := {}
  parts : Row := {}
  last : Option Nat := none

namespace Group

def add (g : Group) (depth : Nat) : Group :=
  { g with parts := g.parts.add depth, last := some depth }

/-- The group with flags for what is left of it. -/
def changeMode (g : Group) (m : Mode) : Group :=
  { g with mode := m, parts := g.parts.add 0, last := none }

def repeat? (g : Group) : Option Group :=
  g.last.map fun d => { g with parts := g.parts.deepen (d + 1), last := some (d + 1) }

def alternate (g : Group) : Group where
  mode := g.mode
  alternatives := g.alternatives.add g.parts.depth

def depth (g : Group) : Nat :=
  g.alternate.alternatives.depth

end Group

/-- What has been read of a pattern: the innermost open group, those around it, and the names of
groups. The whole pattern is a group that nothing opens or closes. -/
structure Progress where
  group : Group := {}
  outer : List Group := []
  names : List (List Char) := []

namespace Progress

def withGroup (p : Progress) (g : Group) : Progress :=
  { p with group := g }

def enter (p : Progress) (m : Mode) : Progress :=
  { p with group := { mode := m }, outer := p.group :: p.outer }

/-- Closes the innermost group, if there is one around it. -/
def leave? (p : Progress) : Option Progress :=
  match p.outer with
  | [] => none
  | g :: gs => some { p with group := g.add (p.group.depth + 1), outer := gs }

/-- Opens a group whose name comes next, up to an angle bracket. -/
def enterNamed? (p : Progress) (cs : List Char) : Option (Progress × List Char) :=
  let name := cs.takeWhile (· != '>')
  match cs.dropWhile (· != '>') with
  | _ :: rest =>
    if isGroupName name && !p.names.contains name then
      some ({ p with names := name :: p.names }.enter p.group.mode, rest)
    else none
  | [] => none

/-- Reads on behind an opening parenthesis: a group with a name, a group with flags, flags for what
is left of the group around them, or a plain group. -/
def open? (p : Progress) (cs : List Char) : Option (Progress × List Char) :=
  match p.group.mode.skip cs with
  | '?' :: 'P' :: '<' :: rest => p.enterNamed? rest
  | '?' :: '<' :: rest => p.enterNamed? rest
  | '?' :: rest => do
    let letters := rest.takeWhile fun c => c != ':' && c != ')'
    let inner ← flags? p.group.mode letters
    match rest.dropWhile fun c => c != ':' && c != ')' with
    | ':' :: more => return (p.enter inner, more)
    | ')' :: more =>
      if letters.isEmpty then none else return (p.withGroup (p.group.changeMode inner), more)
    | _ => none
  | rest => some (p.enter p.group.mode, rest)

/-- Reads a part that is no group, and gives its depth and what follows it. A count of repetitions
in braces is no part: nothing closes it. -/
def part? (m : Mode) (fuel : Nat) : List Char → Option (Nat × List Char)
  | [] => none
  | '\x7b' :: _ => none
  | '[' :: cs => bracket? m fuel cs
  | '.' :: cs => if m.unicode then some (0, cs) else none
  | '^' :: cs => some (0, cs)
  | '$' :: cs => some (0, cs)
  | '\\' :: cs => (escape? m cs).bind fun (a, rest) => if m.admits a then some (0, rest) else none
  | c :: cs => if m.admits (.char c false) then some (0, cs) else none

/-- Reads on, if anything is left. A question mark directly behind a repetition belongs to it. -/
def step? (p : Progress) (fuel : Nat) (cs : List Char) : Option (Progress × List Char) :=
  match cs with
  | '(' :: rest => p.open? rest
  | ')' :: rest => p.leave?.map (·, rest)
  | '|' :: rest => some (p.withGroup p.group.alternate, rest)
  | c :: rest =>
    if "*+?".toList.contains c then
      p.group.repeat?.map fun g =>
        (p.withGroup g, if rest.head? = some '?' then rest.drop 1 else rest)
    else (part? p.group.mode fuel cs).map fun (depth, more) =>
      (p.withGroup (p.group.add depth), more)
  | [] => none

/-- The rest of a pattern is well formed. Each step takes a character, so the fuel never runs out
when it exceeds their number. -/
def isWellFormed (p : Progress) : Nat → List Char → Bool
  | 0, _ => false
  | fuel + 1, cs =>
    match p.group.mode.skip cs with
    | [] => p.outer.isEmpty && p.group.depth ≤ maxDepth
    | c :: rest =>
      match p.step? (fuel + 1) (c :: rest) with
      | none => false
      | some (q, more) => q.isWellFormed fuel more

end Progress

def isWellFormed (cs : List Char) : Bool :=
  ({} : Progress).isWellFormed (cs.length + 1) cs

end TlsSeed.Log.Pattern
