import TlsSeed.Log.Pattern.Atom
import TlsSeed.Log.Pattern.Row

/-! # Brackets in patterns

Between brackets stand characters, ranges, named classes and further brackets, and operators that
intersect or subtract what stands on their two sides. Bytes beyond ASCII belong to no class, so that
bytes have no negation, and no letters are taken in any mix of capitals.
-/

namespace TlsSeed.Log.Pattern

open Text

/-- An open bracket: how deeply the left side of its last operator is nested, if it has one, and
what has been read since. -/
structure Bracket where
  left : Option Nat := none
  items : Row := {}

namespace Bracket

def add (b : Bracket) (depth : Nat) : Bracket :=
  { b with items := b.items.add depth }

def depth (b : Bracket) : Nat :=
  match b.left with
  | none => b.items.depth
  | some l => max l b.items.depth + 1

def operate (b : Bracket) : Bracket where
  left := some b.depth

end Bracket

def classNames : List String :=
  ["alnum", "alpha", "ascii", "blank", "cntrl", "digit", "graph", "lower", "print", "punct",
   "space", "upper", "word", "xdigit"]

/-- Whether a named class is negated, and what follows it after the bracket that opens it. -/
def namedClass? (cs : List Char) : Option (Bool × List Char) :=
  match cs with
  | ':' :: more =>
    let isNegated := more.head? = some '^'
    let name := if isNegated then more.drop 1 else more
    match name.dropWhile (· != ':') with
    | ':' :: ']' :: rest =>
      if classNames.contains (String.ofList (name.takeWhile (· != ':'))) then some (isNegated, rest)
      else none
    | _ => none
  | _ => none

def Mode.admitsClass (m : Mode) (isNegated : Bool) : Bool :=
  if m.unicode then !m.foldsCase else !isNegated

/-- The bracket with the hyphens at its front, which stand for themselves, and what follows them. -/
def leadingHyphens (m : Mode) (b : Bracket) (cs : List Char) : Bracket × List Char :=
  match h : m.skip cs with
  | '-' :: rest =>
    have : rest.length < cs.length := by
      have hle := m.length_skip_le cs
      rw [h] at hle
      exact hle
    leadingHyphens m (b.add 0) rest
  | rest => (b, rest)
termination_by cs.length

/-- The bracket that opens here, and what follows the marks that have a meaning of their own at its
front: a caret, then hyphens or a closing bracket that stand for themselves. -/
def openBracket? (m : Mode) (cs : List Char) : Option (Bracket × List Char) := do
  let front := m.skip cs
  let isNegated := front.head? = some '^'
  if isNegated && !m.unicode then none
  let inner := m.skip (if isNegated then front.drop 1 else front)
  let (b, rest) := match inner with
    | ']' :: more => (({} : Bracket).add 0, more)
    | _ => leadingHyphens m {} inner
  if 0 < b.items.size && !m.admitsInside (.char '-' false) then none
  return (b, rest)

/-- One character between brackets, or an escape, and what follows it. -/
def bracketAtom? (m : Mode) : List Char → Option (Atom × List Char)
  | [] => none
  | '\\' :: cs => escape? m cs
  | c :: cs => some (.char c false, cs)

/-- The character that decides whether a hyphen in front of it makes a range. -/
def behindHyphen? (m : Mode) (cs : List Char) : Option Char :=
  if m.skipsBlanks then
    let near := cs.dropWhile isBlankChar
    let far := if near.head? = some '#' then (near.drop 1).dropWhile isBlankChar else near
    far.head?.or cs.head?
  else cs.head?

/-- One item between brackets, and what follows it: an atom, or a range from one character to
another. -/
def bracketItem? (m : Mode) (cs : List Char) : Option (List Char) := do
  let (first, after) ← bracketAtom? m cs
  if !m.admitsInside first then none
  match m.skip after with
  | '-' :: more =>
    if [some ']', some '-'].contains (behindHyphen? m more) then return '-' :: more
    match first, ← bracketAtom? m (m.skip more) with
    | .char a _, (.char b isByte, rest) =>
      if a ≤ b && m.admitsInside (.char b isByte) then return rest else none
    | _, _ => none
  | rest => return rest

/-- How deeply the outermost of the open brackets is nested, and what follows the bracket that
closes it. Each step takes a character, so the fuel never runs out when it exceeds their number. -/
def closeBracket? (m : Mode) : Nat → Bracket → List Bracket → List Char →
    Option (Nat × List Char)
  | 0, _, _, _ => none
  | fuel + 1, b, outer, cs =>
    match m.skip cs with
    | [] => none
    | '[' :: rest =>
      match namedClass? rest with
      | some (isNegated, more) =>
        if m.admitsClass isNegated then closeBracket? m fuel (b.add 0) outer more else none
      | none => (openBracket? m rest).bind fun (inner, more) =>
          closeBracket? m fuel inner (b :: outer) more
    | ']' :: rest =>
      match outer with
      | [] => some (b.depth + 1, rest)
      | parent :: others => closeBracket? m fuel (parent.add (b.depth + 1)) others rest
    | '&' :: '&' :: rest => closeBracket? m fuel b.operate outer rest
    | '-' :: '-' :: rest => closeBracket? m fuel b.operate outer rest
    | '~' :: '~' :: rest => closeBracket? m fuel b.operate outer rest
    | rest => (bracketItem? m rest).bind (closeBracket? m fuel (b.add 0) outer)

/-- How deeply the bracket that opens here is nested, and what follows it. -/
def bracket? (m : Mode) (fuel : Nat) (cs : List Char) : Option (Nat × List Char) :=
  (openBracket? m cs).bind fun (b, rest) => closeBracket? m fuel b [] rest

end TlsSeed.Log.Pattern
