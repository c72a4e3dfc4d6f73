import TlsSeed.Number.Hexadecimal
import TlsSeed.Text.Blank

/-! # Atoms of patterns

The smallest parts of a pattern are characters and escapes. How they are taken depends on the mode
that the pattern is in at that place. Nothing that would ask for a table of Unicode is admitted: no
kinds of characters, no word boundaries and no letters in any mix of capitals.
-/

namespace TlsSeed.Log.Pattern

open Number Text

/-- How the characters of a pattern are taken: letters in any mix of capitals or as they are, texts
as characters or as bytes, and blanks as characters or as nothing. -/
structure Mode where
  foldsCase : Bool := false
  unicode : Bool := true
  skipsBlanks : Bool := false
  deriving DecidableEq, Repr

namespace Mode

/-- The mode after one more flag, which is set or taken back. -/
def set (m : Mode) (value : Bool) : Char → Mode
  | 'i' => { m with foldsCase := value }
  | 'u' => { m with unicode := value }
  | 'x' => { m with skipsBlanks := value }
  | _ => m

end Mode

/-- What follows blanks and comments. A comment goes up to the end of its line. -/
def afterBlanks (inComment : Bool) : List Char → List Char
  | [] => []
  | c :: cs =>
    if inComment then afterBlanks (c != '\n') cs
    else if isBlankChar c then afterBlanks false cs
    else if c = '#' then afterBlanks true cs
    else c :: cs

/-- What is left of a pattern in front of its next part. -/
def Mode.skip (m : Mode) (cs : List Char) : List Char :=
  if m.skipsBlanks then afterBlanks false cs else cs

theorem length_afterBlanks_le (inComment : Bool) (cs : List Char) :
    (afterBlanks inComment cs).length ≤ cs.length := by
  fun_induction afterBlanks inComment cs <;> simp_all <;> omega

theorem Mode.length_skip_le (m : Mode) (cs : List Char) : (m.skip cs).length ≤ cs.length := by
  unfold Mode.skip
  split
  · exact length_afterBlanks_le false cs
  · exact Nat.le_refl _

/-- What a single character or an escape stands for. -/
inductive Atom where
  /-- A character, which may have been written as the number of a byte. -/
  | char (c : Char) (isByte : Bool)
  /-- A kind of characters, or all others. -/
  | kind (isNegated : Bool)
  | property
  /-- The beginning or the end of a text or a line. -/
  | edge
  /-- The beginning or the end of a word. -/
  | boundary
  deriving DecidableEq, Repr

/-- The control that a letter stands for after a backslash. -/
def control? : Char → Option Char
  | 'a' => some '\x07'
  | 't' => some '\t'
  | 'n' => some '\n'
  | 'v' => some '\x0b'
  | 'f' => some '\x0c'
  | 'r' => some '\r'
  | _ => none

/-- A row of hexadecimal digits of a given length, and what follows it. -/
def digits? (m : Mode) : Nat → List Char → Option (List Char × List Char)
  | 0, cs => some ([], cs)
  | n + 1, cs =>
    match m.skip cs with
    | [] => none
    | c :: rest => (digits? m n rest).map fun (ds, after) => (c :: ds, after)

/-- The character whose number a row of hexadecimal digits spells, and what follows it. -/
def byNumber? (m : Mode) (width : Nat) (cs : List Char) : Option (Atom × List Char) := do
  let (ds, rest) ← digits? m width cs
  let n ← hexNumber? ds
  if n.isValidChar then return (.char (Char.ofNat n) (width = 2), rest) else none

/-- What an escape stands for, and what follows it. Letters without a meaning are kept for later,
digits would refer to a group, and all other ASCII characters stand for themselves. -/
def escape? (m : Mode) : List Char → Option (Atom × List Char)
  | [] => none
  | 'x' :: cs => byNumber? m 2 cs
  | 'u' :: cs => byNumber? m 4 cs
  | 'U' :: cs => byNumber? m 8 cs
  | c :: cs =>
    if "dsw".toList.contains c then some (.kind false, cs)
    else if "DSW".toList.contains c then some (.kind true, cs)
    else if "pP".toList.contains c then some (.property, cs)
    else if "Az".toList.contains c then some (.edge, cs)
    else if "bB<>".toList.contains c then some (.boundary, cs)
    else match control? c with
      | some control => some (.char control false, cs)
      | none => if c.toNat < 0x80 && !c.isAlphanum then some (.char c false, cs) else none

namespace Mode

def admits (m : Mode) : Atom → Bool
  | .char c isByte => if m.unicode then !m.foldsCase else !isByte || c.toNat < 0x80
  | .kind isNegated => !m.unicode && !isNegated
  | .property => false
  | .edge => true
  | .boundary => !m.unicode

/-- The atom may be one of the characters between brackets. -/
def admitsInside (m : Mode) : Atom → Bool
  | .char c _ => if m.unicode then !m.foldsCase else c.toNat < 0x80
  | .kind isNegated => !m.unicode && !isNegated
  | _ => false

end Mode

end TlsSeed.Log.Pattern
