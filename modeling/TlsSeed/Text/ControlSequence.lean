import TlsSeed.Text.Utf8

/-! # Control sequences of a terminal

What a terminal shows of a text. An escape character begins a sequence that steers the terminal
instead, a sequence that is never finished takes the rest of the text with it, and of the controls
outside of sequences only those that move on by a blank or a line are shown.
-/

namespace TlsSeed.Text.ControlSequence

/-- How far the head of a sequence has been read. -/
inductive Stage where
  | start
  | parameters
  | intermediate
  | malformed
  deriving DecidableEq, Repr

/-- The head of a sequence after one more character with a number from 20 to 3F: parameters and
their separators, a private mark in front of them, and intermediate characters behind them. -/
def Stage.next (s : Stage) (n : Nat) : Stage :=
  if n < 0x30 then if s = .malformed then s else .intermediate
  else match s with
    | start => .parameters
    | parameters => if n < 0x3C then s else .malformed
    | _ => .malformed

/-- What is being read. -/
inductive State where
  | text
  /-- An escape, and whether it has intermediate characters. -/
  | escape (isExtended : Bool)
  /-- The head of a command. -/
  | command (s : Stage)
  /-- The head of a string for the device. -/
  | device (s : Stage)
  /-- A string for the device, or one that means nothing. -/
  | string
  /-- A string for the operating system, such as a title. -/
  | title
  deriving DecidableEq, Repr

/-- The byte that ends a string wherever it stands, even inside a character. -/
def stringEnd : UInt8 := 0x9C

/-- The control moves on by a blank or a line. -/
def isSpacing (c : Char) : Bool :=
  ['\t', '\n', '\x0c', '\r'].contains c

/-- What an escape without intermediate characters leads to. -/
def opened (c : Char) : State :=
  match c with
  | '[' => .command .start
  | ']' => .title
  | 'P' => .device .start
  | 'X' | '^' | '_' => .string
  | _ => .text

namespace State

/-- The character is shown. Spacing controls break off an escape or a command. -/
def shows (s : State) (c : Char) : Bool :=
  match s with
  | text => isSpacing c || (0x20 ≤ c.toNat && c.toNat != 0x7F)
  | escape _ | command _ => isSpacing c
  | _ => false

def next (s : State) (c : Char) : State :=
  let n := c.toNat
  if n = 0x18 ∨ n = 0x1A then text
  else if n = 0x1B then escape false
  else match s with
    | text => text
    | string => if (Utf8.encodeChar c).contains stringEnd then text else string
    | title => if n = 0x07 then text else title
    | escape isExtended =>
      if n < 0x20 ∨ 0x7E < n then s
      else if n < 0x30 then escape true
      else if isExtended then text else opened c
    | command stage =>
      if n < 0x20 ∨ 0x7E < n then s
      else if n < 0x40 then command (stage.next n) else text
    | device stage =>
      if n < 0x20 ∨ 0x7E < n then s
      else if n < 0x40 ∧ stage.next n ≠ .malformed then device (stage.next n) else string

end State

/-- What a terminal shows of the characters that follow. -/
def shownFrom : State → List Char → List Char
  | _, [] => []
  | s, c :: cs => if s.shows c then c :: shownFrom .text cs else shownFrom (s.next c) cs

/-- What a terminal shows of a text. -/
def shown (s : String) : String :=
  String.ofList (shownFrom .text s.toList)

end TlsSeed.Text.ControlSequence
