import TlsSeed.Number.Binary64
import TlsSeed.Number.Hexadecimal
import TlsSeed.Text.Utf8

/-! # JSON values

A document as it was read. Strings keep their escapes, because some readers compare names as they
are written and an escape that nobody asks for is never resolved. A number beyond all others is kept
as infinite. A value that is passed over may be deep, but not without end.
-/

namespace TlsSeed.Json

open Number

/-- The characters between the quotes of a string, escapes and all. -/
abbrev Raw := List Char

inductive Value where
  | null
  | bool (b : Bool)
  | number (n : Binary64)
  | string (raw : Raw)
  | array (items : List Value)
  | object (members : List (Raw × Value))

namespace Value

mutual

/-- How many arrays and objects lie in each other, at most. -/
def depth : Value → Nat
  | array items => depths items + 1
  | object members => memberDepths members + 1
  | _ => 0

def depths : List Value → Nat
  | [] => 0
  | v :: vs => max v.depth (depths vs)

def memberDepths : List (Raw × Value) → Nat
  | [] => 0
  | (_, v) :: ms => max v.depth (memberDepths ms)

end

/-- The greatest depth of a value that may be passed over. -/
def maxSkipped : Nat := 512

/-- Passes over the value, and goes on with what is given. -/
def skip? (v : Value) (a : α) : Option α :=
  if v.depth ≤ maxSkipped then some a else none

end Value

def simpleEscape? : Char → Option Char
  | '"' => some '"'
  | '\\' => some '\\'
  | '/' => some '/'
  | 'b' => some '\x08'
  | 'f' => some '\x0c'
  | 'n' => some '\n'
  | 'r' => some '\r'
  | 't' => some '\t'
  | _ => none

/-- The number is the first half of a pair. -/
def isHighHalf (n : Nat) : Bool :=
  0xD800 ≤ n && n < 0xDC00

/-- The number is the second half of a pair. -/
def isLowHalf (n : Nat) : Bool :=
  0xDC00 ≤ n && n < 0xE000

/-- Resolves the escapes of a string. A character beyond the basic plane is escaped as a pair of
halves, and half a pair stands for nothing. -/
def unescape? : Raw → Option (List Char)
  | [] => some []
  | '\\' :: 'u' :: a :: b :: c :: d :: rest => do
    let n ← hexNumber? [a, b, c, d]
    if isLowHalf n then none
    else if isHighHalf n then
      match rest with
      | '\\' :: 'u' :: a' :: b' :: c' :: d' :: more =>
        let m ← hexNumber? [a', b', c', d']
        if isLowHalf m then
          return Char.ofNat (0x10000 + (n - 0xD800) * 0x400 + (m - 0xDC00)) :: (← unescape? more)
        else none
      | _ => none
    else return Char.ofNat n :: (← unescape? rest)
  | '\\' :: c :: rest => do
    return (← simpleEscape? c) :: (← unescape? rest)
  | c :: rest => do
    if c = '\\' then none
    return c :: (← unescape? rest)

def text? (raw : Raw) : Option String :=
  (unescape? raw).map String.ofList

end TlsSeed.Json
