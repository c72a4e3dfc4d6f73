import TlsSeed.Number.Binary64

/-! # Decimal numerals

A numeral is a sign, digits with at most one point among them, and a power of ten after the letter
e; or one of the words for infinity and for what is not a number. It names the nearest
double-precision number.
-/

namespace TlsSeed.Number

/-- What a numeral says. A finite one says its digits times a power of ten. -/
inductive Numeral where
  | decimal (negative : Bool) (digits : Nat) (exponent : Int)
  | infinity (negative : Bool)
  | notANumber
  deriving DecidableEq, Repr

namespace Numeral

def digitsValue (cs : List Char) : Nat :=
  cs.foldl (fun n c => 10 * n + (c.toNat - '0'.toNat)) 0

/-- The natural number below 2 to the 64 that digits spell. A plus sign may stand in front. -/
def natural? (cs : List Char) : Option Nat :=
  let digits := match cs with
    | '+' :: ds => ds
    | ds => ds
  if digits.isEmpty || !digits.all Char.isDigit then none
  else
    let n := digitsValue digits
    if n < UInt64.size then some n else none

/-- Whether a sign stands in front, and what follows it. -/
def sign : List Char → Bool × List Char
  | '-' :: cs => (true, cs)
  | '+' :: cs => (false, cs)
  | cs => (false, cs)

/-- The power of ten at the end of a numeral: nothing, or the letter e, a sign and digits. -/
def power? : List Char → Option Int
  | [] => some 0
  | c :: cs =>
    if c = 'e' ∨ c = 'E' then
      let (negative, ds) := sign cs
      if ds.isEmpty || !ds.all Char.isDigit then none
      else if negative then some (-(digitsValue ds : Int))
      else some (digitsValue ds)
    else none

/-- The numeral without its sign. The digits before the point or those after it may be missing. -/
def unsigned? (negative : Bool) (cs : List Char) : Option Numeral :=
  let whole := cs.takeWhile Char.isDigit
  let rest := cs.dropWhile Char.isDigit
  let (fraction, tail) := match rest with
    | '.' :: more => (more.takeWhile Char.isDigit, more.dropWhile Char.isDigit)
    | _ => ([], rest)
  if whole.isEmpty && fraction.isEmpty then none
  else (power? tail).map fun p => decimal negative (digitsValue (whole ++ fraction))
    (p - fraction.length)

/-- Reads a numeral. The words are read in any mix of capitals. -/
def read? (cs : List Char) : Option Numeral :=
  let (negative, rest) := sign cs
  let word := rest.map Char.toLower
  if word = "inf".toList ∨ word = "infinity".toList then some (infinity negative)
  else if word = "nan".toList then some notANumber
  else unsigned? negative rest

/-- The nearest double-precision number. A numeral beyond the 400th power of ten is settled by its
size alone. -/
def toBinary64 : Numeral → Binary64
  | decimal negative digits exponent =>
    let size : Int := exponent + (Nat.toDigits 10 digits).length
    if digits = 0 ∨ size < -400 then .zero negative
    else if 400 < size then .infinite negative
    else
      let (n, d) := scale 10 digits 1 exponent
      .ofRatio negative n d
  | infinity negative => .infinite negative
  | notANumber => .nan

end Numeral

end TlsSeed.Number
