/-! # Double-precision numbers

The numbers that fit a 64-bit word of the binary interchange format, as exact values, and the one
nearest to a quotient of naturals.
-/

namespace TlsSeed.Number

/-- A double-precision number. A finite one is the significand times a power of two, with its sign.
The significand is below `2 ^ 53`, and at least `2 ^ 52` unless the exponent is `-1074`. -/
inductive Binary64 where
  | finite (negative : Bool) (significand : Nat) (exponent : Int)
  | infinite (negative : Bool)
  | nan
  deriving DecidableEq, Repr

/-- The integer nearest to a quotient; of two equally near, the even one. -/
def roundDiv (num den : Nat) : Nat :=
  let q := num / den
  let r := num % den
  if 2 * r < den then q else if den < 2 * r then q + 1 else q + q % 2

/-- The numerator and denominator of a quotient times a power of the base. -/
def scale (base : Nat) (num den : Nat) : Int → Nat × Nat
  | .ofNat e => (num * base.pow e, den)
  | .negSucc e => (num, den * base.pow (e + 1))

/-- The largest power of two, by its exponent, that a positive quotient reaches. -/
def floorLog2 (num den : Nat) : Int :=
  let e : Int := (num.log2 : Int) - den.log2
  let (n, d) := scale 2 num den (-e)
  if n < d then e - 1 else e

namespace Binary64

def zero (negative : Bool) : Binary64 :=
  finite negative 0 (-1074)

/-- The first of the 53 bits of a significand. -/
def leadingBit : Nat := 0x10000000000000

/-- The number nearest to a quotient with a positive denominator; of two equally near, the one with
the even significand. Beyond the largest finite number it is infinite. -/
def ofRatio (negative : Bool) (num den : Nat) : Binary64 :=
  if num = 0 then zero negative
  else
    let e := max (floorLog2 num den - 52) (-1074)
    let (n, d) := scale 2 num den (-e)
    let m := roundDiv n d
    let (m, e) := if m = 2 * leadingBit then (leadingBit, e + 1) else (m, e)
    if 971 < e then infinite negative else finite negative m e

def ofNat (n : Nat) : Binary64 :=
  ofRatio false n 1

/-- The size of a finite number as a quotient of naturals. -/
def ratio? : Binary64 → Option (Nat × Nat)
  | finite _ m e => some (scale 2 m 1 e)
  | _ => none

/-- The sum of two sizes. -/
def addSizes (x y : Binary64) : Binary64 :=
  match x.ratio?, y.ratio? with
  | some (a, b), some (c, d) => ofRatio false (a * d + c * b) (b * d)
  | _, _ => nan

/-- The quotient of a size by a positive natural number. -/
def divSize (x : Binary64) (n : Nat) : Binary64 :=
  match x.ratio? with
  | some (a, b) => ofRatio false a (b * n)
  | none => nan

def sizeLt (x y : Binary64) : Bool :=
  match x.ratio?, y.ratio? with
  | some (a, b), some (c, d) => a * d < c * b
  | _, _ => false

def isFinite : Binary64 → Bool
  | finite .. => true
  | _ => false

end Binary64

end TlsSeed.Number
