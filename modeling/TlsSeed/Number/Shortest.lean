import TlsSeed.Number.Binary64

/-! # The shortest text of a double-precision number

Of the decimals that read back as the number, those with the fewest digits are taken, and of these
the nearest. The digits are set out with a decimal point, or in scientific form when the number is
very large or very small.
-/

namespace TlsSeed.Number

/-- Digits times a power of ten. -/
structure Decimal where
  digits : Nat
  exponent : Int
  deriving DecidableEq, Repr

namespace Shortest

/-- How many places after the point the first digit other than zero of a quotient below one stands.
The count stops when the fuel is spent. -/
def leadingPlace (num den : Nat) : Nat → Nat
  | 0 => 0
  | fuel + 1 => if den ≤ num then 0 else leadingPlace (10 * num) den fuel + 1

/-- The power of ten of the first digit of a positive quotient. The smallest double-precision number
is above the 400th negative power. -/
def leadingPower (num den : Nat) : Int :=
  if den ≤ num then ((Nat.toDigits 10 (num / den)).length : Int) - 1
  else -(leadingPlace num den 400 : Int)

/-- The decimal without the zeros at its end. -/
def trim : Nat → Decimal → Decimal
  | 0, d => d
  | fuel + 1, d => if d.digits % 10 = 0 then trim fuel ⟨d.digits / 10, d.exponent + 1⟩ else d

/-- The decimals that read back as a number lie between two bounds, all three counted in units of a
power of two. The bounds themselves read back when the significand is even. -/
structure Window where
  low : Nat
  value : Nat
  high : Nat
  exponent : Int
  closed : Bool

/-- The window of a positive finite number. Below a power of two the next number is half as far. -/
def window (significand : Nat) (exponent : Int) : Window where
  -- In quarters of the last place, so that half the way to either neighbour is whole.
  low := 4 * significand - if significand = Binary64.leadingBit ∧ -1074 < exponent then 1 else 2
  value := 4 * significand
  high := 4 * significand + 2
  exponent := exponent - 2
  closed := significand % 2 == 0

def Window.holds (w : Window) (digits : Nat) (power : Int) : Bool :=
  let (n, d) := scale 10 digits 1 power
  let (n, d) := scale 2 n d (-w.exponent)
  if w.closed then w.low * d ≤ n && n ≤ w.high * d else w.low * d < n && n < w.high * d

/-- The nearest decimal with the given count of digits that lies in the window. Only the two
neighbours of the value on the grid of such decimals can be nearest; of two equally near, the larger
one is taken. -/
def Window.nearest? (w : Window) (first : Int) (count : Nat) : Option Decimal :=
  let power := first + 1 - count
  let (n, d) := scale 2 w.value 1 w.exponent
  let (n, d) := scale 10 n d (-power)
  let below := n / d
  let above := below + 1
  match w.holds below power, w.holds above power with
  | true, true => some ⟨if 2 * (n % d) < d then below else above, power⟩
  | true, false => some ⟨below, power⟩
  | false, true => some ⟨above, power⟩
  | false, false => none

/-- The shortest decimal of a positive finite number. Seventeen digits always suffice. -/
def decimal (significand : Nat) (exponent : Int) : Decimal :=
  let w := window significand exponent
  let (n, d) := scale 2 w.value 1 w.exponent
  let first := leadingPower n d
  let found := (List.range 17).findSome? fun k => w.nearest? first (k + 1)
  trim 17 (found.getD ⟨significand, 0⟩)

/-- A decimal point with at least one digit on either side. -/
def positional (digits : List Char) (first : Int) : String :=
  match first with
  | .ofNat p =>
    let padded := digits ++ List.replicate (p + 1 - digits.length) '0'
    let fraction := padded.drop (p + 1)
    String.ofList (padded.take (p + 1) ++ ['.'] ++ if fraction.isEmpty then ['0'] else fraction)
  | .negSucc p => String.ofList (['0', '.'] ++ List.replicate p '0' ++ digits)

/-- One digit, the others after a point, and the power of ten after the letter e. -/
def scientific (digits : List Char) (first : Int) : String :=
  let fraction := digits.drop 1
  String.ofList (digits.take 1 ++ (if fraction.isEmpty then [] else '.' :: fraction) ++ ['e'])
    ++ toString first

end Shortest

/-- The text of a number. The scientific form begins at the 16th power of ten, and below the fourth
negative power. -/
def Binary64.text : Binary64 → String
  | nan => "NaN"
  | infinite negative => if negative then "-inf" else "inf"
  | finite negative significand exponent =>
    let size :=
      if significand = 0 then "0.0"
      else
        let d := Shortest.decimal significand exponent
        let digits := Nat.toDigits 10 d.digits
        let first := d.exponent + digits.length - 1
        if 16 ≤ first ∨ first < -4 then Shortest.scientific digits first
        else Shortest.positional digits first
    if negative then "-" ++ size else size

end TlsSeed.Number
