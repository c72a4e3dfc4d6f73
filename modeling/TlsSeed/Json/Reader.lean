import TlsSeed.Json.Value
import TlsSeed.Number.Numeral

/-! # Reading JSON

The reader follows the grammar of JSON, with three liberties: a number may have zeros in front of
it or none on one side of its point, an escape is a backslash and whatever stands after it until the
string is used, and a document may be asked for its first token alone.
-/

namespace TlsSeed.Json

open Number Text

def isSpace (b : UInt8) : Bool :=
  b == 0x20 || b == 0x09 || b == 0x0A || b == 0x0D

def skipSpace (bs : Bytes) : Bytes :=
  bs.dropWhile isSpace

/-- The bytes up to the quote that closes a string, and those after the quote. -/
def stringBytes? : Bytes → Option (Bytes × Bytes)
  | [] => none
  | 0x22 :: rest => some ([], rest)
  | 0x5C :: e :: rest => (stringBytes? rest).map fun (s, r) => (0x5C :: e :: s, r)
  | b :: rest =>
    if b < 0x20 then none
    else (stringBytes? rest).map fun (s, r) => (b :: s, r)

/-- The string after an opening quote, and what follows it. -/
def readString? (bs : Bytes) : Option (Raw × Bytes) := do
  let (s, rest) ← stringBytes? bs
  return ((← Utf8.decode? s).toList, rest)

def isNumberByte (b : UInt8) : Bool :=
  isDigitByte b || [0x2B, 0x2D, 0x2E, 0x45, 0x65].contains b
where
  isDigitByte (b : UInt8) : Bool := 0x30 ≤ b && b ≤ 0x39

/-- A number or a word may end in front of these bytes: at the end, at space, or at a mark that
stands after a value. -/
def isBoundary : Bytes → Bool
  | [] => true
  | b :: _ => isSpace b || [0x2C, 0x5D, 0x7D].contains b

/-- The number at the front, and what follows it. An integer has no negative zero. -/
def readNumber? (bs : Bytes) : Option (Binary64 × Bytes) := do
  let cs := (bs.takeWhile isNumberByte).map fun b => Char.ofNat b.toNat
  let n := (← Numeral.read? cs).toBinary64
  let isInteger := (Numeral.sign cs).2.all Char.isDigit
  let rest := bs.dropWhile isNumberByte
  if isBoundary rest then return (if isInteger && n == .zero true then .zero false else n, rest)
  else none

def afterWord? (word : String) (bs : Bytes) : Option Bytes :=
  let w := Utf8.encode word
  let rest := bs.drop w.length
  if w.isPrefixOf bs && isBoundary rest then some rest else none

/-- The value of one token at the front, and what follows it. -/
def readScalar? : Bytes → Option (Value × Bytes)
  | [] => none
  | b :: rest =>
    if b == 0x22 then (readString? rest).map fun (s, r) => (.string s, r)
    else if b == 0x2D || isNumberByte.isDigitByte b then
      (readNumber? (b :: rest)).map fun (n, r) => (.number n, r)
    else if b == 0x6E then (afterWord? "null" (b :: rest)).map (.null, ·)
    else if b == 0x74 then (afterWord? "true" (b :: rest)).map (.bool true, ·)
    else if b == 0x66 then (afterWord? "false" (b :: rest)).map (.bool false, ·)
    else none

mutual

/-- The value at the front, and what follows it. Each level of nesting and each item takes a byte,
so the fuel never runs out when it exceeds the number of bytes. -/
def readValue? : Nat → Bytes → Option (Value × Bytes)
  | 0, _ => none
  | fuel + 1, bs =>
    match skipSpace bs with
    | 0x5B :: rest =>
      match skipSpace rest with
      | 0x5D :: after => some (.array [], after)
      | items => (readItems? fuel items).map fun (vs, r) => (.array vs, r)
    | 0x7B :: rest =>
      match skipSpace rest with
      | 0x7D :: after => some (.object [], after)
      | members => (readMembers? fuel members).map fun (ms, r) => (.object ms, r)
    | token => readScalar? token

/-- The items up to the bracket that closes an array, and what follows it. -/
def readItems? : Nat → Bytes → Option (List Value × Bytes)
  | 0, _ => none
  | fuel + 1, bs => do
    let (v, rest) ← readValue? fuel bs
    match skipSpace rest with
    | 0x5D :: after => return ([v], after)
    | 0x2C :: more =>
      let (vs, after) ← readItems? fuel more
      return (v :: vs, after)
    | _ => none

/-- The members up to the brace that closes an object, and what follows it. -/
def readMembers? : Nat → Bytes → Option (List (Raw × Value) × Bytes)
  | 0, _ => none
  | fuel + 1, bs => do
    let 0x22 :: quoted := skipSpace bs | none
    let (name, rest) ← readString? quoted
    let 0x3A :: value := skipSpace rest | none
    let (v, rest) ← readValue? fuel value
    match skipSpace rest with
    | 0x7D :: after => return ([(name, v)], after)
    | 0x2C :: more =>
      let (ms, after) ← readMembers? fuel more
      return ((name, v) :: ms, after)
    | _ => none

end

/-- The value of a document that holds nothing else but space. -/
def document? (bs : Bytes) : Option Value := do
  let (v, rest) ← readValue? (bs.length + 1) bs
  if (skipSpace rest).isEmpty then return v else none

/-- The members of a document that is an object, each of which may be passed over. Of any other
document only the first token is looked at, and it has no members; neither has an empty one. -/
def looseMembers? (bs : Bytes) : Option (List (Raw × Value)) :=
  match skipSpace bs with
  | [] => some []
  | 0x7B :: _ =>
    match document? bs with
    | some (.object members) => members.mapM fun m => m.2.skip? m
    | _ => none
  | 0x5B :: _ => some []
  | token => (readScalar? token).map fun _ => []

end TlsSeed.Json
