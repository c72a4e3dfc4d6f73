/-! # UTF-8

A byte sequence is cut into characters and broken pieces. A broken piece is the longest beginning
of a character that the bytes allow at that place, or a single byte that begins none. A text is
what has no broken piece.
-/

namespace TlsSeed.Text

/-- Bytes in order. They need not be the encoding of a text. -/
abbrev Bytes := List UInt8

namespace Utf8

/-- What a stretch of bytes stands for. -/
inductive Piece where
  | char (c : Char)
  | broken (bytes : Bytes)
  deriving DecidableEq, Repr

/-- A sequence that has begun: the bytes read, the number they spell so far, the bounds for the next
byte, and how many bytes are missing. -/
structure Open where
  seen : Bytes
  value : Nat
  low : UInt8
  high : UInt8
  missing : Nat
  deriving DecidableEq, Repr

/-- What a first byte opens. The bounds of the second byte shut out longer spellings than needed,
surrogates, and numbers beyond the last code point. -/
def opens? (b : UInt8) : Option Open :=
  if 0xC2 ≤ b && b ≤ 0xDF then some ⟨[b], b.toNat - 0xC0, 0x80, 0xBF, 1⟩
  else if b == 0xE0 then some ⟨[b], 0, 0xA0, 0xBF, 2⟩
  else if b == 0xED then some ⟨[b], 0xD, 0x80, 0x9F, 2⟩
  else if 0xE1 ≤ b && b ≤ 0xEF then some ⟨[b], b.toNat - 0xE0, 0x80, 0xBF, 2⟩
  else if b == 0xF0 then some ⟨[b], 0, 0x90, 0xBF, 3⟩
  else if 0xF1 ≤ b && b ≤ 0xF3 then some ⟨[b], b.toNat - 0xF0, 0x80, 0xBF, 3⟩
  else if b == 0xF4 then some ⟨[b], 4, 0x80, 0x8F, 3⟩
  else none

/-- A byte where no sequence is open: what it completes, and what it opens. -/
def first (b : UInt8) : List Piece × Option Open :=
  if b < 0x80 then ([.char (Char.ofNat b.toNat)], none)
  else match opens? b with
    | some o => ([], some o)
    | none => ([.broken [b]], none)

/-- A byte inside an open sequence: a byte out of bounds breaks it off and is then a first byte. -/
def Open.next (o : Open) (b : UInt8) : List Piece × Option Open :=
  if o.low ≤ b && b ≤ o.high then
    let value := o.value * 64 + b.toNat % 64
    if o.missing == 1 then ([.char (Char.ofNat value)], none)
    else ([], some ⟨o.seen ++ [b], value, 0x80, 0xBF, o.missing - 1⟩)
  else
    let (ps, o') := first b
    (.broken o.seen :: ps, o')

/-- The pieces of the bytes that follow, given the open sequence. -/
def scan : Option Open → Bytes → List Piece
  | none, [] => []
  | some o, [] => [.broken o.seen]
  | none, b :: bs => (first b).1 ++ scan (first b).2 bs
  | some o, b :: bs => (o.next b).1 ++ scan (o.next b).2 bs

/-- The characters and broken pieces of a byte sequence, in order. -/
def pieces (bs : Bytes) : List Piece :=
  scan none bs

def Piece.char? : Piece → Option Char
  | .char c => some c
  | .broken _ => none

/-- The text that the bytes encode, if no piece is broken. -/
def decode? (bs : Bytes) : Option String :=
  ((pieces bs).mapM Piece.char?).map String.ofList

/-- The text to show for the bytes: each broken piece becomes one U+FFFD. -/
def lossy (bs : Bytes) : String :=
  String.ofList ((pieces bs).map fun p => p.char?.getD '\ufffd')

/-- The one to four bytes that encode a character. -/
def encodeChar (c : Char) : Bytes :=
  let n := c.toNat
  if n < 0x80 then [.ofNat n]
  else if n < 0x800 then [.ofNat (0xC0 + n / 64), .ofNat (0x80 + n % 64)]
  else if n < 0x10000 then
    [.ofNat (0xE0 + n / 4096), .ofNat (0x80 + n / 64 % 64), .ofNat (0x80 + n % 64)]
  else
    [.ofNat (0xF0 + n / 262144), .ofNat (0x80 + n / 4096 % 64), .ofNat (0x80 + n / 64 % 64),
     .ofNat (0x80 + n % 64)]

def encode (s : String) : Bytes :=
  s.toList.flatMap encodeChar

end Utf8

end TlsSeed.Text
