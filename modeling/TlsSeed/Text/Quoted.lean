import TlsSeed.Text.DefaultIgnorable
import TlsSeed.Text.GraphemeExtend
import TlsSeed.Text.Unprintable
import TlsSeed.Text.Utf8

/-! # Quoted texts

A text in quotes shows every character of the text: quotes and backslashes are escaped, and a
character that a reader could not see or tell from its neighbours is written by number. A path may
hold bytes that encode no character; each of these is written in hexadecimal.
-/

namespace TlsSeed.Text.Quoted

/-- The character is written by its number. -/
def byNumber (c : Char) : Bool :=
  if 0x20 ≤ c.toNat && c.toNat < 0x7F then false
  else isUnprintable c || isGraphemeExtend c || isDefaultIgnorable c

/-- What a character becomes between the quotes. -/
def encodeChar (c : Char) : List Char :=
  if c = '\x00' then ['\\', '0']
  else if c = '\t' then ['\\', 't']
  else if c = '\r' then ['\\', 'r']
  else if c = '\n' then ['\\', 'n']
  else if c = '"' then ['\\', '"']
  else if c = '\\' then ['\\', '\\']
  else if byNumber c then ['\\', 'u', '\x7b'] ++ Nat.toDigits 16 c.toNat ++ ['\x7d']
  else [c]

def encode (cs : List Char) : List Char :=
  cs.flatMap encodeChar

/-- The text in quotes. -/
def quote (s : String) : String :=
  String.ofList ('"' :: encode s.toList ++ ['"'])

def hexByte (b : UInt8) : List Char :=
  [Nat.digitChar (b.toNat / 16), Nat.digitChar (b.toNat % 16)].map Char.toUpper

def encodePiece : Utf8.Piece → List Char
  | .char c => encodeChar c
  | .broken bytes => bytes.flatMap fun b => '\\' :: 'x' :: hexByte b

/-- The byte sequence in quotes. -/
def quoteBytes (bs : Bytes) : String :=
  String.ofList ('"' :: (Utf8.pieces bs).flatMap encodePiece ++ ['"'])

end TlsSeed.Text.Quoted
