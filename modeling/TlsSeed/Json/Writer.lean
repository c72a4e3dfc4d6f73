/-! # Writing JSON

Strings, arrays and objects in their shortest form. A string escapes only what the grammar does not
allow between quotes.
-/

namespace TlsSeed.Json

def escape (c : Char) : List Char :=
  if c = '"' then ['\\', '"']
  else if c = '\\' then ['\\', '\\']
  else if c.toNat < 0x20 then
    ['\\', 'u', '0', '0', Nat.digitChar (c.toNat / 16), Nat.digitChar (c.toNat % 16)]
  else [c]

def quoted (s : String) : String :=
  String.ofList ('"' :: s.toList.flatMap escape ++ ['"'])

def arrayOf (items : List String) : String :=
  "[" ++ ",".intercalate items ++ "]"

/-- An object of names and written values. -/
def objectOf (members : List (String × String)) : String :=
  "\x7b" ++ ",".intercalate (members.map fun (name, v) => quoted name ++ ":" ++ v) ++ "\x7d"

end TlsSeed.Json
