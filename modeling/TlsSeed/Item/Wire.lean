import TlsSeed.Item.Attribute
import TlsSeed.Json.Base64
import TlsSeed.Json.Value
import TlsSeed.Json.Writer

/-! # Attribute values on the wire

A value travels as a JSON object with one member, named for the type of the value. Members that are
null count as absent, and a value with two types or none is no value. Arrays and objects lie in each
other only so deep; where values are read, the room is the number of levels that are left.
-/

namespace TlsSeed.Item.Attribute

open Json Text

/-- The names of the types. -/
def typeNames : List String :=
  ["S", "N", "B", "BOOL", "NULL", "SS", "NS", "BS", "L", "M"]

def wireBytes (bs : Bytes) : String :=
  quoted (String.ofList (Base64.encode bs))

mutual

/-- The value as it travels. A value of unknown type travels without a type, which no store
accepts. -/
def wire : Attribute → String
  | string s => objectOf [("S", quoted s)]
  | number numeral => objectOf [("N", quoted numeral)]
  | binary bytes => objectOf [("B", wireBytes bytes)]
  | bool b => objectOf [("BOOL", toString b)]
  | null b => objectOf [("NULL", toString b)]
  | strings ss => objectOf [("SS", arrayOf (ss.map quoted))]
  | numbers numerals => objectOf [("NS", arrayOf (numerals.map quoted))]
  | binaries bs => objectOf [("BS", arrayOf (bs.map wireBytes))]
  | list values => objectOf [("L", arrayOf (wires values))]
  | map entries => objectOf [("M", objectOf (entryWires entries))]
  | unknown => objectOf []

def wires : List Attribute → List String
  | [] => []
  | v :: vs => v.wire :: wires vs

def entryWires : List (String × Attribute) → List (String × String)
  | [] => []
  | (name, v) :: es => (name, v.wire) :: entryWires es

end

def stringOf? : Value → Option String
  | .string raw => Json.text? raw
  | _ => none

/-- The bytes of a string value. Its characters are taken as they are written, so that it holds no
escape. -/
def bytesOf? : Value → Option Bytes
  | .string raw => Base64.decode? raw
  | _ => none

/-- The entries after one more. A name that comes again takes the new value. -/
def putEntry (entries : Entries) (name : String) (v : Attribute) : Entries :=
  entries.filter (·.1 != name) ++ [(name, v)]

/-- Goes one level down, if there is room. -/
def descend (room : Nat) (f : Nat → Option α) : Option α :=
  match room with
  | 0 => none
  | rest + 1 => f rest

mutual

/-- The value that travelled as a JSON value. -/
def ofValue? (room : Nat) : Value → Option Attribute
  | .object members => descend room fun room => (variant? room none members).join
  | _ => none

/-- The value of the one member that names a type, given the value found before. -/
def variant? (room : Nat) (found : Option Attribute) :
    List (Raw × Value) → Option (Option Attribute)
  | [] => some found
  | (_, .null) :: ms => variant? room found ms
  | (raw, v) :: ms => do
    let name ← Json.text? raw
    if name = "__type" then variant? room (← v.skip? found) ms
    else if found.isSome then none
    else variant? room (some (← typed? room name v)) ms

/-- The value of a type, from the member that the type names. -/
def typed? (room : Nat) : String → Value → Option Attribute
  | "S", .string raw => (Json.text? raw).map string
  | "N", .string raw => (Json.text? raw).map number
  | "B", .string raw => (bytesOf? (.string raw)).map binary
  | "BOOL", .bool b => some (bool b)
  | "NULL", .bool b => some (null b)
  | "SS", .array vs => descend room fun _ => (vs.mapM stringOf?).map strings
  | "NS", .array vs => descend room fun _ => (vs.mapM stringOf?).map numbers
  | "BS", .array vs => descend room fun _ => (vs.mapM bytesOf?).map binaries
  | "L", .array vs => descend room fun room => (ofValues? room vs).map list
  | "M", .object ms => descend room fun room => (ofMembers? room [] ms).map map
  | name, v => if typeNames.contains name then none else v.skip? unknown

def ofValues? (room : Nat) : List Value → Option (List Attribute)
  | [] => some []
  | v :: vs => do return (← ofValue? room v) :: (← ofValues? room vs)

/-- The entries that travelled as the members of an object, after those given. -/
def ofMembers? (room : Nat) (entries : Entries) : List (Raw × Value) → Option Entries
  | [] => some entries
  | (raw, v) :: ms => do
    ofMembers? room (putEntry entries (← Json.text? raw) (← ofValue? room v)) ms

end

def entriesOf? (room : Nat) : Value → Option Entries
  | .object ms => descend room fun room => ofMembers? room [] ms
  | _ => none

/-- The levels of arrays and objects that a document with values may have. -/
def maxLevels : Nat := 128

end TlsSeed.Item.Attribute
