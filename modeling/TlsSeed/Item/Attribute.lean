import TlsSeed.Text.Outline
import TlsSeed.Text.Quoted

/-! # Attribute values

The values that a table keeps under the names of an item: texts, numbers written as texts, bytes,
truth values, sets, lists and maps.
-/

namespace TlsSeed.Item

open Text

inductive Attribute where
  | string (s : String)
  | number (numeral : String)
  | binary (bytes : Bytes)
  | bool (b : Bool)
  | null (b : Bool)
  | strings (ss : List String)
  | numbers (numerals : List String)
  | binaries (bs : List Bytes)
  | list (values : List Attribute)
  | map (entries : List (String × Attribute))
  /-- A value of a type that the library has no name for. -/
  | unknown

namespace Attribute

/-- Bytes as they are shown: two hexadecimal digits for each. -/
def blobOutline (bytes : Bytes) : Outline :=
  .fields "Blob" [("inner", .text (String.ofList (bytes.flatMap fun b =>
    [Nat.digitChar (b.toNat / 16), Nat.digitChar (b.toNat % 16)])))]

def textOutline (s : String) : Outline :=
  .text (Quoted.quote s)

mutual

def outline : Attribute → Outline
  | string s => .call "S" [textOutline s]
  | number numeral => .call "N" [textOutline numeral]
  | binary bytes => .call "B" [blobOutline bytes]
  | bool b => .call "Bool" [.text (toString b)]
  | null b => .call "Null" [.text (toString b)]
  | strings ss => .call "Ss" [.list (ss.map textOutline)]
  | numbers numerals => .call "Ns" [.list (numerals.map textOutline)]
  | binaries bs => .call "Bs" [.list (bs.map blobOutline)]
  | list values => .call "L" [.list (outlines values)]
  | map entries => .call "M" [.map (entryOutlines entries)]
  | unknown => .text "Unknown"

def outlines : List Attribute → List Outline
  | [] => []
  | v :: vs => v.outline :: outlines vs

/-- The entries as they are shown, their names in quotes. -/
def entryOutlines : List (String × Attribute) → List (String × Outline)
  | [] => []
  | (name, v) :: es => (Quoted.quote name, v.outline) :: entryOutlines es

end

end Attribute

/-- An item of a table, or a map inside one: values under names that differ from each other. -/
abbrev Entries := List (String × Attribute)

end TlsSeed.Item
