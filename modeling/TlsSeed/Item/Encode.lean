import TlsSeed.Item.Decode

/-! # Writing records as items

A record is written attribute by attribute, and its attributes make a map. Only a map can be an
item. Whatever cannot be written is told by the errors of reading.
-/

namespace TlsSeed.Item

def Attribute.ofText (s : String) : Except DecodeError Attribute :=
  .ok (.string s)

namespace Record

def toAttribute (r : Record) : Except DecodeError Attribute :=
  return .map (← Field.all.mapM fun f => return (f.name, ← Attribute.ofText (r.get f)))

/-- The item that a record is written as. -/
def encode (r : Record) : Except DecodeError Entries := do
  match ← r.toAttribute with
  | .map entries => return entries
  | _ => .error .expectedMap

theorem encode_eq (r : Record) : r.encode = .ok r.toItem := rfl

end Record

end TlsSeed.Item
