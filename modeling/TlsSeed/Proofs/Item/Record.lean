import TlsSeed.Item.Decode

/-! # Records and their items

The item of a record lists its three texts, and reading it gives the record back.
-/

namespace TlsSeed.Item

namespace Record

theorem toItem_eq (r : Record) :
    r.toItem = [("hostname", .string r.hostname), ("cert", .string r.cert),
      ("key", .string r.key)] := rfl

@[simp] theorem ofItem_toItem (r : Record) : ofItem r.toItem = .ok r := by
  have h₁ : Field.ofName? "hostname" = some .hostname := by decide
  have h₂ : Field.ofName? "cert" = some .cert := by decide
  have h₃ : Field.ofName? "key" = some .key := by decide
  simp [ofItem, toItem_eq, Draft.add, h₁, h₂, h₃, Attribute.text, Except.map, Draft.set,
    Draft.finish, bind, Except.bind, pure, Except.pure]

end Record

end TlsSeed.Item
