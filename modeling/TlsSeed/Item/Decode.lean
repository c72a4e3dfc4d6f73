import TlsSeed.Item.Record
import TlsSeed.Number.Numeral

/-! # Reading records back

An item is a record when it has the three text attributes. Other attributes are left aside, but
their values are walked, and a number without the syntax of one, or a null that says false, is
refused at any depth. A list counts as the three texts in order, with no regard to what follows
them.
-/

namespace TlsSeed.Item

open Text

inductive DecodeError where
  | expectedString
  | expectedMap
  | expectedUnit
  | notANumber (numeral : String)
  | missing (field : Field)
  | tooShort (length : Nat)
  | custom (reason : String)
  deriving DecidableEq, Repr

namespace DecodeError

def message : DecodeError → String
  | expectedString => "Expected string"
  | expectedMap => "Expected map"
  | expectedUnit => "Expected unit"
  | notANumber numeral => "Failed to parse '" ++ numeral ++ "' as a float: " ++
      if numeral.isEmpty then "cannot parse float from empty string" else "invalid float literal"
  | missing field => "missing field `" ++ field.name ++ "`"
  | tooShort length => "invalid length " ++ toString length ++
      ", expected struct CertificateRecord with 3 elements"
  | custom reason => reason

def outline (e : DecodeError) : Outline :=
  .call "Error" [match e with
    | expectedString => .text "ExpectedString"
    | expectedMap => .text "ExpectedMap"
    | expectedUnit => .text "ExpectedUnit"
    | notANumber numeral => .call "FailedToParseFloat" [.text (Quoted.quote numeral),
        .fields "ParseFloatError"
          [("kind", .text (if numeral.isEmpty then "Empty" else "Invalid"))]]
    | missing _ | tooShort _ | custom _ => .call "Message" [.text (Quoted.quote e.message)]]

end DecodeError

/-- Accepts a numeral and refuses what has no syntax of one. -/
def checkNumeral (numeral : String) : Except DecodeError Unit :=
  if (Number.Numeral.read? numeral.toList).isSome then .ok () else .error (.notANumber numeral)

namespace Attribute

mutual

/-- Walks a value that is left aside. -/
def check : Attribute → Except DecodeError Unit
  | number numeral => checkNumeral numeral
  | numbers numerals => numerals.forM checkNumeral
  | null b => if b then .ok () else .error .expectedUnit
  | list values => checkAll values
  | map entries => checkEntries entries
  | _ => .ok ()

def checkAll : List Attribute → Except DecodeError Unit
  | [] => .ok ()
  | v :: vs => do v.check; checkAll vs

def checkEntries : List (String × Attribute) → Except DecodeError Unit
  | [] => .ok ()
  | (_, v) :: es => do v.check; checkEntries es

end

def text : Attribute → Except DecodeError String
  | string s => .ok s
  | _ => .error .expectedString

end Attribute

/-- A record of which some attributes are known. -/
structure Draft where
  hostname : Option String := none
  cert : Option String := none
  key : Option String := none
  deriving DecidableEq, Repr

namespace Draft

def set (d : Draft) (s : String) : Field → Draft
  | .hostname => { d with hostname := some s }
  | .cert => { d with cert := some s }
  | .key => { d with key := some s }

def add (d : Draft) (entry : String × Attribute) : Except DecodeError Draft :=
  match Field.ofName? entry.1 with
  | some f => entry.2.text.map fun s => d.set s f
  | none => entry.2.check.map fun _ => d

/-- The record, or the first attribute that is missing. -/
def finish (d : Draft) : Except DecodeError Record :=
  match d.hostname, d.cert, d.key with
  | none, _, _ => .error (.missing .hostname)
  | _, none, _ => .error (.missing .cert)
  | _, _, none => .error (.missing .key)
  | some hostname, some cert, some key => .ok ⟨hostname, cert, key⟩

end Draft

namespace Record

/-- The record that an item holds. A wrong value is seen before a missing one. -/
def ofItem (entries : Entries) : Except DecodeError Record := do
  (← entries.foldlM Draft.add {}).finish

def ofList (values : List Attribute) : Except DecodeError Record := do
  -- A fourth value and those behind it are not even walked.
  match ← (values.take 3).mapM Attribute.text with
  | [hostname, cert, key] => .ok ⟨hostname, cert, key⟩
  | _ => .error (.tooShort values.length)

/-- The record that a value holds: a map as an item does, or a list. -/
def ofAttribute : Attribute → Except DecodeError Record
  | .map entries => ofItem entries
  | .list values => ofList values
  | _ => .error .expectedMap

end Record

end TlsSeed.Item
