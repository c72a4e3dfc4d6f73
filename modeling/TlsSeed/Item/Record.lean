import TlsSeed.Item.Attribute

/-! # Certificate records

A record is what the table keeps for one hostname: the certificate and the private key as texts.
It is stored as an item of three text attributes. When it is shown, the hostname stands in full
and the two secrets give only their lengths.
-/

namespace TlsSeed.Item

open Text

/-- The certificate and private key to serve for a hostname. -/
structure Record where
  hostname : String
  cert : String
  key : String
  deriving DecidableEq, Repr

/-- The attributes of a record. -/
inductive Field where
  | hostname | cert | key
  deriving DecidableEq, Repr

namespace Field

def all : List Field :=
  [hostname, cert, key]

def name : Field → String
  | hostname => "hostname"
  | cert => "cert"
  | key => "key"

/-- The attribute with a name. Names are compared as they are, capitals and all. -/
def ofName? (s : String) : Option Field :=
  all.find? (·.name == s)

end Field

namespace Record

def get (r : Record) : Field → String
  | .hostname => r.hostname
  | .cert => r.cert
  | .key => r.key

def toItem (r : Record) : Entries :=
  Field.all.map fun f => (f.name, .string (r.get f))

/-- The length of a text in bytes, in place of the text. -/
def redacted (s : String) : Outline :=
  .text ("<" ++ toString s.utf8ByteSize ++ " bytes>")

def outline (r : Record) : Outline :=
  .fields "CertificateRecord" [("hostname", .text (Quoted.quote r.hostname)),
    ("cert", redacted r.cert), ("key", redacted r.key)]

end Record

end TlsSeed.Item
