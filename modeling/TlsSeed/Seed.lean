import TlsSeed.Item.Encode
import TlsSeed.Script

/-! # Seeding

Seeding reads the certificate and the key, in this order and both in full, and then puts them as one
record under the hostname. A file that cannot be read ends it before the store is called.
-/

namespace TlsSeed

open Item Text

def readText (path : File.Path) : Script (Except SeedError String) := do
  return ((← Script.readFile path).bind File.textOf).mapError (SeedError.read path)

/-- Reads the two files of a record. The key is not read when the certificate cannot be. -/
def readRecord (hostname : String) (certPath keyPath : File.Path) :
    Script (Except SeedError Record) := do
  match ← readText certPath with
  | .error e => return .error e
  | .ok cert => return (← readText keyPath).map fun key => ⟨hostname, cert, key⟩

/-- A table of the store, as a client reaches it. -/
structure Table where
  client : Client
  name : String
  deriving DecidableEq, Repr

namespace Table

def logTarget : String := "cert_seed::certificate_table"

/-- The put that writes a record. It asks for nothing back and sets no condition. -/
def putOf (t : Table) (r : Record) : Store.Put where
  table := t.name
  item := r.toItem

/-- Writes a record in place of whatever the table holds for its hostname. -/
def put (t : Table) (r : Record) : Script (Except PutError Store.PutOutput) := do
  match r.encode with
  | .error e => return .error (.encoding e)
  | .ok item =>
    Script.say .debug logTarget ("PUT " ++ r.hostname ++ " into " ++ t.name)
    return (← Script.send t.client { table := t.name, item }).mapError PutError.ofSend

end Table

def seedLogTarget : String := "cert_seed::seeder"

/-- What is logged about an acknowledgement. -/
def createdMessage (output : Store.PutOutput) : String :=
  "DynamoDB table item created: " ++ output.outline.pretty

/-- Reads a certificate and its key and puts them under a hostname. -/
def seed (t : Table) (hostname : String) (certPath keyPath : File.Path) :
    Script (Except SeedError Store.PutOutput) := do
  match ← readRecord hostname certPath keyPath with
  | .error e => return .error e
  | .ok r =>
    Script.say .info seedLogTarget "Adding item..."
    match ← t.put r with
    | .error e => return .error (.put e)
    | .ok output =>
      Script.say .info seedLogTarget (createdMessage output)
      return .ok output

end TlsSeed
