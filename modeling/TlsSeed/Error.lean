import TlsSeed.File.Tree
import TlsSeed.Item.Decode
import TlsSeed.Store.Exchange

/-! # Errors of the program

Seeding fails when a file cannot be read, before the store is called, or when the put fails. Each
error keeps its cause, and the line that is logged for it ends with the text of the last cause.
-/

namespace TlsSeed

open Text

inductive PutError where
  /-- The client or the store failed; the text tells all causes. -/
  | store (report : String)
  | encoding (cause : Item.DecodeError)
  deriving DecidableEq, Repr

inductive SeedError where
  | read (path : File.Path) (cause : File.Fault)
  | put (cause : PutError)
  deriving DecidableEq, Repr

namespace PutError

/-- The error of a put that the client could not bring to an end. -/
def ofSend (e : Store.SendError) : PutError :=
  store e.report

def message : PutError → String
  | store report => "AwsError: " ++ report
  | encoding cause => "SerializeError: " ++ cause.message

/-- The texts of the error and of the causes behind it. -/
def chain (e : PutError) : List String :=
  e.message :: match e with
    | store _ => []
    | encoding cause => [cause.message]

def outline : PutError → Outline
  | store report => .call "Aws" [.text (Quoted.quote report)]
  | encoding cause => .call "Serialize" [cause.outline]

end PutError

namespace SeedError

/-- What is told about the error. A path that is no text is shown as nearly as a text can. -/
def message : SeedError → String
  | read path cause => "Could not read " ++ Utf8.lossy path ++ ": " ++ cause.message
  | put cause => "PutError: " ++ cause.message

def chain (e : SeedError) : List String :=
  e.message :: match e with
    | read _ cause => [cause.message]
    | put cause => cause.chain

/-- The line that is logged for the error. Only a failed put is said to be one. -/
def failureLine (e : SeedError) : String :=
  (match e with
    | read .. => "Could not read the certificate or key: "
    | put _ => "Could not add the item to table: ") ++ e.message

def outline : SeedError → Outline
  | read path cause => .fields "Read" [("path", .text (Quoted.quoteBytes path)),
      ("source", cause.outline)]
  | put cause => .call "Put" [cause.outline]

/-- The error with its causes and its outline in one line. -/
def report (e : SeedError) : String :=
  chainReport e.chain e.outline.flat

end SeedError

end TlsSeed
