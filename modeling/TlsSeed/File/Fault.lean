import TlsSeed.File.ErrorNumber
import TlsSeed.File.FaultKind
import TlsSeed.Text.Outline
import TlsSeed.Text.Quoted

/-! # File errors

Why a file could not be read: the operating system reports a number, or the library states the
reason itself.
-/

namespace TlsSeed.File

open Text

inductive Fault where
  | system (number : Int)
  /-- A kind and nothing more. -/
  | bare (kind : FaultKind)
  /-- A kind with a fixed reason. -/
  | stated (kind : FaultKind) (reason : String)
  /-- A kind with a reason that its maker chose. -/
  | custom (kind : FaultKind) (reason : String)
  deriving DecidableEq, Repr

namespace Fault

def notText : Fault :=
  stated .invalidData "stream did not contain valid UTF-8"

/-- The path holds a zero byte, which no file name can. -/
def zeroInPath : Fault :=
  stated .invalidInput "file name contained an unexpected NUL byte"

def kind : Fault → FaultKind
  | system number => .ofNumber number
  | bare kind | stated kind _ | custom kind _ => kind

def number? : Fault → Option Int
  | system number => some number
  | _ => none

def message : Fault → String
  | system number => ErrorNumber.text number ++ " (os error " ++ toString number ++ ")"
  | bare kind => kind.description
  | stated _ reason | custom _ reason => reason

def outline : Fault → Outline
  | system number => .fields "Os" [("code", .text (toString number)),
      ("kind", .text (FaultKind.ofNumber number).name),
      ("message", .text (Quoted.quote (ErrorNumber.text number)))]
  | bare kind => .call "Kind" [.text kind.name]
  | stated kind reason => .fields "Error" [("kind", .text kind.name),
      ("message", .text (Quoted.quote reason))]
  | custom kind reason => .fields "Custom" [("kind", .text kind.name),
      ("error", .text (Quoted.quote reason))]

end Fault

/-- The text that the bytes of a file encode. -/
def textOf (bytes : Bytes) : Except Fault String :=
  match Utf8.decode? bytes with
  | some s => .ok s
  | none => .error .notText

end TlsSeed.File
