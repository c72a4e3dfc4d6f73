import TlsSeed.CommandLine.Flag
import TlsSeed.File.Tree

/-! # The command line

The program takes a hostname and two paths. Arguments are looked at from left to right, and the
first flag before the separator decides. An operand is checked no earlier than the next one
begins, so that an error further right may be reported first.
-/

namespace TlsSeed.CommandLine

open Text

/-- What the program is called with. -/
structure Invocation where
  hostname : String
  certFile : File.Path
  keyFile : File.Path
  deriving DecidableEq, Repr

/-- The operands in their order. -/
inductive Operand where
  | hostname | certFile | keyFile
  deriving DecidableEq, Repr

namespace Operand

def all : List Operand :=
  [hostname, certFile, keyFile]

def name : Operand → String
  | hostname => "HOSTNAME"
  | certFile => "CERT_FILE"
  | keyFile => "KEY_FILE"

end Operand

inductive UsageError where
  | unknownFlag (name : String) (similar : Option Known)
  /-- A flag with a value that it has no use for, and whether two operands had begun before it. -/
  | unexpectedValue (k : Known) (value : String) (crowded : Bool)
  | unexpectedOperand (argument : String)
  /-- The hostname is no text. -/
  | notText
  /-- The path is empty. -/
  | emptyValue (operand : Operand)
  | missing (operands : List Operand)
  deriving DecidableEq, Repr

/-- Why the program does not run. -/
inductive Halt where
  | help (inFull : Bool)
  | version
  | usage (e : UsageError)
  deriving DecidableEq, Repr

def check (o : Operand) (arg : Bytes) : Except Halt Unit :=
  match o with
  | .hostname => if (Utf8.decode? arg).isSome then .ok () else .error (.usage .notText)
  | .certFile | .keyFile => if arg.isEmpty then .error (.usage (.emptyValue o)) else .ok ()

/-- Checks the operand that began last, given all that have begun. -/
def checkLast : List Bytes → Except Halt Unit
  | [h] => check .hostname h
  | [_, c] => check .certFile c
  | [_, _, k] => check .keyFile k
  | _ => .ok ()

/-- The operands after one more has begun. -/
def beginWith (seen : List Bytes) (arg : Bytes) : Except Halt (List Bytes) :=
  if seen.length < 3 then do
    checkLast seen
    return seen ++ [arg]
  else .error (.usage (.unexpectedOperand (Utf8.lossy arg)))

/-- What a flag leads to, given the operands that have begun. -/
def obey (seen : List Bytes) : Flag → Halt
  | .known k inFull =>
    -- A flag that is known ends the operand before it, and what is wrong with that comes first.
    match checkLast seen with
    | .error e => e
    | .ok () => match k with
      | .help => .help inFull
      | .version => .version
  | .valued k value => .usage (.unexpectedValue k (Utf8.lossy value) (2 ≤ seen.length))
  | .unknown name similar => .usage (.unknownFlag name similar)

/-- What the operands lead to when no argument is left. -/
def finish (seen : List Bytes) : Except Halt Invocation := do
  checkLast seen
  match seen with
  | [h, c, k] => return ⟨Utf8.lossy h, c, k⟩
  | _ => .error (.usage (.missing (Operand.all.drop seen.length)))

/-- The arguments after the separator, all of them operands. -/
def operands (seen : List Bytes) : List Bytes → Except Halt Invocation
  | [] => finish seen
  | arg :: rest => do operands (← beginWith seen arg) rest

/-- The arguments in front of the separator, given the operands that have begun. -/
def arguments (seen : List Bytes) : List Bytes → Except Halt Invocation
  | [] => finish seen
  | arg :: rest =>
    if arg = Flag.separator then operands seen rest
    else match Flag.ofArgument? arg with
      | some f => .error (obey seen f)
      | none => do arguments (← beginWith seen arg) rest

/-- Reads a command line. The first argument is the name of the program and does not matter here. -/
def parse (argv : List Bytes) : Except Halt Invocation :=
  arguments [] (argv.drop 1)

end TlsSeed.CommandLine
