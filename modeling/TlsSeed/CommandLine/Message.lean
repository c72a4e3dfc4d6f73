import TlsSeed.CommandLine.Parse
import TlsSeed.Text.ControlSequence
import TlsSeed.Text.Outline
import TlsSeed.Text.Quoted

/-! # What the command line tells

Help, the version, and the errors of usage. They name the program as it was called, and nothing
else in them depends on that name. What they repeat of the call is written as a terminal would show
it, so that no argument can steer the terminal.
-/

namespace TlsSeed.CommandLine

open Text

/-- The name of the program when the call does not tell it. -/
def ownName : String := "cert-seed"

def versionText : String :=
  ownName ++ " 0.1.0\n"

/-- The name under which the program was called: the last step of the first argument, if that is a
name and a text. -/
def programName (argv : List Bytes) : String :=
  let steps := ((argv.headD []).splitOn File.Path.separator).filter fun s =>
    !s.isEmpty && s != File.Path.stay
  match steps.getLast? with
  | none => ownName
  | some s => if s = File.Path.up then ownName else (Utf8.decode? s).getD ownName

namespace Operand

/-- The operand as it stands in a usage line. -/
def label (o : Operand) : String :=
  "<" ++ o.name ++ ">"

def purpose : Operand → String
  | hostname => "Hostname the certificate is served for"
  | certFile => "Path to the PEM certificate (chain)"
  | keyFile => "Path to the PEM private key"

end Operand

namespace Known

def label (k : Known) : String :=
  "-" ++ String.singleton k.letter ++ ", " ++ k.long

/-- What the flag does. Either form of help speaks of the other. -/
def purpose (inFull : Bool) : Known → String
  | help => if inFull then "Print help (see a summary with '-h')"
    else "Print help (see more with '--help')"
  | version => "Print version"

end Known

def usageLine (program : String) (flag : Option Known) (crowded : Bool) : String :=
  let names := if crowded then ["<" ++ "|".intercalate (Operand.all.map Operand.name) ++ ">"]
    else Operand.all.map Operand.label
  " ".intercalate
    (["Usage:", ControlSequence.shown program] ++ (flag.map Known.long).toList ++ names)

/-- A list of entries below a heading, each with its purpose on a line of its own. -/
def longSection (heading : String) (entries : List (String × String)) : String :=
  heading ++ ":\n" ++
    "\n".intercalate (entries.map fun (label, purpose) =>
      "  " ++ label ++ "\n          " ++ purpose ++ "\n")

/-- A list of entries below a heading, in two columns. -/
def shortSection (heading : String) (entries : List (String × String)) : String :=
  let width := (entries.map (·.1.length)).foldl max 0
  heading ++ ":\n" ++
    String.join (entries.map fun (label, purpose) =>
      "  " ++ label ++ String.ofList (List.replicate (width - label.length + 2) ' ') ++ purpose ++
        "\n")

def summary : String :=
  "Seeds TLS certificates and private keys into a local DynamoDB table for test environments"

def description : String :=
  "Adds a certificate and private key for HOSTNAME to the local encryption table.\n\n" ++
  "The store endpoint defaults to http://localhost:4566 and can be changed with " ++
  "LOCALSTACK_ENDPOINT_URL."

def helpText (program : String) (inFull : Bool) : String :=
  let arrange := if inFull then longSection else shortSection
  "\n\n".intercalate [if inFull then description else summary, usageLine program none false] ++
    "\n\n" ++ arrange "Arguments" (Operand.all.map fun o => (o.label, o.purpose)) ++
    "\n" ++ arrange "Options" (Known.all.map fun k => (k.label, k.purpose inFull))

def footer : String :=
  "\n\nFor more information, try '--help'.\n"

/-- The beginning of an error about an argument that has no place. -/
def unexpected (argument : String) : String :=
  "error: unexpected argument '" ++ argument ++ "' found\n\n"

def UsageError.message (program : String) : UsageError → String
  | unknownFlag name none =>
    let flag := ControlSequence.shown name
    unexpected flag ++ "  tip: to pass '" ++ flag ++ "' as a value, use '-- " ++ flag ++ "'\n\n" ++
      usageLine program none false ++ footer
  | unknownFlag name (some k) =>
    unexpected (ControlSequence.shown name) ++ "  tip: a similar argument exists: '" ++ k.long ++
      "'\n\n" ++ usageLine program (some k) false ++ footer
  | unexpectedValue k value crowded =>
    "error: unexpected value '" ++ ControlSequence.shown value ++ "' for '" ++ k.long ++
      "' found; no more were expected\n\n" ++ usageLine program (some k) crowded ++ footer
  | unexpectedOperand argument =>
    unexpected (ControlSequence.shown argument) ++ usageLine program none false ++ footer
  | notText =>
    "error: invalid UTF-8 was detected in one or more arguments\n\n" ++
      usageLine program none false ++ footer
  | emptyValue o =>
    "error: a value is required for '" ++ o.label ++ "' but none was supplied" ++ footer
  | missing os =>
    "error: the following required arguments were not provided:\n" ++
      String.join (os.map fun o => "  " ++ o.label ++ "\n") ++ "\n" ++
      usageLine program none false ++ footer

/-- The kinds of halts. An operand too many is an unknown argument, as an unknown flag is. -/
inductive Halt.Kind where
  | help | version | unknownArgument | tooManyValues | notText | invalidValue | missingOperands
  deriving DecidableEq, Repr

namespace Halt

def kind : Halt → Kind
  | help _ => .help
  | version => .version
  | usage (.unknownFlag ..) | usage (.unexpectedOperand _) => .unknownArgument
  | usage (.unexpectedValue ..) => .tooManyValues
  | usage .notText => .notText
  | usage (.emptyValue _) => .invalidValue
  | usage (.missing _) => .missingOperands

/-- What the program prints instead of running. -/
def text (program : String) : Halt → String
  | help inFull => helpText program inFull
  | version => versionText
  | usage e => e.message program

def isError : Halt → Bool
  | usage _ => true
  | _ => false

def exitCode (h : Halt) : Nat :=
  if h.isError then 2 else 0

end Halt

/-- What a caller is told when the program halts. -/
structure Notice where
  kind : Halt.Kind
  exitCode : Nat
  message : String
  deriving DecidableEq, Repr

def Halt.notice (argv : List Bytes) (h : Halt) : Notice :=
  ⟨h.kind, h.exitCode, h.text (programName argv)⟩

/-- The answer to a command line: what the program is called with, or what is told instead. -/
def answer (argv : List Bytes) : Except Notice Invocation :=
  (parse argv).mapError (·.notice argv)

def Invocation.outline (i : Invocation) : Outline :=
  .fields "Cli" [("hostname", .text (Quoted.quote i.hostname)),
    ("cert_file", .text (Quoted.quoteBytes i.certFile)),
    ("key_file", .text (Quoted.quoteBytes i.keyFile))]

end TlsSeed.CommandLine
