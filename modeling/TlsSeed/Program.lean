import TlsSeed.CommandLine.Message
import TlsSeed.Log.Filter
import TlsSeed.Seed

/-! # The program

The whole program as a script: it reads its command line, takes its settings from the environment,
seeds one record, and logs why that failed if it did. The log filter decides which events are
shown and nothing else.
-/

namespace TlsSeed.Program

open CommandLine Text

/-- How a run of the program ends. -/
inductive Outcome where
  | halted (h : Halt)
  | seeded (result : Except SeedError Store.PutOutput)

def Outcome.exitCode : Outcome → Nat
  | halted h => h.exitCode
  | seeded (.ok _) => 0
  | seeded (.error _) => 1

def logTarget : String := "cert_seed"

def table (s : Settings) : Table where
  client := s.client
  name := s.tableName

/-- Seeds what the command line asks for. -/
def work (s : Settings) (i : Invocation) : Script (Except SeedError Store.PutOutput) := do
  let result ← seed (table s) i.hostname i.certFile i.keyFile
  match result with
  | .ok _ => return result
  | .error e =>
    Script.report { level := .error, target := logTarget, text := e.failureLine }
    return result

/-- The program for a command line and an environment. -/
def script (argv : List Bytes) (env : Environment) : Script Outcome :=
  match parse argv with
  | .error h => return .halted h
  | .ok i => return .seeded (← work (.ofEnvironment env) i)

def filter (env : Environment) : Log.Filter :=
  .ofValue (env.text? Log.Filter.settingName)

/-- What is shown of an event. -/
def shown (env : Environment) (e : Log.Event) : String :=
  ((filter env).line? e).getD ""

/-- What the program prints when it does not run: help and version go to the standard output. -/
def stdoutOf (argv : List Bytes) : Outcome → String
  | .halted h => if h.isError then "" else h.text (programName argv)
  | .seeded _ => ""

/-- Errors of usage go to the standard error. -/
def stderrOf (argv : List Bytes) : Outcome → String
  | .halted h => if h.isError then h.text (programName argv) else ""
  | .seeded _ => ""

/-- What a caller sees of a run of the program. -/
structure Seen where
  exitCode : Nat
  stdout : String
  stderr : String
  deriving DecidableEq, Repr

/-- What a caller sees of a finished run. The log goes to the standard output. -/
def seen {σ : Type} (argv : List Bytes) (env : Environment) (r : Run σ Outcome) : Seen where
  exitCode := r.value.exitCode
  stdout := String.join (r.reports.map (shown env)) ++ stdoutOf argv r.value
  stderr := stderrOf argv r.value

end TlsSeed.Program
