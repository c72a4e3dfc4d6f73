import TlsSeed.Program
import TlsSeed.Store.Shelf

/-! # The command

Runs the program against the files of the machine and a store in memory, which starts empty and
lasts as long as the run.
-/

namespace TlsSeed.Main

open Text

/-- The failure that the operating system reported. Its number may come with either sign. -/
def faultOf : IO.Error → File.Fault
  | .alreadyExists _ n _ | .otherError n _ | .resourceBusy n _ | .resourceVanished n _
  | .unsupportedOperation n _ | .hardwareFault n _ | .unsatisfiedConstraints n _
  | .illegalOperation n _ | .protocolError n _ | .timeExpired n _ | .interrupted _ n _
  | .noFileOrDirectory _ n _ | .invalidArgument _ n _ | .permissionDenied _ n _
  | .resourceExhausted _ n _ | .inappropriateType _ n _ | .noSuchThing _ n _ =>
    .system n.toInt32.toInt.natAbs
  | .unexpectedEof => .bare .unexpectedEof
  | .userError reason => .custom .other reason

def readFile (path : File.Path) : IO (Except File.Fault Bytes) := do
  if path.contains 0 then return .error .zeroInPath
  try
    return .ok (← IO.FS.readBinFile (Utf8.lossy path)).toList
  catch e => return .error (faultOf e)

/-- Runs a script, showing events as they come. -/
def perform {α : Type} (env : Environment) : Script α → Store.Shelf → IO α
  | .done value, _ => return value
  | .read path next, store => do perform env (next (← readFile path)) store
  | .put client p next, store => do
    (p.notices client).forM fun event => IO.print (Program.shown env event)
    let (answer, store) := store.put client p
    perform env (next answer) store
  | .log event rest, store => do
    IO.print (Program.shown env event)
    perform env rest store

/-- The variables of the environment that the program looks at. -/
def environment : IO Environment := do
  let names := [Settings.endpointVariable, Log.Filter.settingName]
  let pairs ← names.mapM fun name => return (name, (← IO.getEnv name).map Utf8.encode)
  return fun name => (pairs.lookup name).join

def run (args : List String) : IO UInt32 := do
  let argv := (CommandLine.ownName :: args).map Utf8.encode
  let env ← environment
  let outcome ← perform env (Program.script argv env) {}
  IO.print (Program.stdoutOf argv outcome)
  IO.eprint (Program.stderrOf argv outcome)
  return outcome.exitCode.toUInt32

end TlsSeed.Main

def main (args : List String) : IO UInt32 :=
  TlsSeed.Main.run args
