import BatteryWatch.Program
import Std.Time

/-!
# The executable

Gathers what a run depends on, lets `Program.run` decide everything, and carries out what the run
causes. No devices are reached from here: the bus of the executable is empty.
-/

namespace BatteryWatch.Executable

/-- Why the system refused to read a file, as the system words it. -/
def refusal : IO.Error → String
  | .noFileOrDirectory .. => "No such file or directory (os error 2)"
  | .permissionDenied .. => "Permission denied (os error 13)"
  | .inappropriateType .. => "Is a directory (os error 21)"
  | e => toString e

/-- The content of a file, or why it cannot be read. -/
def readFile (path : String) : IO (Except String ByteArray) := do
  try
    return .ok (← IO.FS.readBinFile path)
  catch e => return .error (refusal e)

/-- The content of the configuration file that the arguments name, if they name one. -/
def readConfig (arguments : List String) : IO (Except String ByteArray) :=
  match CommandLine.parse arguments with
  | .ok { configFile := some path, .. } => readFile path
  | _ => return .ok ByteArray.empty

/-- Four random bytes. -/
def drawNonce : IO Nonce := do
  let bytes ← IO.getRandomBytes 4
  return ⟨bytes.get! 0, bytes.get! 1, bytes.get! 2, bytes.get! 3⟩

/-- Everything that a run with some arguments depends on. -/
def surroundings (arguments : List String) : IO Program.Surroundings := do
  let content ← readConfig arguments
  let filter ← IO.getEnv "RUST_LOG"
  let nonce ← drawNonce
  let clock := (← Std.Time.PlainTime.now).format "HH:mm:ss"
  let universal := Std.Time.DateTime.ofTimestampWithZone (← Std.Time.Timestamp.now) .UTC
  let stamp := universal.format "uuuu-MM-dd'T'HH:mm:ss'Z'"
  return {
    arguments
    read := fun _ => content
    filter
    nonce
    bus := .empty
    clock := fun _ => clock
    stamp
    patience := 0 }

/-- Carries out what a run causes; what happens on the bus needs nothing more. -/
def carryOut : Program.Event → IO Unit
  | .bus _ => return ()
  | .out line => IO.println line
  | .err text => IO.eprint text
  | .sleep interval => IO.sleep (UInt32.ofNat (min interval.millis 4294967295))

end BatteryWatch.Executable

/-- Runs the program with the arguments of the command line. -/
def main (arguments : List String) : IO UInt32 := do
  let run := BatteryWatch.Program.run (← BatteryWatch.Executable.surroundings arguments)
  run.trace.forM BatteryWatch.Executable.carryOut
  return UInt32.ofNat (run.exitCode.getD 0)
