import BatteryWatch.Bus.Link
import BatteryWatch.CommandLine.Options
import BatteryWatch.CommandLine.Parse
import BatteryWatch.Log.Filter
import BatteryWatch.Monitor
import BatteryWatch.Settings
import BatteryWatch.Text.Terminal

/-!
# The program

A whole run of the program: the command line and the settings are read, the device is connected to,
its battery is watched and the connection is given up. A run is a function of its surroundings; it
ends with an exit code and leaves a trace of bus events, output lines and error lines.
-/

namespace BatteryWatch.Program

/-- Everything a run depends on. -/
structure Surroundings where
  arguments : List String
  /-- The content of a file, or why it cannot be read. -/
  read : String → Except String ByteArray
  /-- The log filter of the environment, if it has one. -/
  filter : Option String
  /-- The random bytes of the handshake. -/
  nonce : Nonce
  bus : Bus
  /-- The time of day at each poll. -/
  clock : Nat → String
  /-- The time at which log lines are written. -/
  stamp : String
  /-- For how many polls a run without end is followed. -/
  patience : Nat

/-- What a run causes. -/
inductive Event where
  | bus (e : BusEvent)
  /-- A line on the standard output. -/
  | out (line : String)
  /-- A text on the standard error output, with the ends of its lines. -/
  | err (text : String)
  | sleep (interval : Duration)

/-- How a run ended, if it did, and what it caused. -/
structure Run where
  exitCode : Option Nat
  trace : List Event

/-- Why a run failed after the command line was understood. -/
inductive Failure where
  | settings (e : Settings.LoadError)
  | interval (e : Settings.IntervalError)
  | connect (e : ConnectError)
  | monitor (e : Monitor.Failure)

/-- The text of a failure. -/
def Failure.message : Failure → String
  | .settings e => e.message
  | .interval e => e.message
  | .connect e => "Failed to connect to Mooltipass: " ++ e.message
  | .monitor e => e.message

/-- The filter text for log records: the environment's, or else one that depends on the command
line and the settings. -/
def filterText (s : Surroundings) (options : CommandLine.Options) (settings : Settings) : String :=
  s.filter.getD (if options.verbose then "debug" else settings.logLevel)

/-- The time between polls: the command line's, or else that of the settings. -/
def chosenInterval (options : CommandLine.Options) (settings : Settings) :
    Except Settings.IntervalError Duration :=
  match options.interval with
  | some seconds => Settings.interval "interval" seconds
  | none => settings.pollDuration

/-- How to watch. -/
def plan (options : CommandLine.Options) (interval : Duration) : Monitor.Plan where
  count := options.count.toNat
  interval := interval
  json := options.json
  firstRequest := options.firstRequest

/-- A step on the device of the run. -/
abbrev Act (α : Type) : Type := Monitor.Act BusEvent Host Link α

/-- Connects to the device, watches its battery and gives up the connection. -/
def session (s : Surroundings) (options : CommandLine.Options) (interval : Duration) :
    Act (Option (Except Failure Unit)) := do
  let dialled ← Traced.relabel (Entry.map .link)
    (Device.connect Link.transport options.verbose s.nonce)
  match dialled with
  | .error e => return some (.error (.connect e))
  | .ok () =>
    log .info .program "Connected"
    let output : Monitor.Output := ⟨s.clock, fun _ => none⟩
    match ← Monitor.run Link.transport (plan options interval) output s.patience with
    | none => return none
    | some result =>
      Traced.relabel (Entry.map .link) (Device.disconnect Link.transport)
      return some (result.mapError .monitor)

/-- The device of the run before it is connected to. -/
def device (settings : Settings) : Device Link :=
  ⟨Link.fresh Device.stockTimeout, settings.device, settings.readTimeout⟩

/-- A text whose lines after the first are indented. -/
def indented (text : String) : String :=
  String.ofList (text.toList.flatMap fun c => if c == '\n' then "\n    ".toList else [c])

/-- A log record as it is written, with the end of its line unless a terminal takes it as part of a
command. -/
def logLine (stamp : String) (r : Log.Record) : String :=
  let level := r.level.name
  let pad := String.ofList (List.replicate (5 - level.length) ' ')
  Text.visible ("[" ++ stamp ++ " " ++ level ++ pad ++ "] " ++ indented r.text ++ "\n")

/-- What an entry of the session causes, given the filter for log records. -/
def render (filter : Log.Filter) (stamp : String) :
    Entry (Monitor.Event BusEvent) → List Event
  | .record r => if filter.allows r then [.err (logLine stamp r)] else []
  | .event (.link e) => [.bus e]
  | .event (.line text) => [.out text]
  | .event (.sleep interval) => [.sleep interval]

/-- A run that fails after it has caused something. -/
def failed (trace : List Event) (e : Failure) : Run :=
  ⟨some 1, trace ++ [.err ("Error: " ++ e.message ++ "\n")]⟩

/-- The run of a session, after the warnings about the filter. -/
def watch (s : Surroundings) (options : CommandLine.Options) (settings : Settings)
    (interval : Duration) (filter : Log.Filter) (warnings : List Event) : Run :=
  let o := session s options interval (Host.ofBus s.bus, device settings)
  let trace := warnings ++ o.trace.flatMap (render filter s.stamp)
  match o.result with
  | none => ⟨none, trace⟩
  | some (.ok ()) => ⟨some 0, trace⟩
  | some (.error e) => failed trace e

/-- The run for options that are understood. -/
def runOptions (s : Surroundings) (options : CommandLine.Options) : Run :=
  match Settings.load s.read options.configFile with
  | .error e => failed [] (.settings e)
  | .ok settings =>
    let (filter, warnings) := Log.Filter.ofText (filterText s options settings)
    let warnings := warnings.map fun text => .err (text ++ "\n")
    match chosenInterval options settings with
    | .error e => failed warnings (.interval e)
    | .ok interval => watch s options settings interval filter warnings

/-- A whole run. -/
def run (s : Surroundings) : Run :=
  match CommandLine.parse s.arguments with
  | .error .help => ⟨some 0, CommandLine.helpLines.map .out⟩
  | .error .version => ⟨some 0, [.out CommandLine.versionText]⟩
  | .error (.error e) => ⟨some 2, [.err ("error: " ++ e.message ++ "\n")]⟩
  | .ok options => runOptions s options

end BatteryWatch.Program
