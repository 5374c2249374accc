import BatteryWatch.Device

/-!
# Watching the battery

Polls a device for its battery status and writes one line per answer. The first request is repeated
until a poll succeeds; later polls only read. A failed poll is logged and watching goes on. Watching
ends after the planned number of polls, or at once when a line cannot be written; with no number
planned nothing else ends it.
-/

namespace BatteryWatch.Monitor

/-- How to watch. -/
structure Plan where
  /-- The number of polls; zero means without end. -/
  count : Nat
  interval : Duration
  json : Bool
  /-- The request that is sent until a poll succeeds. -/
  firstRequest : BatteryRequest

/-- Where lines go: the time of day at each poll, and what is wrong with the output once it holds
some number of lines. -/
structure Output where
  clock : Nat → String
  fault : Nat → Option String

/-- What watching causes outside: events of the transport, lines written and waits. -/
inductive Event (κ : Type) where
  | link (e : κ)
  | line (text : String)
  | sleep (interval : Duration)

/-- How many polls there were and how many succeeded. -/
structure Progress where
  polls : Nat
  successes : Nat
deriving DecidableEq

/-- The state before the first poll. -/
def Progress.start : Progress := ⟨0, 0⟩

/-- The state after one more poll. -/
def Progress.count (p : Progress) (succeeded : Bool) : Progress :=
  ⟨p.polls + 1, p.successes + succeeded.toNat⟩

/-- Why watching ended badly. -/
inductive Failure where
  /-- A line could not be written. -/
  | output (text : String)
  /-- No poll succeeded. -/
  | noStatus (polls : Nat)
deriving DecidableEq

/-- The text of a failure. -/
def Failure.message : Failure → String
  | .output text => text
  | .noStatus polls => s!"No battery status received in {polls} attempt(s)"

variable {κ ω τ : Type}

/-- A step of watching. -/
abbrev Act (κ ω τ α : Type) : Type := Traced (Entry (Event κ)) (ω × Device τ) α

/-- The request of the next poll. -/
def Plan.request (plan : Plan) (p : Progress) : BatteryRequest :=
  if p.successes = 0 then plan.firstRequest else .plain

/-- Writes the line of a successful poll, which is the line after those of the polls before. -/
def writeLine (plan : Plan) (output : Output) (p : Progress) (status : BatteryStatus) :
    Act κ ω τ (Except Failure Unit) := do
  match output.fault p.successes with
  | some text => return .error (.output text)
  | none =>
    Traced.emit (.event (.line (status.line (output.clock p.polls) plan.json)))
    return .ok ()

/-- One poll. -/
def poll (T : Transport κ ω τ) (plan : Plan) (output : Output) (p : Progress) :
    Act κ ω τ (Except Failure Progress) := do
  let request := plan.request p
  log .debug .monitor (s!"Poll {p.polls + 1}: " ++ request.display)
  match ← Traced.relabel (Entry.map .link) (Device.readBattery T request) with
  | .ok status => return (← writeLine plan output p status).map fun _ => p.count true
  | .error e =>
    log .error .monitor ("Failed to read battery status: " ++ e.message)
    return .ok (p.count false)

/-- How watching ends after the last poll. -/
def Progress.verdict (p : Progress) : Except Failure Unit :=
  if p.successes = 0 then .error (.noStatus p.polls) else .ok ()

/-- Whether the planned number of polls is reached. -/
def Plan.isDone (plan : Plan) (p : Progress) : Bool := plan.count != 0 && plan.count ≤ p.polls

/-- Watches for at most `limit` more polls; no result means that watching has not ended by then. -/
def follow (T : Transport κ ω τ) (plan : Plan) (output : Output) :
    Nat → Progress → Act κ ω τ (Option (Except Failure Unit))
  | 0, _ => return none
  | limit + 1, p => do
    match ← poll T plan output p with
    | .error e => return some (.error e)
    | .ok p =>
      if plan.isDone p then return some p.verdict
      else
        Traced.emit (.event (.sleep plan.interval))
        follow T plan output limit p

/-- Watches as planned, or for `patience` polls if no number is planned. -/
def run (T : Transport κ ω τ) (plan : Plan) (output : Output) (patience : Nat) :
    Act κ ω τ (Option (Except Failure Unit)) :=
  follow T plan output (if plan.count = 0 then patience else plan.count) .start

end BatteryWatch.Monitor
