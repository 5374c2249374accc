import BatteryWatch.Bus.Link
import BatteryWatch.Device
import BatteryWatch.Transport

/-!
# Sessions

The operations a user of a device can perform, as data, and lists of steps that are taken one after
the other: on a device that is reached over the bus, and on one whose transport follows a script.
-/

namespace BatteryWatch

/-! ## Operations and steps

The operations a user of a device can perform, as data (`Operation.perform`). A session is a list of
steps, each of which works on the state that the step before it left; `Session.run` gives for every
step its answer, its trace and the state after it, and `Session.finalState` the state at the end. -/

/-- An operation on a device. -/
inductive Operation where
  | connect (verbose : Bool) (nonce : Nonce)
  | disconnect
  /-- Asks for the battery status with the given changes and keeps the raw answer. -/
  | queryBattery (startCharging stopCharging usbScreenPower batteryScreenPower : Bool)
    (chargeVoltage : UInt16) (stopForceCharge : Bool)
  /-- Asks for the battery status and reads the answer. -/
  | readBattery (request : BatteryRequest)
  | sendPing (nonce : Nonce)
  /-- Sends a payload of the caller's under a command given by its code. -/
  | sendCustom (code : UInt16) (payload : List UInt8)
  /-- Reads the text in an answer. -/
  | readText (answer : Packet)
  /-- Asks for the numbers of the device to look for. -/
  | identify
  /-- Uses the transport directly to send a packet. -/
  | exchange (packet : Packet)
  /-- Uses the transport directly to connect. -/
  | dial (how : Dial)

/-- What an operation answers. -/
inductive Reply where
  | done
  | connection (result : Except ConnectError Unit)
  | answer (result : Except AnswerError Packet)
  | status (result : Except StatusError BatteryStatus)
  | unknownCommand (e : MessageError)
  | text (s : String)
  | identity (id : DeviceId)

namespace Operation

variable {κ ω τ : Type}

/-- A request with a payload of the caller's. -/
def customRequest (command : Command) (payload : List UInt8) : Request :=
  ⟨command, payload, "Custom"⟩

/-- Performs an operation on a device. -/
def perform (T : Transport κ ω τ) : Operation → Traced (Entry κ) (ω × Device τ) Reply
  | .connect verbose nonce => .connection <$> Device.connect T verbose nonce
  | .disconnect => (fun _ => .done) <$> Device.disconnect T
  | .queryBattery start stop usb battery voltage stopForce =>
    .answer <$> Device.queryBattery T start stop usb battery voltage stopForce
  | .readBattery request => .status <$> Device.readBattery T request
  | .sendPing nonce => .answer <$> Device.send T (Ping.request ⟨nonce⟩)
  | .sendCustom code payload =>
    match Command.ofCode code with
    | .error e => return .unknownCommand e
    | .ok command => .answer <$> Device.send T (customRequest command payload)
  | .readText answer => return .text answer.text
  | .identify => return .identity (← Traced.get).2.target
  | .exchange packet => .answer <$> Device.onTransport (T.exchange packet)
  | .dial how => .connection <$> Device.onTransport (T.connect how)

end Operation

namespace Session

variable {ι ε σ α : Type}

/-- Takes steps one after the other: what every step leaves behind. -/
def run (step : ι → Traced ε σ α) : List ι → σ → List (Outcome ε σ α)
  | [], _ => []
  | i :: rest, s => step i s :: run step rest (step i s).state

/-- The state that a list of steps leaves. -/
def finalState (step : ι → Traced ε σ α) (steps : List ι) (s : σ) : σ :=
  steps.foldl (fun s i => (step i s).state) s

/-- A session that goes on works on the state that its first part leaves. -/
theorem run_append (step : ι → Traced ε σ α) (first rest : List ι) (s : σ) :
    run step (first ++ rest) s = run step first s ++ run step rest (finalState step first s) := by
  induction first generalizing s with
  | nil => rfl
  | cons i first ih => simp [run, finalState, ih]

/-- Every step leaves something behind. -/
@[simp] theorem length_run (step : ι → Traced ε σ α) (steps : List ι) (s : σ) :
    (run step steps s).length = steps.length := by
  induction steps generalizing s with
  | nil => rfl
  | cons i steps ih => simp [run, ih]

end Session

/-! ## Sessions on the bus

A session on a device that is reached over the bus. Besides the operations on the device its steps
exchange the link for a fresh one and exchange what is plugged in. The state holds the bus, the
number of handles opened so far and the device; at the end the link is given up (`finish`). -/

/-- A step of a session on the bus. -/
inductive BusStep where
  | operate (o : Operation)
  /-- Exchanges the link for one that holds no device. -/
  | replace
  /-- Exchanges what is plugged in; a handle that is open stays open and keeps its place. -/
  | plug (bus : Bus)

namespace BusStep

/-- The state of a session on the bus. -/
abbrev State : Type := Host × Device Link

/-- The state in which nothing has been opened on a bus. -/
def initial (bus : Bus) (target : DeviceId) (readTimeout : Duration) : State :=
  (.ofBus bus, ⟨.fresh Device.stockTimeout, target, readTimeout⟩)

/-- Takes a step. -/
def perform : BusStep → Traced (Entry BusEvent) State Reply
  | .operate o => o.perform Link.transport
  | .replace =>
    (fun _ => .done) <$> Device.replaceTransport Link.transport (Link.fresh Device.stockTimeout)
  | .plug bus => do
    Traced.modify fun (host, device) => ({ host with bus }, device)
    return .done

/-- Gives up the link at the end of a session. -/
def finish : Traced (Entry BusEvent) State Unit := Device.onTransport Link.transport.discard

/-- Everything that happens on the bus in a session and at its end. -/
def trace (steps : List BusStep) (s : State) : List (Entry BusEvent) :=
  (Session.run perform steps s).flatMap (·.trace) ++
    (finish (Session.finalState perform steps s)).trace

end BusStep

/-! ## Scripted sessions

A session on a device whose transport follows a script. Besides the operations on the device its
steps exchange the script, extend it and look at what is left of it. -/

/-- A step of a scripted session. -/
inductive ScriptStep where
  | operate (o : Operation)
  /-- Exchanges the transport for one with another script. -/
  | replace (script : Script)
  | extend (answers : List (Except AnswerError Packet)) (connects : List (Except ConnectError Unit))
  /-- Looks at the script and changes nothing. -/
  | inspect

namespace ScriptStep

/-- The state of a scripted session. -/
abbrev State : Type := Unit × Device Script

/-- Takes a step. -/
def perform : ScriptStep → Traced (Entry NamedCall) State Reply
  | .operate o => o.perform Script.transport
  | .replace script => (fun _ => .done) <$> Device.replaceTransport Script.transport script
  | .extend answers connects => do
    Device.onTransport (Traced.modify fun (world, s) => (world, s.extend answers connects))
    return .done
  | .inspect => return .done

end ScriptStep

end BatteryWatch
