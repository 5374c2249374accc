import BatteryWatch.Bytes
import BatteryWatch.Decimal
import BatteryWatch.Message
import BatteryWatch.Packet
import BatteryWatch.Trace

/-!
# Transports

How packets reach a device: what can go wrong on the way, the operations of a transport, the checks
of an answer, and a transport that follows a script.
-/

namespace BatteryWatch

/-! ## Link errors

What can go wrong between the program and the device: the link itself, establishing a connection,
and waiting for an answer. -/

/-- The two numbers by which a device is found. -/
structure DeviceId where
  vendor : UInt16
  product : UInt16
deriving DecidableEq

/-- The numbers of the stock device. -/
def DeviceId.stock : DeviceId := ⟨0x1209, 0x4321⟩

/-- The numbers of a device as messages show them. -/
def DeviceId.display (id : DeviceId) : String :=
  "VID " ++ Hex.word id.vendor ++ " PID " ++ Hex.word id.product

/-- What can go wrong on the link. -/
inductive LinkError where
  | notConnected
  | writeFailed (text : String)
  | readFailed (text : String)
  /-- The devices cannot be listed at all. -/
  | unavailable (text : String)
deriving DecidableEq

/-- The text of a link error. -/
def LinkError.message : LinkError → String
  | .notConnected => "Device not connected"
  | .writeFailed text => "Failed to write to device: " ++ text
  | .readFailed text => "Failed to read from device: " ++ text
  | .unavailable text => "HID API error: " ++ text

/-- Why no connection was established. -/
inductive ConnectError where
  | notFound (id : DeviceId)
  | openFailed (text : String)
  | handshakeFailed (text : String)
  | link (e : LinkError)
deriving DecidableEq

/-- The text of a connection error. -/
def ConnectError.message : ConnectError → String
  | .notFound id => "No device found with " ++ id.display
  | .openFailed text => "Failed to open device: " ++ text
  | .handshakeFailed text => "Handshake failed: " ++ text
  | .link e => e.message

/-- Why a packet was not answered as it should be. -/
inductive AnswerError where
  | timeout
  | refused (command : UInt16)
  | retry
  | unexpectedCommand (expected actual : UInt16)
  | malformed (e : MessageError)
  | link (e : LinkError)
deriving DecidableEq

/-- The text of an answer error. -/
def AnswerError.message : AnswerError → String
  | .timeout => "Timed out waiting for acknowledgement"
  | .refused command => "Device refused command " ++ Hex.word command
  | .retry => "Device asked to retry the command"
  | .unexpectedCommand expected actual =>
    "Unexpected answer: expected command " ++ Hex.word expected ++ ", got " ++ Hex.word actual
  | .malformed e => "Malformed answer: " ++ e.message
  | .link e => e.message

/-! ## Operations of a transport

A transport carries packets to a device. It is given by its operations on a pair of states: the
surroundings `ω`, which outlive any transport, and the state `τ` of the transport itself. Every
operation leaves a trace of log records and outside events `κ`. -/

/-- What to connect to, and how. -/
structure Dial where
  /-- Whether to describe the device in the log. -/
  verbose : Bool
  target : DeviceId
  readTimeout : Duration
  ping : Packet

/-- A way to carry packets to a device. -/
structure Transport (κ ω τ : Type) where
  /-- Opens the device and shakes hands with it. -/
  connect : Dial → Traced (Entry κ) (ω × τ) (Except ConnectError Unit)
  /-- Gives up the device. -/
  disconnect : Traced (Entry κ) (ω × τ) Unit
  /-- Sends a packet and waits for its answer. -/
  exchange : Packet → Traced (Entry κ) (ω × τ) (Except AnswerError Packet)
  /-- Ends the transport. -/
  discard : Traced (Entry κ) (ω × τ) Unit

/-! ## Checking answers

An answer acknowledges a request if it has the request's command and is not the single byte of
refusal; an answer echoes a ping if it has the ping's command and payload. -/

namespace Answer

/-- The payload of an answer that refuses a request. -/
def refusal : UInt8 := 0x00

/-- The payload of an answer that accepts a request without more. -/
def acceptance : UInt8 := 0x01

/-- Checks an answer against the request it belongs to. -/
def check (request answer : Packet) : Except AnswerError Unit :=
  if answer.command = Command.retry.code then .error .retry
  else if answer.command ≠ request.command then
    .error (.unexpectedCommand request.command answer.command)
  else if answer.payload = [refusal] then .error (.refused request.command)
  else .ok ()

/-- The text of a handshake whose answer is not the ping. -/
def mismatch : String := "ping answer does not match"

/-- The warning that an answer is not the ping. -/
def mismatchWarning (ping answer : Packet) : Log.Record :=
  ⟨.warn, .link, "Ping answer " ++ Hex.list answer.payload ++ " does not echo nonce " ++
    Hex.list ping.payload⟩

/-- Checks that an answer to a ping has the ping's command and payload. -/
def checkEcho (ping answer : Packet) : Logged (Except ConnectError Unit) :=
  if answer.command ≠ ping.command ∨ answer.payload ≠ ping.payload then
    ⟨.error (.handshakeFailed mismatch), [mismatchWarning ping answer]⟩
  else ⟨.ok (), []⟩

end Answer

/-! ## Scripted transports

A transport that answers from a script and records every call made to it. When the script of
connections is used up connecting succeeds, and when the script of answers is used up an exchange
times out. -/

/-- A transport's script: what is left of it, under a name. -/
structure Script where
  name : String
  answers : List (Except AnswerError Packet)
  connects : List (Except ConnectError Unit)

/-- A call made to a transport. -/
inductive Call where
  | connect (how : Dial)
  | disconnect
  | exchange (packet : Packet)

/-- A call and the name of the transport it was made to. -/
structure NamedCall where
  name : String
  call : Call

namespace Script

/-- Adds to the end of a script. -/
def extend (s : Script) (answers : List (Except AnswerError Packet))
    (connects : List (Except ConnectError Unit)) : Script :=
  { s with answers := s.answers ++ answers, connects := s.connects ++ connects }

/-- Records a call to the scripted transport. -/
def recordCall (call : Call) : Traced (Entry NamedCall) (Unit × Script) Unit := do
  let (_, script) ← Traced.get
  Traced.emit (.event ⟨script.name, call⟩)

/-- The transport that follows its script. -/
def transport : Transport NamedCall Unit Script where
  connect how := do
    recordCall (.connect how)
    let (_, script) ← Traced.get
    Traced.modify fun (world, script) => (world, { script with connects := script.connects.tail })
    return script.connects.headD (.ok ())
  disconnect := recordCall .disconnect
  exchange packet := do
    recordCall (.exchange packet)
    let (_, script) ← Traced.get
    Traced.modify fun (world, script) => (world, { script with answers := script.answers.tail })
    return script.answers.headD (.error .timeout)
  discard := pure ()

end Script

end BatteryWatch
