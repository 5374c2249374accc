import BatteryWatch.Bytes
import BatteryWatch.Message
import BatteryWatch.Transport

/-!
# Devices

A device is a transport together with the numbers of the device to look for and the time to wait
for an answer. Its operations log what is sent and leave everything else to the transport.
-/

namespace BatteryWatch

/-- A device reached through a transport in state `τ`. -/
structure Device (τ : Type) where
  transport : τ
  target : DeviceId
  readTimeout : Duration

/-- Why a battery status could not be had. -/
inductive StatusError where
  | answer (e : AnswerError)
  | malformed (e : MessageError)
deriving DecidableEq

/-- The text of a status error. -/
def StatusError.message : StatusError → String
  | .answer e => e.message
  | .malformed e => e.message

namespace Device

variable {κ ω τ α : Type}

/-- The time to wait for an answer unless another is set, in milliseconds. -/
def stockTimeoutMillis : Nat := 4000

/-- The time to wait for an answer unless another is set. -/
def stockTimeout : Duration := .ofMillis stockTimeoutMillis

/-- A stock device on a transport. -/
def stock (transport : τ) : Device τ := ⟨transport, .stock, stockTimeout⟩

/-- The device with other numbers to look for. -/
def withTarget (device : Device τ) (target : DeviceId) : Device τ := { device with target }

/-- The device with another time to wait for an answer. -/
def withReadTimeout (device : Device τ) (readTimeout : Duration) : Device τ :=
  { device with readTimeout }

/-- A step of the transport as a step of the device. -/
def onTransport {ε : Type} (x : Traced ε (ω × τ) α) : Traced ε (ω × Device τ) α :=
  fun (world, device) =>
    let o := x (world, device.transport)
    ⟨o.result, (o.state.1, { device with transport := o.state.2 }), o.trace⟩

/-- Connects to the device, greeting it with the given nonce. -/
def connect (T : Transport κ ω τ) (verbose : Bool) (nonce : Nonce) :
    Traced (Entry κ) (ω × Device τ) (Except ConnectError Unit) := do
  let ping := Ping.packet ⟨nonce⟩
  log .debug .device ("Connecting with " ++ ping.display)
  let (_, device) ← Traced.get
  onTransport (T.connect ⟨verbose, device.target, device.readTimeout, ping⟩)

/-- Gives up the connection. -/
def disconnect (T : Transport κ ω τ) : Traced (Entry κ) (ω × Device τ) Unit :=
  onTransport T.disconnect

/-- Sends a request and waits for its answer. -/
def send (T : Transport κ ω τ) (request : Request) :
    Traced (Entry κ) (ω × Device τ) (Except AnswerError Packet) := do
  let packet ← request.packet.replay
  log .debug .device ("Sending " ++ request.description)
  onTransport (T.exchange packet)

/-- Asks for the battery status with the given changes and gives the raw answer. -/
def queryBattery (T : Transport κ ω τ)
    (startCharging stopCharging usbScreenPower batteryScreenPower : Bool) (chargeVoltage : UInt16)
    (stopForceCharge : Bool) : Traced (Entry κ) (ω × Device τ) (Except AnswerError Packet) :=
  let request := BatteryRequest.plain
    |>.adjust (.startCharging startCharging)
    |>.adjust (.stopCharging stopCharging)
    |>.adjust (.usbScreenPower usbScreenPower)
    |>.adjust (.batteryScreenPower batteryScreenPower)
    |>.adjust (.chargeVoltage chargeVoltage)
    |>.adjust (.stopForceCharge stopForceCharge)
  send T request.request

/-- Asks for the battery status and reads the answer. -/
def readBattery (T : Transport κ ω τ) (request : BatteryRequest) :
    Traced (Entry κ) (ω × Device τ) (Except StatusError BatteryStatus) := do
  match ← send T request.request with
  | .error e => return .error (.answer e)
  | .ok answer => return (BatteryStatus.ofBytes answer.payload).mapError .malformed

/-- Exchanges the transport for another one. -/
def replaceTransport (T : Transport κ ω τ) (transport : τ) :
    Traced (Entry κ) (ω × Device τ) Unit := do
  onTransport T.discard
  Traced.modify fun (world, device) => (world, { device with transport })

end Device

/-- The text in the data region of a received frame. -/
def frameText (frame : List UInt8) : String := Latin1.decode (frame.drop Packet.dataOffset)

/-- The text in the data region of an answer. -/
def Packet.text (p : Packet) : String := frameText p.frame

end BatteryWatch
