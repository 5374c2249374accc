import BatteryWatch.Bytes
import BatteryWatch.Packet
import BatteryWatch.Text.Quoted

/-!
# Messages

What is asked of the device and what it answers: the commands, the requests that carry them, pings,
battery status requests and the battery status.
-/

namespace BatteryWatch

/-! ## Commands -/

/-- A command the device understands. -/
inductive Command where
  | ping
  | retry
  | platformInfo
  | deviceStatus
  | batteryStatus
deriving DecidableEq

namespace Command

/-- The code of a command on the wire. -/
def code : Command → UInt16
  | .ping => 0x0001
  | .retry => 0x0002
  | .platformInfo => 0x0003
  | .deviceStatus => 0x0011
  | .batteryStatus => 0x800C

/-- All commands. -/
def all : List Command := [.ping, .retry, .platformInfo, .deviceStatus, .batteryStatus]

/-- The command with a code. -/
def ofCode (code : UInt16) : Except MessageError Command :=
  match all.find? (·.code == code) with
  | some command => .ok command
  | none => .error (.unknownCommand code)

/-- The name of a command. -/
def name : Command → String
  | .ping => "Ping"
  | .retry => "Retry"
  | .platformInfo => "Platform Info"
  | .deviceStatus => "Get Device Status"
  | .batteryStatus => "Debug Get Battery Status"

end Command

/-! ## Requests -/

/-- What a caller sends: a command with its payload, and the text that names it in the log. -/
structure Request where
  command : Command
  payload : List UInt8
  description : String

/-- The packet of a request; a payload that is too large is cut off. -/
def Request.packet (r : Request) : Logged Packet :=
  Packet.truncating r.command.code (some r.payload)

/-! ## Pings -/

/-- The four random bytes that a ping carries and the device sends back. -/
structure Nonce where
  b₀ : UInt8
  b₁ : UInt8
  b₂ : UInt8
  b₃ : UInt8
deriving DecidableEq

/-- The number of bytes of a nonce. -/
def Nonce.size : Nat := 4

/-- The bytes of a nonce in the order they are sent. -/
def Nonce.bytes (n : Nonce) : List UInt8 := [n.b₀, n.b₁, n.b₂, n.b₃]

/-- A ping with its nonce. -/
structure Ping where
  nonce : Nonce
deriving DecidableEq

namespace Ping

/-- The payload of a ping is its nonce. -/
def payload (p : Ping) : List UInt8 := p.nonce.bytes

/-- A ping for people: the nonce in hexadecimal. -/
def display (p : Ping) : String := s!"Ping \x7b nonce: {Hex.list p.payload} \x7d"

/-- A ping for developers: the nonce in decimal. -/
def debug (p : Ping) : String := s!"Ping \x7b nonce: {Hex.decimalList p.payload} \x7d"

/-- The request that sends a ping. -/
def request (p : Ping) : Request := ⟨.ping, p.payload, p.debug⟩

/-- The packet of a ping. -/
def packet (p : Ping) : Packet := p.request.packet.value

/-- A ping is never cut off. -/
theorem request_packet (p : Ping) : p.request.packet = ⟨p.packet, []⟩ := rfl

end Ping

/-! ## Battery status requests

A request for the battery status can drive the charger and the source of the screen's power. A
request is built from the plain one by adjustments (`BatteryRequest.adjust`); its payload is seven
bytes: four flags, the charge voltage with its low byte first, and a last flag. -/

/-- A request for the battery status and what it changes on the device. -/
structure BatteryRequest where
  startCharging : Bool := false
  stopCharging : Bool := false
  usbScreenPower : Bool := false
  batteryScreenPower : Bool := false
  /-- The forced charge voltage; zero leaves it untouched. -/
  chargeVoltage : UInt16 := 0
  stopForceCharge : Bool := false
deriving DecidableEq

namespace BatteryRequest

/-- The request that only reads the status. -/
def plain : BatteryRequest := {}

/-- A change to one part of a request. -/
inductive Adjustment where
  | startCharging (on : Bool)
  | stopCharging (on : Bool)
  | usbScreenPower (on : Bool)
  | batteryScreenPower (on : Bool)
  | chargeVoltage (voltage : UInt16)
  | stopForceCharge (on : Bool)
deriving DecidableEq

/-- The request with one part changed. -/
def adjust (r : BatteryRequest) : Adjustment → BatteryRequest
  | .startCharging on => { r with startCharging := on }
  | .stopCharging on => { r with stopCharging := on }
  | .usbScreenPower on => { r with usbScreenPower := on }
  | .batteryScreenPower on => { r with batteryScreenPower := on }
  | .chargeVoltage voltage => { r with chargeVoltage := voltage }
  | .stopForceCharge on => { r with stopForceCharge := on }

/-- The plain request after a list of adjustments, the first applied first. -/
def ofAdjustments (adjustments : List Adjustment) : BatteryRequest :=
  adjustments.foldl adjust plain

/-- A flag as a byte. -/
def flag (on : Bool) : UInt8 := if on then 1 else 0

/-- The payload of a request. -/
def payload (r : BatteryRequest) : List UInt8 :=
  [flag r.startCharging, flag r.stopCharging, flag r.usbScreenPower, flag r.batteryScreenPower,
    LittleEndian.low r.chargeVoltage, LittleEndian.high r.chargeVoltage, flag r.stopForceCharge]

/-- A request for people. -/
def display (r : BatteryRequest) : String :=
  s!"GetBatteryStatus \x7b start_charging: {r.startCharging}, stop_charging: {r.stopCharging}, " ++
  s!"usb_screen: {r.usbScreenPower}, battery_screen: {r.batteryScreenPower}, " ++
  s!"force_voltage: {r.chargeVoltage.toNat}, stop_force: {r.stopForceCharge} \x7d"

/-- A request for developers. -/
def debug (r : BatteryRequest) : String :=
  s!"GetBatteryStatus \x7b start_charging: {r.startCharging}, stop_charging: {r.stopCharging}, " ++
  s!"switch_to_usb_screen_power: {r.usbScreenPower}, " ++
  s!"switch_to_battery_screen_power: {r.batteryScreenPower}, " ++
  s!"force_charge_voltage: {r.chargeVoltage.toNat}, stop_force_charge: {r.stopForceCharge} \x7d"

/-- The request to send. -/
def request (r : BatteryRequest) : Request := ⟨.batteryStatus, r.payload, r.debug⟩

/-- The packet of a battery status request. -/
def packet (r : BatteryRequest) : Packet := r.request.packet.value

/-- A battery status request is never cut off. -/
theorem request_packet (r : BatteryRequest) : r.request.packet = ⟨r.packet, []⟩ := rfl

end BatteryRequest

/-! ## Battery status

The eight readings of a battery status answer. On the wire they are packed without gaps, every
number with its low byte first (`BatteryStatus.bytes`); `BatteryStatus.ofBytes` reads them back
and ignores what follows. -/

/-- The battery status reported by the device. -/
structure BatteryStatus where
  powerSource : UInt32
  platformCharging : UInt32
  mainAdc : UInt16
  chargeStatus : UInt16
  batteryVoltage : UInt16
  chargeCurrent : Int16
  stepdownVoltage : UInt16
  dacRegister : UInt16
deriving DecidableEq

namespace BatteryStatus

/-- The number of bytes of a packed status. -/
def size : Nat := 20

/-- Whether the device is charging. -/
def isCharging (s : BatteryStatus) : Bool := s.platformCharging != 0

/-- The packed status. -/
def bytes (s : BatteryStatus) : List UInt8 :=
  LittleEndian.bytes32 s.powerSource ++ LittleEndian.bytes32 s.platformCharging ++
  LittleEndian.bytes16 s.mainAdc ++ LittleEndian.bytes16 s.chargeStatus ++
  LittleEndian.bytes16 s.batteryVoltage ++ LittleEndian.bytes16 s.chargeCurrent.toUInt16 ++
  LittleEndian.bytes16 s.stepdownVoltage ++ LittleEndian.bytes16 s.dacRegister

/-- The status packed at the start of a payload. -/
def ofBytes (payload : List UInt8) : Except MessageError BatteryStatus :=
  match payload with
  | p₀ :: p₁ :: p₂ :: p₃ :: c₀ :: c₁ :: c₂ :: c₃ :: a₀ :: a₁ :: s₀ :: s₁ :: v₀ :: v₁ ::
      i₀ :: i₁ :: d₀ :: d₁ :: r₀ :: r₁ :: _ =>
    .ok {
      powerSource := LittleEndian.word32 p₀ p₁ p₂ p₃
      platformCharging := LittleEndian.word32 c₀ c₁ c₂ c₃
      mainAdc := LittleEndian.word16 a₀ a₁
      chargeStatus := LittleEndian.word16 s₀ s₁
      batteryVoltage := LittleEndian.word16 v₀ v₁
      chargeCurrent := (LittleEndian.word16 i₀ i₁).toInt16
      stepdownVoltage := LittleEndian.word16 d₀ d₁
      dacRegister := LittleEndian.word16 r₀ r₁ }
  | _ => .error (.tooShort size payload.length)

/-- A status for people. -/
def display (s : BatteryStatus) : String :=
  s!"power source: {s.powerSource.toNat}, charging: {s.isCharging}, " ++
  s!"main ADC: {s.mainAdc.toNat}, aux status: {s.chargeStatus.toNat}, " ++
  s!"aux voltage: {s.batteryVoltage.toNat}, aux current: {s.chargeCurrent.toInt}, " ++
  s!"stepdown: {s.stepdownVoltage.toNat}, DAC: {s.dacRegister.toNat}"

/-- The readings with their names, in order. -/
def readings (s : BatteryStatus) : List (String × Int) :=
  [("power_source", s.powerSource.toNat), ("platform_charging", s.platformCharging.toNat),
    ("main_adc_battery_value", s.mainAdc.toNat), ("aux_charge_status", s.chargeStatus.toNat),
    ("aux_battery_voltage", s.batteryVoltage.toNat),
    ("aux_charge_current", s.chargeCurrent.toInt),
    ("aux_stepdown_voltage", s.stepdownVoltage.toNat),
    ("aux_dac_register_val", s.dacRegister.toNat)]

/-- The readings as members of a JSON object. -/
def members (s : BatteryStatus) : List (String × Json.Value) :=
  s.readings.map fun reading => (reading.1, .integer reading.2)

/-- A status as a JSON object. -/
def json (s : BatteryStatus) : String := Json.object s.members

/-- A status for developers: every reading with its name. -/
def debug (s : BatteryStatus) : String :=
  "BatteryStatus \x7b " ++
  ", ".intercalate (s.readings.map fun reading => reading.1 ++ ": " ++ toString reading.2) ++
  " \x7d"

/-- A status printed after a clock time: a JSON object that starts with the time, or the time in
brackets and the status for people.

This always gives a line. Writing JSON can fail because a key is no string, because a value refuses
to be written or because the output does; here the keys are the names of the readings, the values
are integers and one string, for which `Json.Value.render` has a text in every case, and the line is
written to memory. -/
def line (time : String) (s : BatteryStatus) (json : Bool) : String :=
  if json then Json.object (("time", .text time) :: s.members) else s!"[{time}] " ++ s.display

end BatteryStatus

end BatteryWatch
