import BatteryWatch.Bus.Basic
import BatteryWatch.Text.Quoted
import BatteryWatch.Transport

/-!
# The link over the bus

The transport that carries each packet in one report of a device on the bus. It holds at most one
open device and the time to wait for an answer. Connecting opens the first device with the wanted
numbers, gives up the one held before, and keeps the new one only if it echoes the ping.
-/

namespace BatteryWatch

/-- The state of a link: the device it holds and the time to wait for an answer. -/
structure Link where
  held : Option Handle
  readTimeout : Duration

namespace Link

/-- A link that holds no device. -/
def fresh (readTimeout : Duration) : Link := ⟨none, readTimeout⟩

/-- Whether the link holds a device. -/
def isConnected (link : Link) : Bool := link.held.isSome

/-- A step of the link. -/
abbrev Act (α : Type) : Type := Traced (Entry BusEvent) (Host × Link) α

/-- Notes something that happened on the bus. -/
def note (e : BusEvent) : Act Unit := Traced.emit (.event e)

/-- Exchanges the host's state. -/
def setHost (host : Host) : Act Unit := Traced.modify fun (_, link) => (host, link)

/-- Exchanges the device held. -/
def setHeld (held : Option Handle) : Act Unit :=
  Traced.modify fun (host, link) => (host, { link with held })

/-- The device held. -/
def heldDevice : Act (Option Handle) := do return (← Traced.get).2.held

/-- How a listed device is shown in the log. -/
def listing (id : DeviceId) : String :=
  s!"HidDeviceInfo \x7b vendor_id: {id.vendor.toNat}, product_id: {id.product.toNat} \x7d"

/-- Opens the first device with the given numbers. -/
def openFirst (target : DeviceId) : Act (Except ConnectError (Handle × BusDevice)) := do
  note .listed
  let (host, _) ← Traced.get
  match host.bus.listError with
  | some text => return .error (.link (.unavailable text))
  | none =>
    match host.bus.find? target with
    | none => return .error (.notFound target)
    | some (device, place) =>
      log .debug .link ("Found device: " ++ listing device.id)
      match device.openError with
      | some text =>
        note (.openFailed place)
        return .error (.openFailed text)
      | none =>
        let id : HandleId := ⟨host.opened, place⟩
        note (.opened id)
        setHost { host with opened := host.opened + 1 }
        return .ok (⟨id, none⟩, device)

/-- Reads a descriptive string of an open device. -/
def readDescriptor (handle : Handle) (device : BusDevice) (kind : DescriptorKind) :
    Act (Option String) := do
  note (.described handle.id kind)
  return (device.descriptor kind).string?

/-- Describes an open device in the log. -/
def describe (handle : Handle) (device : BusDevice) : Act Unit := do
  let manufacturer ← readDescriptor handle device .manufacturer
  let product ← readDescriptor handle device .product
  let serial ← readDescriptor handle device .serial
  log .info .link <|
    "Connected to device: manufacturer " ++ Text.quotedOption manufacturer ++
    ", product " ++ Text.quotedOption product ++ ", serial " ++ Text.quotedOption serial

/-- Closes the device held, if there is one, without a word. -/
def release : Act Unit := do
  match ← heldDevice with
  | none => return ()
  | some handle =>
    note (.closed handle.id)
    setHeld none

/-- Holds a newly opened device in place of the one held before. -/
def hold (handle : Handle) (readTimeout : Duration) : Act Unit := do
  release
  Traced.modify fun (host, _) => (host, ⟨some handle, readTimeout⟩)

/-- Gives up the device held, if there is one. -/
def disconnect : Act Unit := do
  match ← heldDevice with
  | none => return ()
  | some _ =>
    release
    log .info .link "Device disconnected"

/-- The time to wait for an answer in milliseconds, the longest there is if a signed double word has
no room for them. -/
def timeoutMillis (d : Duration) : Int32 := (Narrow.int32? d.millis).getD Int32.maxValue

/-- The time to wait is that of the duration or the longest there is, whichever is less; it does not
wrap to a negative one. -/
theorem toInt_timeoutMillis (d : Duration) :
    (timeoutMillis d).toInt = (min d.millis 2147483647 : Nat) := by
  unfold timeoutMillis
  rcases Narrow.int32?_cases d.millis with ⟨i, hsome, hvalue, hfits⟩ | ⟨hnone, habove⟩
  · rw [hsome, Option.getD_some, hvalue, Nat.min_eq_left hfits]
  · rw [hnone, Option.getD_none, Nat.min_eq_right (Nat.le_of_lt habove)]
    rfl

/-- Writes to the device held, which then has its reaction ready. -/
def write (handle : Handle) (bytes : List UInt8) : Act (Except String Unit) := do
  note (.wrote handle.id bytes)
  let (host, _) ← Traced.get
  setHost { host with bus := host.bus.advance handle.id.place }
  match (host.bus.reaction handle.id.place).delivery bytes with
  | .error text =>
    setHeld (some { handle with pending := none })
    return .error text
  | .ok delivery =>
    setHeld (some { handle with pending := some delivery })
    return .ok ()

/-- Reads what the device held has ready, at most `size` bytes of it. -/
def read (handle : Handle) (size : Nat) (timeout : Int32) :
    Act (Except String (List UInt8)) := do
  note (.read handle.id size timeout)
  setHeld (some { handle with pending := none })
  match handle.pending with
  | none => return .ok []
  | some (.failure text) => return .error text
  | some (.bytes bytes) => return .ok (bytes.take size)

/-- The text of a write that was not even tried. -/
def doesNotFit (p : Packet) : String :=
  s!"payload of {p.payload.length} bytes does not fit a report, " ++
  s!"at most {Report.capacity} allowed"

/-- Writes a packet as one report. -/
def sendReport (p : Packet) : Act (Except LinkError Unit) := do
  match ← heldDevice with
  | none => return .error .notConnected
  | some handle =>
    if Report.Fits p then
      let report := Report.ofPacket p
      log .debug .link ("HID TX: " ++ Hex.list report)
      return (← write handle report).mapError .writeFailed
    else return .error (.writeFailed (doesNotFit p))

/-- Reads one report, none if the device sends nothing in time. -/
def readReport : Act (Except AnswerError (Option Packet)) := do
  match ← heldDevice with
  | none => return .error (.link .notConnected)
  | some handle =>
    let (_, link) ← Traced.get
    match ← read handle Report.size (timeoutMillis link.readTimeout) with
    | .error text => return .error (.link (.readFailed text))
    | .ok [] => return .ok none
    | .ok bytes =>
      log .debug .link ("HID RX: " ++ Hex.list bytes)
      return (Packet.ofFrame bytes).map some |>.mapError .malformed

/-- Sends a packet and waits for its answer. -/
def exchange (p : Packet) : Act (Except AnswerError Packet) := do
  match ← sendReport p with
  | .error e => return .error (.link e)
  | .ok () =>
    match ← readReport with
    | .error e => return .error e
    | .ok none => return .error .timeout
    | .ok (some answer) =>
      match Answer.check p answer with
      | .error e =>
        log .warn .link ("Command " ++ Hex.word p.command ++ " not acknowledged: " ++ e.message)
        return .error e
      | .ok () => return .ok answer

/-- Greets the device held with a ping and gives it up unless it echoes the ping. -/
def shakeHands (ping : Packet) : Act (Except ConnectError Unit) := do
  match ← exchange ping with
  | .error e =>
    disconnect
    return .error (.handshakeFailed e.message)
  | .ok answer =>
    match ← (Answer.checkEcho ping answer).replay with
    | .error e =>
      disconnect
      return .error e
    | .ok () =>
      log .info .link "Device opened successfully"
      return .ok ()

/-- Opens a device and shakes hands with it. -/
def connect (how : Dial) : Act (Except ConnectError Unit) := do
  log .info .link ("Looking for device " ++ how.target.display ++ "...")
  match ← openFirst how.target with
  | .error e => return .error e
  | .ok (handle, device) =>
    if how.verbose then describe handle device
    hold handle how.readTimeout
    shakeHands how.ping

/-- The transport over the bus. -/
def transport : Transport BusEvent Host Link where
  connect := connect
  disconnect := disconnect
  exchange := exchange
  discard := release

end Link

end BatteryWatch
