import BatteryWatch.Packet
import BatteryWatch.Transport

/-!
# The bus

What is plugged in and how it behaves: a list of devices, each with its numbers, its descriptive
strings and a script of reactions, one for every report written to it. Devices are opened through
handles; a handle keeps what its device has ready to be read.
-/

namespace BatteryWatch

/-- How a device reacts to a report written to it. -/
inductive Reaction where
  /-- The write fails. -/
  | refuseWrite (text : String)
  /-- The write succeeds and the read after it fails. -/
  | failRead (text : String)
  /-- The device sends these bytes, cut or filled up with zeros to a size if one is given. -/
  | send (bytes : List UInt8) (size : Option Nat)
  /-- The device sends the report back without its number. -/
  | echo (size : Option Nat)
  /-- The device sends nothing. -/
  | silent
deriving DecidableEq

/-- What a read of a handle gives next. -/
inductive Delivery where
  | failure (text : String)
  | bytes (bytes : List UInt8)
deriving DecidableEq

/-- Bytes cut or filled up to a size, if there is one. -/
def resizeTo (size : Option Nat) (bytes : List UInt8) : List UInt8 :=
  match size with
  | none => bytes
  | some n => Report.resize n bytes

/-- What a reaction to some written bytes leaves to be read, or the text of the failed write. -/
def Reaction.delivery (written : List UInt8) : Reaction → Except String Delivery
  | .refuseWrite text => .error text
  | .failRead text => .ok (.failure text)
  | .send bytes size => .ok (.bytes (resizeTo size bytes))
  | .echo size => .ok (.bytes (resizeTo size written.tail))
  | .silent => .ok (.bytes [])

/-- A descriptive string of a device. -/
inductive Descriptor where
  | text (s : String)
  | absent
  | unreadable (text : String)
deriving DecidableEq

/-- The string of a descriptor, if it can be read and there is one. -/
def Descriptor.string? : Descriptor → Option String
  | .text s => some s
  | .absent => none
  | .unreadable _ => none

/-- Which descriptive string of a device is meant. -/
inductive DescriptorKind where
  | manufacturer
  | product
  | serial
deriving DecidableEq

/-- The name of a kind of descriptive string. -/
def DescriptorKind.name : DescriptorKind → String
  | .manufacturer => "manufacturer"
  | .product => "product"
  | .serial => "serial"

/-- A device that is plugged in. -/
structure BusDevice where
  id : DeviceId
  /-- Why the device cannot be opened, if it cannot. -/
  openError : Option String
  descriptor : DescriptorKind → Descriptor
  script : List Reaction

/-- Everything that is plugged in, or why it cannot be listed. -/
structure Bus where
  listError : Option String
  devices : List BusDevice

/-- A bus without devices. -/
def Bus.empty : Bus := ⟨none, []⟩

/-- The first device with the given numbers and its place in the list. -/
def Bus.find? (bus : Bus) (id : DeviceId) : Option (BusDevice × Nat) :=
  bus.devices.zipIdx.find? fun entry => entry.1.id == id

/-- The next reaction of the device at a place in the list. -/
def Bus.reaction (bus : Bus) (place : Nat) : Reaction :=
  ((bus.devices[place]?).bind (·.script.head?)).getD .silent

/-- The bus after the device at a place in the list has reacted once. -/
def Bus.advance (bus : Bus) (place : Nat) : Bus :=
  { bus with devices := bus.devices.modify place fun d => { d with script := d.script.tail } }

/-- Which opening of which device a handle stands for. -/
structure HandleId where
  serial : Nat
  place : Nat
deriving DecidableEq

/-- An open device. -/
structure Handle where
  id : HandleId
  pending : Option Delivery
deriving DecidableEq

/-- What happens on the bus. -/
inductive BusEvent where
  | listed
  | opened (handle : HandleId)
  | openFailed (place : Nat)
  | described (handle : HandleId) (kind : DescriptorKind)
  | wrote (handle : HandleId) (bytes : List UInt8)
  /-- A read of at most `size` bytes that waits for `timeout` milliseconds. -/
  | read (handle : HandleId) (size : Nat) (timeout : Int32)
  | closed (handle : HandleId)
deriving DecidableEq

/-- The bus and the number of handles opened on it so far. -/
structure Host where
  bus : Bus
  opened : Nat

/-- A host on which nothing has been opened yet. -/
def Host.ofBus (bus : Bus) : Host := ⟨bus, 0⟩

end BatteryWatch
