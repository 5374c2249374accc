import BatteryWatch.Bytes
import BatteryWatch.Text.Quoted
import BatteryWatch.Trace

/-!
# Packets

A packet is one message on the wire: a command, a length field and a payload, whose size is what the
length field says. Packets are made of a payload (`Packet.ofPayload`, `Packet.truncating`) or read
from a frame (`Packet.ofFrame`); each of them computes the length field in its own way, and with it
gives the proof that it is the right one. A frame is the command, the length field and the payload
(`Packet.frame`); bytes after the announced length are padding. A packet travels in one report of
fixed size (`Report.ofPacket`).
-/

namespace BatteryWatch

/-! ## Message errors -/

/-- Why bytes do not form a message or a message cannot be formed. -/
inductive MessageError where
  /-- Fewer bytes than the message needs. -/
  | tooShort (expected actual : Nat)
  /-- A command code that stands for no command. -/
  | unknownCommand (code : UInt16)
  /-- A payload whose size does not fit the length field. -/
  | payloadTooLarge (size : Nat)
deriving DecidableEq

/-- The text of a message error. -/
def MessageError.message : MessageError → String
  | .tooShort expected actual =>
    s!"Invalid buffer length: expected at least {expected}, got {actual}"
  | .unknownCommand code => "Unknown command: " ++ Hex.word code
  | .payloadTooLarge size => s!"Payload of {size} bytes does not fit the 16-bit length field"

/-! ## Packets -/

/-- A single message. -/
structure Packet where
  command : UInt16
  /-- The length field as it was computed or read. -/
  length : UInt16
  payload : List UInt8
  /-- The length field is the size of the payload. -/
  toNat_length : length.toNat = payload.length
deriving DecidableEq

namespace Packet

attribute [simp] toNat_length

/-- Packets with the same command and payload are the same, their length fields included. -/
theorem eq_of_payload_eq {p q : Packet} (hcommand : p.command = q.command)
    (hpayload : p.payload = q.payload) : p = q := by
  have hlength : p.length = q.length := by
    apply UInt16.toNat_inj.mp
    rw [p.toNat_length, q.toNat_length, hpayload]
  cases p
  cases q
  cases hcommand
  cases hlength
  cases hpayload
  rfl

/-- The largest payload the length field can describe. -/
def maxPayload : Nat := 65535

/-- The size of the command and length fields. -/
def headerSize : Nat := 4

/-- Where the data region of a received frame starts. -/
def dataOffset : Nat := headerSize

/-! ### Making packets -/

/-- A packet with the given payload, none standing for an empty one, unless the size of the payload
is too large for the length field. -/
def ofPayload (command : UInt16) (payload : Option (List UInt8)) : Except MessageError Packet :=
  let bytes := payload.getD []
  match h : Narrow.word? bytes.length with
  | some length => .ok ⟨command, length, bytes, Narrow.word?_eq_some_iff.mp h⟩
  | none => .error (.payloadTooLarge bytes.length)

/-- How much of a payload is kept if it may be cut off. -/
def keptSize (bytes : List UInt8) : Nat := min bytes.length maxPayload

/-- The kept part of a payload has as many bytes as its size says when it is cast to a word: no
more are kept than a word can count. -/
theorem toNat_ofNat_keptSize (bytes : List UInt8) :
    (UInt16.ofNat (keptSize bytes)).toNat = (bytes.take (keptSize bytes)).length := by
  have hword : keptSize bytes ≤ 65535 := Nat.min_le_right _ _
  have hthere : keptSize bytes ≤ bytes.length := Nat.min_le_left _ _
  rw [Narrow.toNat_ofNat_of_le hword, List.length_take_of_le hthere]

/-- The warning that a payload was cut off. -/
def truncationWarning (command : UInt16) (size kept : Nat) : Log.Record :=
  ⟨.warn, .packet,
    s!"Payload of {size} bytes truncated to {kept} for command " ++ Hex.word command⟩

/-- A packet with the given payload, none standing for an empty one, of which only as much is kept
as the length field can describe; cutting off is logged. -/
def truncating (command : UInt16) (payload : Option (List UInt8)) : Logged Packet :=
  let bytes := payload.getD []
  let kept := keptSize bytes
  { value := ⟨command, UInt16.ofNat kept, bytes.take kept, toNat_ofNat_keptSize bytes⟩
    records :=
      if kept < bytes.length then [truncationWarning command bytes.length kept] else [] }

/-! ### Frames -/

/-- The command field as it appears on the wire. -/
def commandBytes (p : Packet) : List UInt8 := LittleEndian.bytes16 p.command

/-- The length field as it appears on the wire. -/
def lengthBytes (p : Packet) : List UInt8 := LittleEndian.bytes16 p.length

/-- The command and length fields as they appear on the wire. -/
def header (p : Packet) : List UInt8 := p.commandBytes ++ p.lengthBytes

/-- The packet as sent, without padding: the command, the length field and the payload are written
to a buffer one after the other. -/
def frame (p : Packet) : List UInt8 :=
  let buffer := LittleEndian.put16 [] p.command
  let buffer := LittleEndian.put16 buffer p.length
  buffer ++ p.payload

/-- What is sent of a packet is its header and its payload. -/
theorem frame_eq (p : Packet) : p.frame = p.header ++ p.payload := by
  rw [frame, header, commandBytes, lengthBytes, LittleEndian.put16_eq, LittleEndian.put16_eq,
    List.nil_append]

/-- The packet at the start of a received frame. -/
def ofFrame (frame : List UInt8) : Except MessageError Packet :=
  match frame with
  | c₀ :: c₁ :: l₀ :: l₁ :: rest =>
    let length := LittleEndian.word16 l₀ l₁
    if h : rest.length < length.toNat then
      .error (.tooShort (headerSize + length.toNat) frame.length)
    else
      .ok ⟨LittleEndian.word16 c₀ c₁, length, rest.take length.toNat,
        (List.length_take_of_le (Nat.le_of_not_lt h)).symm⟩
  | _ => .error (.tooShort headerSize frame.length)

/-! ### Packets as text -/

/-- The fields between the braces, with the command and the payload written as given. -/
def description (command payload : String) (p : Packet) : String :=
  s!"Packet \x7b command: {command}, length: {p.length.toNat}, payload: {payload} \x7d"

/-- A packet for people: command and payload in hexadecimal. -/
def display (p : Packet) : String := p.description (Hex.word p.command) (Hex.list p.payload)

/-- A packet for developers: every field in decimal. -/
def debug (p : Packet) : String :=
  p.description (toString p.command.toNat) (Hex.decimalList p.payload)

/-- A packet as a JSON object. -/
def json (p : Packet) : String :=
  Json.object [("command", .integer p.command.toNat), ("length", .integer p.length.toNat),
    ("payload", .naturals (p.payload.map UInt8.toNat))]

end Packet

/-! ## Reports

A packet fits a report if its payload has at most `Report.capacity` bytes; the report is preceded by
its number, and the rest of it is zeros. -/

namespace Report

/-- The size of a report, its number not counted. -/
def size : Nat := 64

/-- The number of the report that carries every message. -/
def number : UInt8 := 0x00

/-- The largest payload that fits a report. -/
def capacity : Nat := size - Packet.headerSize

/-- Whether a packet fits a report. -/
def Fits (p : Packet) : Prop := p.payload.length ≤ capacity

instance (p : Packet) : Decidable (Fits p) := inferInstanceAs (Decidable (_ ≤ _))

/-- Bytes cut or filled up with zeros to a size. -/
def resize (n : Nat) (bytes : List UInt8) : List UInt8 :=
  bytes.take n ++ List.replicate (n - bytes.length) 0

/-- The bytes written for a packet: the report's number, the frame and zeros. -/
def ofPacket (p : Packet) : List UInt8 := resize (size + 1) (number :: p.frame)

end Report

end BatteryWatch
