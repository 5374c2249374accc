import BatteryWatch.Packet

/-!
# The wire format of packets

The fields of a received frame are read at their places whether or not the frame is long enough to
have them: the command (`Frame.command`), the announced size of the payload (`Frame.announced`) and
the payload itself (`Frame.content`). `Packet.ofFrame_eq` says what parsing makes of a frame in
terms of these fields, for frames of every length.

Frames are written and read in the same format, in both directions: a packet is read back from its
frame, whatever follows it (`Packet.ofFrame_frame_append`), and a packet that was read has as its
frame exactly the bytes it was read from (`Packet.frame_of_ofFrame`). `Frame.parse?` reads a frame
piece by piece, each piece checked to lie within the frame; it never fails
(`Frame.parse?_eq_some`), so that reading never goes past the end of a frame.
-/

namespace BatteryWatch

/-! ## Fields of frames -/

namespace Frame

/-- The byte at a place of a frame, zero past its end. -/
def byte (frame : List UInt8) (place : Nat) : UInt8 := frame.getD place 0

/-- The command of a frame, low byte first. -/
def command (frame : List UInt8) : UInt16 := LittleEndian.word16 (byte frame 0) (byte frame 1)

/-- The size of the payload that a frame announces, low byte first. -/
def announced (frame : List UInt8) : Nat := (byte frame 2).toNat + 256 * (byte frame 3).toNat

/-- The payload of a frame: the announced number of bytes after the header. -/
def content (frame : List UInt8) : List UInt8 := (frame.drop 4).take (announced frame)

/-- No frame announces more than the length field can say. -/
theorem announced_le (frame : List UInt8) : announced frame ≤ 65535 := by
  have hlow := (byte frame 2).toNat_lt
  have hhigh := (byte frame 3).toNat_lt
  unfold announced
  omega

/-- The payload of a frame fits the length field. -/
theorem length_content_le (frame : List UInt8) : (content frame).length ≤ 65535 :=
  Nat.le_trans (List.length_take_le _ _) (announced_le frame)

/-- The packet that a frame carries. -/
def packet (frame : List UInt8) : Packet where
  command := command frame
  length := UInt16.ofNat (content frame).length
  payload := content frame
  toNat_length := Narrow.toNat_ofNat_of_le (length_content_le frame)

end Frame

namespace Packet

variable {command : UInt16} {payload : Option (List UInt8)} {p : Packet}

/-- A frame with at least a header consists of the four bytes of it and the rest. -/
theorem exists_header {frame : List UInt8} (h : 4 ≤ frame.length) :
    ∃ c₀ c₁ l₀ l₁ rest, frame = c₀ :: c₁ :: l₀ :: l₁ :: rest := by
  match frame, h with
  | c₀ :: c₁ :: l₀ :: l₁ :: rest, _ => exact ⟨c₀, c₁, l₀, l₁, rest, rfl⟩

/-- A frame is too short for a header, too short for the payload it announces, or carries a
packet. -/
theorem ofFrame_eq (frame : List UInt8) :
    ofFrame frame =
      if frame.length < 4 then .error (.tooShort 4 frame.length)
      else if frame.length < 4 + Frame.announced frame then
        .error (.tooShort (4 + Frame.announced frame) frame.length)
      else .ok (Frame.packet frame) := by
  by_cases hheader : frame.length < 4
  · rw [if_pos hheader]
    match frame, hheader with
    | [], _ => rfl
    | [_], _ => rfl
    | [_, _], _ => rfl
    | [_, _, _], _ => rfl
  · rw [if_neg hheader]
    obtain ⟨c₀, c₁, l₀, l₁, rest, rfl⟩ := exists_header (Nat.le_of_not_lt hheader)
    have hannounced : Frame.announced (c₀ :: c₁ :: l₀ :: l₁ :: rest) =
        (LittleEndian.word16 l₀ l₁).toNat := (LittleEndian.toNat_word16 l₀ l₁).symm
    have hlength : (c₀ :: c₁ :: l₀ :: l₁ :: rest).length = 4 + rest.length := by
      simp only [List.length_cons]
      omega
    by_cases hshort : rest.length < (LittleEndian.word16 l₀ l₁).toNat
    · rw [if_pos (by omega), hannounced]
      simp [ofFrame, hshort, headerSize]
    · rw [if_neg (by omega), ofFrame, dif_neg hshort]
      refine congrArg Except.ok (eq_of_payload_eq rfl ?_)
      change rest.take _ = rest.take (Frame.announced _)
      rw [hannounced]

/-! ## Length fields

How each of the ways to get a packet computes the length field. -/

/-- A packet whose payload may be cut off keeps as much of it as the length field can describe. -/
theorem truncating_value (command : UInt16) (payload : Option (List UInt8)) :
    (truncating command payload).value.command = command ∧
      (truncating command payload).value.payload = (payload.getD []).take 65535 := by
  refine ⟨rfl, ?_⟩
  change (payload.getD []).take (min (payload.getD []).length 65535) = _
  rw [Nat.min_comm, ← List.take_eq_take_min]

/-- The length field of a packet whose payload may be cut off is the size of what is kept, which is
small enough to be cast. -/
theorem toNat_length_truncating (command : UInt16) (payload : Option (List UInt8)) :
    (truncating command payload).value.length.toNat = min (payload.getD []).length 65535 :=
  Narrow.toNat_ofNat_of_le (Nat.min_le_right _ _)

/-- What is kept of a payload that may be cut off has the size that the length field says. -/
theorem length_payload_truncating (command : UInt16) (payload : Option (List UInt8)) :
    (truncating command payload).value.payload.length = min (payload.getD []).length 65535 := by
  rw [(truncating_value command payload).2, List.length_take, Nat.min_comm]

/-- A payload whose size is converted to a word makes a packet with this word as its length
field. -/
theorem ofPayload_of_some {length : UInt16}
    (h : Narrow.word? (payload.getD []).length = some length) :
    ofPayload command payload =
      .ok ⟨command, length, payload.getD [], Narrow.word?_eq_some_iff.mp h⟩ := by
  unfold ofPayload
  dsimp only
  split
  case h_1 length' hword =>
    obtain rfl : length' = length := Option.some.inj (hword.symm.trans h)
    rfl
  case h_2 hword =>
    rw [h] at hword
    cases hword

/-- A payload whose size is not converted is refused. -/
theorem ofPayload_of_none (h : Narrow.word? (payload.getD []).length = none) :
    ofPayload command payload = .error (.payloadTooLarge (payload.getD []).length) := by
  unfold ofPayload
  dsimp only
  split
  case h_1 length hword =>
    rw [h] at hword
    cases hword
  case h_2 => rfl

/-- A packet that is made of a payload has this payload, and its size as the length field. -/
theorem value_of_ofPayload (h : ofPayload command payload = .ok p) :
    p.command = command ∧ p.payload = payload.getD [] ∧
      p.length.toNat = (payload.getD []).length := by
  cases hword : Narrow.word? (payload.getD []).length with
  | none =>
    rw [ofPayload_of_none hword] at h
    cases h
  | some length =>
    rw [ofPayload_of_some hword] at h
    rw [← Except.ok.inj h]
    exact ⟨rfl, rfl, Narrow.word?_eq_some_iff.mp hword⟩

/-- The length field of a packet that was read is the one in the frame. -/
theorem length_of_ofFrame {frame : List UInt8} (h : ofFrame frame = .ok p) :
    p.length = LittleEndian.word16 (Frame.byte frame 2) (Frame.byte frame 3) := by
  unfold ofFrame at h
  split at h
  case h_1 c₀ c₁ l₀ l₁ rest =>
    by_cases hshort : rest.length < (LittleEndian.word16 l₀ l₁).toNat
    · rw [dif_pos hshort] at h
      cases h
    · rw [dif_neg hshort] at h
      rw [← Except.ok.inj h]
      rfl
  case h_2 => cases h

/-- The length field of a packet that was read is what its frame announces. -/
theorem toNat_length_of_ofFrame {frame : List UInt8} (h : ofFrame frame = .ok p) :
    p.length.toNat = Frame.announced frame := by
  rw [length_of_ofFrame h, LittleEndian.toNat_word16]
  rfl

/-! ## Writing and reading back -/

/-- The header of a packet holds its command and its length field, low byte first. -/
theorem header_eq (p : Packet) :
    p.header.map UInt8.toNat =
      [p.command.toNat % 256, p.command.toNat / 256,
        p.length.toNat % 256, p.length.toNat / 256] := by
  simp only [header, commandBytes, lengthBytes, LittleEndian.bytes16, List.cons_append,
    List.nil_append, List.map_cons, List.map_nil, LittleEndian.toNat_low, LittleEndian.toNat_high]

/-- The frame of a packet is its header and its payload. -/
theorem length_frame (p : Packet) : p.frame.length = 4 + p.payload.length := by
  rw [frame_eq, List.length_append]
  rfl

/-- What is sent of a packet starts with the four bytes of its header. -/
theorem frame_append (p : Packet) (pad : List UInt8) :
    p.frame ++ pad =
      LittleEndian.low p.command :: LittleEndian.high p.command ::
        LittleEndian.low p.length :: LittleEndian.high p.length :: (p.payload ++ pad) := rfl

/-- A packet is read back from its frame, whatever follows the frame. -/
theorem ofFrame_frame_append (p : Packet) (pad : List UInt8) :
    ofFrame (p.frame ++ pad) = .ok p := by
  have hlength : (LittleEndian.word16 (LittleEndian.low p.length)
      (LittleEndian.high p.length)).toNat = p.payload.length := by
    rw [LittleEndian.word16_low_high, p.toNat_length]
  have hthere : ¬ (p.payload ++ pad).length < (LittleEndian.word16 (LittleEndian.low p.length)
      (LittleEndian.high p.length)).toNat := by
    rw [hlength, List.length_append]
    omega
  rw [frame_append, ofFrame, dif_neg hthere]
  refine congrArg Except.ok (eq_of_payload_eq (LittleEndian.word16_low_high p.command) ?_)
  change (p.payload ++ pad).take _ = p.payload
  rw [hlength, List.take_left]

/-- The frame of a packet announces the size of its payload, whatever follows. -/
theorem announced_frame_append (p : Packet) (pad : List UInt8) :
    Frame.announced (p.frame ++ pad) = p.payload.length := by
  rw [← toNat_length_of_ofFrame (p.ofFrame_frame_append pad), toNat_length]

/-- Reading succeeds exactly on frames with a header and the payload it announces. -/
theorem exists_ofFrame_iff {frame : List UInt8} :
    (∃ p, ofFrame frame = .ok p) ↔
      4 ≤ frame.length ∧ 4 + Frame.announced frame ≤ frame.length := by
  rw [ofFrame_eq]
  by_cases hheader : frame.length < 4
  · rw [if_pos hheader]
    constructor
    · rintro ⟨p, hp⟩
      cases hp
    · intro h
      omega
  · rw [if_neg hheader]
    by_cases hshort : frame.length < 4 + Frame.announced frame
    · rw [if_pos hshort]
      constructor
      · rintro ⟨p, hp⟩
        cases hp
      · intro h
        omega
    · rw [if_neg hshort]
      exact ⟨fun _ => ⟨Nat.le_of_not_lt hheader, Nat.le_of_not_lt hshort⟩, fun _ => ⟨_, rfl⟩⟩

/-- A packet that was read is the one in the fields of the frame. -/
theorem eq_packet_of_ofFrame {frame : List UInt8} (h : ofFrame frame = .ok p) :
    p = Frame.packet frame := by
  obtain ⟨hheader, hlong⟩ := exists_ofFrame_iff.mp ⟨p, h⟩
  rw [ofFrame_eq, if_neg (Nat.not_lt.mpr hheader), if_neg (Nat.not_lt.mpr hlong)] at h
  exact (Except.ok.inj h).symm

/-- The payload of a packet that was read has as many bytes as its frame announces, since all that
was announced is there. -/
theorem length_payload_of_ofFrame {frame : List UInt8} (h : ofFrame frame = .ok p) :
    p.payload.length = Frame.announced frame := by
  obtain ⟨hheader, hlong⟩ := exists_ofFrame_iff.mp ⟨p, h⟩
  have hthere : Frame.announced frame ≤ (frame.drop 4).length := by
    rw [List.length_drop]
    omega
  rw [eq_packet_of_ofFrame h]
  exact List.length_take_of_le hthere

/-- The frame of a packet that was read is what it was read from, without padding. -/
theorem frame_of_ofFrame {frame : List UInt8} (h : ofFrame frame = .ok p) :
    p.frame = frame.take (4 + Frame.announced frame) := by
  have hlength := length_of_ofFrame h
  obtain ⟨hheader, -⟩ := exists_ofFrame_iff.mp ⟨p, h⟩
  obtain rfl := eq_packet_of_ofFrame h
  obtain ⟨c₀, c₁, l₀, l₁, rest, rfl⟩ := exists_header hheader
  rw [frame_eq, header, commandBytes, lengthBytes, hlength, Nat.add_comm]
  simp [Frame.packet, Frame.command, Frame.content, Frame.byte]

/-- Reading fails because there is no header or because there is less than the header announces. -/
theorem eq_tooShort_of_ofFrame {frame : List UInt8} {e : MessageError}
    (h : ofFrame frame = .error e) :
    e = .tooShort (if frame.length < 4 then 4 else 4 + Frame.announced frame) frame.length := by
  rw [ofFrame_eq] at h
  split at h
  · rw [if_pos ‹_›]
    exact (Except.error.inj h).symm
  · rw [if_neg ‹_›]
    split at h
    · exact (Except.error.inj h).symm
    · cases h

end Packet

/-! ## Reading within bounds -/

namespace Frame

/-- The next word of the rest of a frame and what is left after it, if there are two bytes. -/
def word? : List UInt8 → Option (UInt16 × List UInt8)
  | lo :: hi :: rest => some (LittleEndian.word16 lo hi, rest)
  | _ => none

/-- The next `n` bytes of the rest of a frame, if there are as many. -/
def bytes? (n : Nat) (rest : List UInt8) : Option { bytes : List UInt8 // bytes.length = n } :=
  if h : n ≤ rest.length then some ⟨rest.take n, List.length_take_of_le h⟩ else none

/-- The packet at the start of a frame or why there is none, read field by field; no answer if a
field is not within the frame. -/
def parse? (frame : List UInt8) : Option (Except MessageError Packet) :=
  if frame.length < Packet.headerSize then
    some (.error (.tooShort Packet.headerSize frame.length))
  else do
    let (command, rest) ← word? frame
    let (length, rest) ← word? rest
    if rest.length < length.toNat then
      return .error (.tooShort (Packet.headerSize + length.toNat) frame.length)
    else
      let payload ← bytes? length.toNat rest
      return .ok ⟨command, length, payload.val, payload.property.symm⟩

/-- Every field that reading a frame asks for is within the frame. -/
theorem parse?_eq_some (frame : List UInt8) : parse? frame = some (Packet.ofFrame frame) := by
  unfold parse?
  by_cases hheader : frame.length < Packet.headerSize
  · rw [if_pos hheader, Packet.ofFrame_eq]
    change _ = some (if frame.length < Packet.headerSize then _ else _)
    rw [if_pos hheader]
    rfl
  · rw [if_neg hheader]
    obtain ⟨c₀, c₁, l₀, l₁, rest, rfl⟩ := Packet.exists_header (Nat.le_of_not_lt hheader)
    by_cases hshort : rest.length < (LittleEndian.word16 l₀ l₁).toNat
    · simp [word?, Packet.ofFrame, hshort]
    · have hlong : (LittleEndian.word16 l₀ l₁).toNat ≤ rest.length := Nat.le_of_not_lt hshort
      simp only [word?, bytes?, Option.bind_eq_bind, Option.bind_some, if_neg hshort, dif_pos hlong,
        Option.pure_def, Packet.ofFrame, dif_neg hshort]

end Frame

/-- The wire format of packets, in both directions.

The length field of a packet is the size of its payload, whichever way the packet was made. A packet
whose payload may be cut off has in its length field the size of what is kept, cast to a word; a
packet whose payload is refused if it is too large has there the size of all of it, converted; and a
packet that was read has there what the third and fourth byte of its frame announce. What is sent of
a packet, its command, its length field and its payload, is the header followed by the payload, and
the header holds the command and the length field, low byte first. A packet is read back from its
frame, whatever follows. Reading succeeds exactly on byte strings with four bytes and the payload
that the third and fourth of them announce, and then gives the packet whose frame these bytes are;
otherwise it says how many bytes are needed and how many there are. No field is read past the
end. -/
theorem Packet.wireFormat :
    (∀ command payload,
      let p := (truncating command payload).value
      p.length.toNat = min (payload.getD []).length 65535 ∧
        p.payload = (payload.getD []).take 65535 ∧ p.length.toNat = p.payload.length) ∧
    (∀ command payload p, ofPayload command payload = .ok p →
      p.length.toNat = (payload.getD []).length ∧
        p.payload = payload.getD [] ∧ p.length.toNat = p.payload.length) ∧
    (∀ frame p, ofFrame frame = .ok p →
      p.length = LittleEndian.word16 (Frame.byte frame 2) (Frame.byte frame 3) ∧
        p.length.toNat = Frame.announced frame ∧ p.length.toNat = p.payload.length ∧
        p.frame = frame.take (4 + Frame.announced frame)) ∧
    (∀ p : Packet, p.length.toNat = p.payload.length ∧ p.frame = p.header ++ p.payload ∧
      p.header.map UInt8.toNat =
        [p.command.toNat % 256, p.command.toNat / 256,
          p.length.toNat % 256, p.length.toNat / 256]) ∧
    (∀ (p : Packet) pad, ofFrame (p.frame ++ pad) = .ok p) ∧
    (∀ frame, (∃ p, ofFrame frame = .ok p) ↔
      4 ≤ frame.length ∧ 4 + Frame.announced frame ≤ frame.length) ∧
    (∀ frame e, ofFrame frame = .error e →
      e = .tooShort (if frame.length < 4 then 4 else 4 + Frame.announced frame) frame.length) ∧
    (∀ frame, Frame.parse? frame = some (ofFrame frame)) := by
  refine ⟨?_, ?_, ?_, ?_, ofFrame_frame_append, ?_, ?_, Frame.parse?_eq_some⟩
  · intro command payload p
    have hlength : p.length.toNat = min (payload.getD []).length 65535 :=
      toNat_length_truncating command payload
    have hsize : p.payload.length = min (payload.getD []).length 65535 :=
      length_payload_truncating command payload
    exact ⟨hlength, (truncating_value command payload).2, hlength.trans hsize.symm⟩
  · intro command payload p h
    obtain ⟨-, hpayload, hlength⟩ := value_of_ofPayload h
    refine ⟨hlength, hpayload, ?_⟩
    rw [hlength, hpayload]
  · intro frame p h
    have hlength : p.length.toNat = Frame.announced frame := toNat_length_of_ofFrame h
    have hsize : p.payload.length = Frame.announced frame := length_payload_of_ofFrame h
    exact ⟨length_of_ofFrame h, hlength, hlength.trans hsize.symm, frame_of_ofFrame h⟩
  · intro p
    exact ⟨p.toNat_length, p.frame_eq, p.header_eq⟩
  · intro frame
    exact exists_ofFrame_iff
  · intro frame e h
    exact eq_tooShort_of_ofFrame h

end BatteryWatch
