import BatteryWatch.Proofs.Answer
import BatteryWatch.Proofs.Operation
import BatteryWatch.Proofs.Reports
import BatteryWatch.Proofs.StatusLayout

/-!
# Reading the battery over the bus

From the request to the readings, through reports and frames: a status is read exactly if the device
held delivers a frame that carries a packet with the command of the request and the packed status at
the start of its payload (`Device.readBattery_eq_ok_iff`). `Device.reading_law` says this in terms
of the bytes that the device sends, in both directions.
-/

namespace BatteryWatch

/-! ## Answers with a status -/

namespace BatteryStatus

/-- The frame that answers a request with a status: the command, the size of the payload, the packed
status and whatever bytes the device adds to it. -/
def answerFrame (s : BatteryStatus) (tail : List UInt8) : List UInt8 :=
  [0x0C, 0x80, UInt8.ofNat (20 + tail.length), 0x00] ++ (s.bytes ++ tail)

/-- The frame of an answer has 24 bytes and those that the device adds. -/
theorem length_answerFrame (s : BatteryStatus) (tail : List UInt8) :
    (s.answerFrame tail).length = 24 + tail.length := by
  rw [answerFrame, List.length_append, List.length_append, length_bytes, ← Nat.add_assoc]
  rfl

/-- The answer to a request is read back from its frame, whatever follows. -/
theorem ofFrame_answerFrame (s : BatteryStatus) {tail : List UInt8} (htail : tail.length ≤ 40)
    (pad : List UInt8) :
    ∃ answer, Packet.ofFrame (s.answerFrame tail ++ pad) = .ok answer ∧
      answer.command = 0x800C ∧ answer.payload = s.bytes ++ tail := by
  have hlength : (s.bytes ++ tail).length = 20 + tail.length := by
    rw [List.length_append, length_bytes]
  have hsize : (UInt16.ofNat (20 + tail.length)).toNat = 20 + tail.length :=
    Narrow.toNat_ofNat_of_le (by omega)
  let answer : Packet :=
    ⟨0x800C, UInt16.ofNat (20 + tail.length), s.bytes ++ tail, hsize.trans hlength.symm⟩
  have hcode : LittleEndian.bytes16 0x800C = [0x0C, 0x80] := by decide
  have hsizes : LittleEndian.bytes16 answer.length =
      [UInt8.ofNat (20 + tail.length), 0x00] := by
    change LittleEndian.bytes16 (UInt16.ofNat (20 + tail.length)) = _
    rw [LittleEndian.bytes16, LittleEndian.low, LittleEndian.high, hsize,
      Nat.mod_eq_of_lt (by omega), Nat.div_eq_of_lt (by omega)]
    rfl
  have hframe : answer.frame = s.answerFrame tail := by
    rw [Packet.frame_eq, Packet.header, Packet.lengthBytes, hsizes]
    exact congrArg (· ++ _ ++ _) hcode
  exact ⟨answer, hframe ▸ answer.ofFrame_frame_append pad, rfl, rfl⟩

end BatteryStatus

/-! ## Readings -/

namespace Device

/-- A reading brings a status exactly if its exchange brings an answer with the status. -/
theorem statusOf_eq_ok_iff {answer : Except AnswerError Packet} {s : BatteryStatus} :
    statusOf answer = .ok s ↔
      ∃ p, answer = .ok p ∧ BatteryStatus.ofBytes p.payload = .ok s := by
  cases answer with
  | error e => simp [statusOf]
  | ok p =>
    change (BatteryStatus.ofBytes p.payload).mapError StatusError.malformed = .ok s ↔ _
    rw [mapError_eq_ok_iff]
    simp

variable (host : Host) (device : Device Link) (request : BatteryRequest)

/-- A status is read exactly if the device held delivers a frame that carries a packet with the
command of the request and the packed status at the start of its payload. -/
theorem readBattery_eq_ok_iff {s : BatteryStatus} :
    (readBattery Link.transport request (host, device)).result = .ok s ↔
      ∃ handle bytes answer, device.transport.held = some handle ∧
        Link.behaviour host handle.id request.packet = .ok (.bytes bytes) ∧
        Packet.ofFrame (bytes.take 64) = .ok answer ∧ answer.command = 0x800C ∧
        BatteryStatus.ofBytes answer.payload = .ok s := by
  rw [readBattery_apply]
  change statusOf (Link.exchange request.packet (host, device.transport)).result = .ok s ↔ _
  rw [statusOf_eq_ok_iff]
  simp only [Link.exchange_eq_ok_iff, Answer.check_eq_ok_iff]
  constructor
  · rintro ⟨answer, ⟨handle, bytes, hheld, -, hbehaviour, hframe, -, hcommand, -⟩, hread⟩
    exact ⟨handle, bytes, answer, hheld, hbehaviour, hframe, hcommand, hread⟩
  · rintro ⟨handle, bytes, answer, hheld, hbehaviour, hframe, hcommand, hread⟩
    refine ⟨answer, ⟨handle, bytes, hheld, request.fits_packet, hbehaviour, hframe, ?_, hcommand,
      ?_⟩, hread⟩
    · change (0x800C : UInt16) ≠ 0x0002
      decide
    · -- twenty bytes are never the one byte of refusal
      intro hrefusal
      have hlong := (BatteryStatus.exists_ofBytes_iff answer.payload).mp ⟨s, hread⟩
      rw [hrefusal] at hlong
      exact absurd hlong (by decide)

/-- Reading the battery is right from end to end, in both directions.

If a device is held and answers the request with a report that carries the command, the matching
size, the packed readings of a status and at most 40 bytes more, filled up with zeros or cut to any
size that leaves the answer whole, then exactly this status is read. Whenever a status is read, the
device held has delivered a frame with the command and a size of at least 20 whose first 20 payload
bytes are the packed readings of this status. -/
theorem reading_law :
    (∀ (s : BatteryStatus) (tail : List UInt8) (n : Nat) (handle : Handle),
      tail.length ≤ 40 → 24 + tail.length ≤ n → n ≤ 64 →
      device.transport.held = some handle →
      Link.behaviour host handle.id request.packet =
        .ok (.bytes (Report.resize n
          ([0x0C, 0x80, UInt8.ofNat (20 + tail.length), 0x00] ++ (s.bytes ++ tail)))) →
      (readBattery Link.transport request (host, device)).result = .ok s) ∧
    (∀ s, (readBattery Link.transport request (host, device)).result = .ok s →
      ∃ handle bytes, device.transport.held = some handle ∧
        Link.behaviour host handle.id request.packet = .ok (.bytes bytes) ∧
        Frame.command (bytes.take 64) = 0x800C ∧ 20 ≤ Frame.announced (bytes.take 64) ∧
        4 + Frame.announced (bytes.take 64) ≤ (bytes.take 64).length ∧
        ((bytes.take 64).drop 4).take 20 = s.bytes) := by
  refine ⟨?_, ?_⟩
  · intro s tail n handle htail hwhole hsize hheld hbehaviour
    obtain ⟨answer, hframe, hcommand, hpayload⟩ :=
      s.ofFrame_answerFrame htail (List.replicate (n - (24 + tail.length)) 0)
    have hread : BatteryStatus.ofBytes answer.payload = .ok s := by
      rw [hpayload]
      exact s.ofBytes_bytes_append tail
    have hread64 : (Report.resize n (s.answerFrame tail)).take 64 =
        Report.resize n (s.answerFrame tail) := by
      apply List.take_of_length_le
      rwa [Report.length_resize]
    have hfilled : Report.resize n (s.answerFrame tail) =
        s.answerFrame tail ++ List.replicate (n - (24 + tail.length)) 0 := by
      rw [Report.resize, s.length_answerFrame, List.take_of_length_le]
      rwa [s.length_answerFrame]
    rw [readBattery_eq_ok_iff]
    refine ⟨handle, _, answer, hheld, hbehaviour, ?_, hcommand, hread⟩
    change Packet.ofFrame ((Report.resize n (s.answerFrame tail)).take 64) = _
    rw [hread64, hfilled]
    exact hframe
  · intro s hs
    obtain ⟨handle, bytes, answer, hheld, hbehaviour, hframe, hcommand, hread⟩ :=
      (readBattery_eq_ok_iff host device request).mp hs
    obtain ⟨-, hlong⟩ := Packet.exists_ofFrame_iff.mp ⟨answer, hframe⟩
    have hsize := (BatteryStatus.exists_ofBytes_iff answer.payload).mp ⟨s, hread⟩
    rw [← answer.toNat_length, Packet.toNat_length_of_ofFrame hframe] at hsize
    obtain rfl := Packet.eq_packet_of_ofFrame hframe
    refine ⟨handle, bytes, hheld, hbehaviour, hcommand, hsize, hlong, ?_⟩
    rw [← BatteryStatus.bytes_of_ofBytes hread]
    change _ = ((List.drop 4 _).take (Frame.announced _)).take 20
    rw [List.take_take, Nat.min_eq_left hsize]

/-- A status with a negative current is read from a report that is cut right after the two bytes
that the device adds. -/
theorem readBattery_of_cut_report :
    (readBattery Link.transport .plain
      (⟨⟨none, [⟨.stock, none, fun _ => .absent,
          [.send (BatteryStatus.answerFrame ⟨1, 0, 2950, 0, 3700, -250, 3300, 7⟩ [0x00, 0xFF])
            (some 26)]⟩]⟩, 1⟩,
        stock ⟨some ⟨⟨0, 0⟩, none⟩, stockTimeout⟩)).result =
      .ok ⟨1, 0, 2950, 0, 3700, -250, 3300, 7⟩ :=
  (reading_law _ (stock ⟨some ⟨⟨0, 0⟩, none⟩, stockTimeout⟩) .plain).1
    ⟨1, 0, 2950, 0, 3700, -250, 3300, 7⟩ [0x00, 0xFF] 26 ⟨⟨0, 0⟩, none⟩ (by decide) (by decide)
    (by decide) rfl rfl

end Device

end BatteryWatch
