import BatteryWatch.Proofs.Answer
import BatteryWatch.Proofs.Reports

/-!
# Devices that echo

A device that sends every report back, cut or filled up with zeros to some size, answers a packet
with the packet itself, unless too little of it is left or it does not acknowledge itself.
`Packet.ofFrame_take` says what is read of a frame with padding that is cut at any place, and
`Answer.check_self` which packets acknowledge themselves; `Link.loopback_law` is the law of a round
trip with such a device.
-/

namespace BatteryWatch

/-! ## Frames that are cut -/

/-- Cutting a frame after its header leaves what it announces. -/
theorem Frame.announced_take {n : Nat} (hn : 4 ≤ n) (frame : List UInt8) :
    announced (frame.take n) = announced frame := by
  have hbyte {place : Nat} (hplace : place < n) :
      byte (frame.take n) place = byte frame place := by
    rw [byte, byte, List.getD_eq_getElem?_getD, List.getD_eq_getElem?_getD,
      List.getElem?_take_of_lt hplace]
  rw [announced, announced, hbyte (by omega), hbyte (by omega)]

namespace Packet

/-- What is read of a frame with padding that is cut: nothing without the whole frame, and else the
packet, wherever in the padding the cut is. -/
theorem ofFrame_take (p : Packet) {pad : List UInt8} {n : Nat}
    (hn : n ≤ (p.frame ++ pad).length) :
    ofFrame ((p.frame ++ pad).take n) =
      if n < 4 then .error (.tooShort 4 n)
      else if n < 4 + p.payload.length then .error (.tooShort (4 + p.payload.length) n)
      else .ok p := by
  have hlength : ((p.frame ++ pad).take n).length = n := List.length_take_of_le hn
  rw [ofFrame_eq, hlength]
  by_cases hheader : n < 4
  · rw [if_pos hheader, if_pos hheader]
  · rw [if_neg hheader, if_neg hheader, Frame.announced_take (Nat.le_of_not_lt hheader),
      announced_frame_append]
    by_cases hshort : n < 4 + p.payload.length
    · rw [if_pos hshort, if_pos hshort]
    · -- the whole frame is left, and some of the padding
      have hwhole : (p.frame ++ pad).take n = p.frame ++ pad.take (n - p.frame.length) := by
        rw [List.take_append, List.take_of_length_le]
        rw [length_frame]
        exact Nat.le_of_not_lt hshort
      rw [if_neg hshort, if_neg hshort, hwhole,
        ← eq_packet_of_ofFrame (p.ofFrame_frame_append _)]

end Packet

/-- A packet acknowledges itself unless it asks for another try or is the byte of refusal. -/
theorem Answer.check_self (p : Packet) :
    check p p =
      if p.command = 0x0002 then .error .retry
      else if p.payload = [0x00] then .error (.refused p.command)
      else .ok () := by
  unfold check
  rw [if_neg (not_not.mpr rfl)]
  rfl

/-- What a packet is answered with when its own frame with padding is read, cut at any place. -/
theorem Packet.verdict_take (p : Packet) {pad : List UInt8} {n : Nat}
    (hn : n ≤ (p.frame ++ pad).length) :
    p.verdict ((p.frame ++ pad).take n) =
      if n = 0 then .error .timeout
      else if n < 4 then .error (.malformed (.tooShort 4 n))
      else if n < 4 + p.payload.length then
        .error (.malformed (.tooShort (4 + p.payload.length) n))
      else if p.command = 0x0002 then .error .retry
      else if p.payload = [0x00] then .error (.refused p.command)
      else .ok p := by
  have hlength : ((p.frame ++ pad).take n).length = n := List.length_take_of_le hn
  rw [Link.verdict_eq, hlength, p.ofFrame_take hn]
  by_cases hempty : n = 0
  · rw [if_pos hempty, if_pos hempty]
  by_cases hheader : n < 4
  · rw [if_neg hempty, if_neg hempty, if_pos hheader, if_pos hheader]
  by_cases hshort : n < 4 + p.payload.length
  · rw [if_neg hempty, if_neg hempty, if_neg hheader, if_neg hheader, if_pos hshort, if_pos hshort]
  · -- the packet is judged as an answer to itself
    rw [if_neg hempty, if_neg hempty, if_neg hheader, if_neg hheader, if_neg hshort, if_neg hshort]
    change (Answer.check p p).map _ = _
    rw [Answer.check_self]
    split
    · rfl
    split
    · rfl
    · rfl

/-! ## Round trips with a device that echoes -/

namespace Report

/-- Without its number, a report has 64 bytes. -/
theorem length_tail_ofPacket (p : Packet) : (ofPacket p).tail.length = 64 := by
  rw [List.length_tail, ofPacket, length_resize]
  rfl

/-- What a device sends that echoes a report: as much of it as the size of the echo, or all. -/
theorem resizeTo_tail_ofPacket (p : Packet) {size : Option Nat} (hsize : size.getD 64 ≤ 64) :
    resizeTo size (ofPacket p).tail = (ofPacket p).tail.take (size.getD 64) := by
  have hlength := length_tail_ofPacket p
  cases size with
  | none => exact (List.take_of_length_le (Nat.le_of_eq hlength)).symm
  | some n =>
    have hzeros : n - 64 = 0 := Nat.sub_eq_zero_of_le hsize
    change resize n _ = List.take n _
    rw [resize, hlength, hzeros, List.replicate_zero, List.append_nil]

end Report

namespace Link

/-- The law of loopback: what a packet that fits is answered with by a device that sends the report
back without its number, whole or cut to any size.

Nothing comes of an empty echo, and an echo without the whole header or the whole payload is
malformed. Every other echo is the packet itself, however much of the padding is left: it asks for
another try if it has that command, it is a refusal if it is the byte of refusal, and otherwise it
is the answer. -/
theorem loopback_law (host : Host) (link : Link) (p : Packet) (size : Option Nat)
    {handle : Handle} (hheld : link.held = some handle) (hp : p.payload.length ≤ 60)
    (hecho : host.bus.reaction handle.id.place = .echo size) (hsize : size.getD 64 ≤ 64) :
    let n := size.getD 64
    (exchange p (host, link)).result =
      if n = 0 then .error .timeout
      else if n < 4 then .error (.malformed (.tooShort 4 n))
      else if n < 4 + p.payload.length then
        .error (.malformed (.tooShort (4 + p.payload.length) n))
      else if p.command = 0x0002 then .error .retry
      else if p.payload = [0x00] then .error (.refused p.command)
      else .ok p := by
  intro n
  obtain ⟨_, readTimeout⟩ := link
  obtain rfl := hheld
  have hfits : Report.Fits p := hp
  have hbehaviour : behaviour host handle.id p =
      .ok (.bytes ((Report.ofPacket p).tail.take n)) := by
    rw [behaviour, hecho, ← Report.resizeTo_tail_ofPacket p hsize]
    rfl
  have hread : ((Report.ofPacket p).tail.take n).take 64 = (Report.ofPacket p).tail.take n := by
    rw [List.take_take, Nat.min_eq_right hsize]
  have hpadded : (Report.ofPacket p).tail =
      p.frame ++ List.replicate (60 - p.payload.length) 0x00 := by
    rw [Report.ofPacket_of_fits hfits, List.tail_cons]
  have hwithin : n ≤ (Report.ofPacket p).tail.length := by
    rw [Report.length_tail_ofPacket]
    exact hsize
  rw [hpadded] at hwithin
  rw [← Traced.quiet_result, quiet_exchange_of_fits host handle readTimeout p hfits, hbehaviour]
  change p.verdict (((Report.ofPacket p).tail.take n).take 64) = _
  rw [hread, hpadded]
  exact p.verdict_take hwithin

/-- A payload that ends with zeros comes back whole from an echo that is cut right after it. -/
theorem exchange_of_cut_echo :
    (exchange ⟨0x0001, 3, [7, 0, 0], by decide⟩
      (⟨⟨none, [⟨.stock, none, fun _ => .absent, [.echo (some 7)]⟩]⟩, 1⟩,
        ⟨some ⟨⟨0, 0⟩, none⟩, Device.stockTimeout⟩)).result =
      .ok ⟨0x0001, 3, [7, 0, 0], by decide⟩ :=
  loopback_law _ ⟨some ⟨⟨0, 0⟩, none⟩, Device.stockTimeout⟩ ⟨0x0001, 3, [7, 0, 0], by decide⟩
    (some 7) rfl (by decide) rfl (by decide)

end Link

end BatteryWatch
