import BatteryWatch.Proofs.Reports
import BatteryWatch.Proofs.StoredText

/-!
# Texts of answers

An answer can be read as a text from its packet, whose payload ends where the length field says, or
from the frame it came in, whose data region goes on to the end. Both readings end at the first zero
byte, so they differ only by what is read of the padding (`Packet.frameText_eq_append`).
`Packet.text_law` says when that is nothing.
-/

namespace BatteryWatch

namespace Latin1

/-- What is read of bytes is known from the bytes before the first zero, and conversely. -/
theorem decode_eq_decode_iff {first second : List UInt8} :
    decode first = decode second ↔ first.takeWhile (· != 0) = second.takeWhile (· != 0) := by
  constructor
  · intro h
    have hwritten := congrArg encode h
    rw [encode_decode, encode_decode] at hwritten
    exact List.append_cancel_right hwritten
  · intro h
    rw [decode, decode, h]

/-- More bytes are read as more text, or as the same text. -/
theorem decode_prefix_append (bytes more : List UInt8) :
    (decode bytes).toList <+: (decode (bytes ++ more)).toList := by
  rw [toList_decode, toList_decode, List.takeWhile_append]
  apply List.IsPrefix.map
  split
  · rename_i hwhole
    rw [(List.takeWhile_prefix _).eq_of_length hwhole]
    exact List.prefix_append _ _
  · exact List.prefix_rfl

/-- More bytes are read as the same text exactly if the text ends within the first of them or no
text follows them. -/
theorem decode_eq_decode_append_iff {bytes more : List UInt8} :
    decode bytes = decode (bytes ++ more) ↔ 0 ∈ bytes ∨ more = [] ∨ more.head? = some 0 := by
  rw [decode_eq_decode_iff, List.takeWhile_append]
  by_cases hzero : 0 ∈ bytes
  · have hends : (bytes.takeWhile (· != 0)).length ≠ bytes.length := by
      intro hwhole
      rw [← (List.takeWhile_prefix _).eq_of_length hwhole] at hzero
      exact absurd (List.mem_takeWhile_imp hzero) (by decide)
    rw [if_neg hends]
    exact ⟨fun _ => .inl hzero, fun _ => rfl⟩
  · have hwhole : bytes.takeWhile (· != 0) = bytes := by
      refine List.takeWhile_eq_self_iff.mpr fun b hb => bne_iff_ne.mpr ?_
      rintro rfl
      exact hzero hb
    rw [hwhole, if_pos rfl, List.self_eq_append_right]
    cases more with
    | nil => simp
    | cons b more => simp [hzero, List.takeWhile_cons]

end Latin1

namespace Packet

/-- A frame that is read is the frame of the packet with padding. -/
theorem eq_frame_append_of_ofFrame {frame : List UInt8} {p : Packet} (h : ofFrame frame = .ok p) :
    frame = p.frame ++ frame.drop (4 + p.payload.length) := by
  rw [frame_of_ofFrame h, ← toNat_length_of_ofFrame h, toNat_length, List.take_append_drop]

/-- The text of a frame is that of its packet's payload and the padding together. -/
theorem frameText_frame_append (p : Packet) (pad : List UInt8) :
    frameText (p.frame ++ pad) = Latin1.decode (p.payload ++ pad) := rfl

/-- The two readings of an answer.

The text of a packet is a first part of the text of the frame that it is read from. They are equal
exactly if the payload contains a zero byte, or nothing follows the payload in the frame, or a zero
byte does. So they agree on every frame with zeros for padding, and on every report. -/
theorem text_law :
    (∀ frame p, ofFrame frame = .ok p →
      p.text.toList <+: (frameText frame).toList ∧
      (p.text = frameText frame ↔
        0 ∈ p.payload ∨ frame.length = 4 + p.payload.length ∨
          frame[4 + p.payload.length]? = some 0)) ∧
    (∀ (p : Packet) (zeros : Nat),
      ofFrame (p.frame ++ List.replicate zeros 0) = .ok p ∧
      p.text = frameText (p.frame ++ List.replicate zeros 0)) ∧
    (∀ p, Report.Fits p → p.text = frameText (Report.ofPacket p).tail) := by
  have hzeros (p : Packet) (zeros : Nat) :
      p.text = frameText (p.frame ++ List.replicate zeros 0) := by
    rw [text_eq_decode, frameText_frame_append, Latin1.decode_eq_decode_append_iff]
    cases zeros with
    | zero => exact .inr (.inl rfl)
    | succ zeros => exact .inr (.inr rfl)
  refine ⟨?_, ?_, ?_⟩
  · intro frame p h
    have hframe := eq_frame_append_of_ofFrame h
    obtain ⟨-, hlong⟩ := exists_ofFrame_iff.mp ⟨p, h⟩
    rw [← toNat_length_of_ofFrame h, toNat_length] at hlong
    have htext : frameText frame =
        Latin1.decode (p.payload ++ frame.drop (4 + p.payload.length)) := by
      rw [← frameText_frame_append, ← hframe]
    have hend : frame.drop (4 + p.payload.length) = [] ↔
        frame.length = 4 + p.payload.length := by
      rw [List.drop_eq_nil_iff]
      omega
    rw [text_eq_decode, htext, Latin1.decode_eq_decode_append_iff, hend, List.head?_drop]
    exact ⟨Latin1.decode_prefix_append _ _, Iff.rfl⟩
  · intro p zeros
    exact ⟨p.ofFrame_frame_append _, hzeros p zeros⟩
  · intro p hp
    rw [Report.ofPacket_of_fits hp]
    exact hzeros p _

/-- A frame that goes on after the payload with a byte that is not zero is read as a longer text. -/
theorem text_ne_frameText_of_junk :
    ofFrame [0x0C, 0x80, 0x02, 0x00, 0x41, 0x42, 0x43, 0x00] =
        .ok ⟨0x800C, 2, [0x41, 0x42], by decide⟩ ∧
      Packet.text ⟨0x800C, 2, [0x41, 0x42], by decide⟩ ≠
        frameText [0x0C, 0x80, 0x02, 0x00, 0x41, 0x42, 0x43, 0x00] := by
  have hread : ofFrame [0x0C, 0x80, 0x02, 0x00, 0x41, 0x42, 0x43, 0x00] =
      .ok ⟨0x800C, 2, [0x41, 0x42], by decide⟩ := rfl
  refine ⟨hread, fun hequal => ?_⟩
  exact absurd ((text_law.1 _ _ hread).2.mp hequal) (by decide)

end Packet

end BatteryWatch
