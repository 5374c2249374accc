import BatteryWatch.Message
import BatteryWatch.Proofs.WireFormat

/-!
# Making packets

A packet is made of a payload in two ways. One converts the size of the payload to the length field
and refuses a payload for which this fails; the other keeps as much of the payload as the field can
describe, casts the size of what it kept and logs a warning. Up to the largest size both make the
same packet (`Packet.ofPayload_of_fits`, `Packet.truncating_of_fits`), and past it, by one byte or
by any number of them, they differ (`Packet.ofPayload_of_excess`, `Packet.truncating_of_excess`).
`Packet.making_law` compares them for payloads of all sizes.
-/

namespace BatteryWatch

namespace Packet

variable {command : UInt16} {payload : Option (List UInt8)}

/-! ## Payloads that fit -/

/-- The packet of a payload that fits: all of it, and its size as the length field. -/
def whole (command : UInt16) (payload : Option (List UInt8))
    (h : (payload.getD []).length ≤ maxPayload) : Packet where
  command := command
  length := UInt16.ofNat (payload.getD []).length
  payload := payload.getD []
  toNat_length := Narrow.toNat_ofNat_of_le h

/-- The size of a payload that fits can be converted, and the payload is taken as it is. -/
theorem ofPayload_of_fits (h : (payload.getD []).length ≤ maxPayload) :
    ofPayload command payload = .ok (whole command payload h) :=
  ofPayload_of_some (Narrow.word?_eq_some_iff.mpr (Narrow.toNat_ofNat_of_le h))

/-- All of a payload that fits is kept, and nothing is logged. -/
theorem truncating_of_fits (h : (payload.getD []).length ≤ maxPayload) :
    truncating command payload = ⟨whole command payload h, []⟩ := by
  have hkept : keptSize (payload.getD []) = (payload.getD []).length := Nat.min_eq_left h
  have hvalue : (truncating command payload).value = whole command payload h := by
    refine eq_of_payload_eq rfl ?_
    change (payload.getD []).take (keptSize (payload.getD [])) = payload.getD []
    rw [hkept, List.take_length]
  have hrecords : (truncating command payload).records = [] := by
    have hall : ¬ keptSize (payload.getD []) < (payload.getD []).length := by
      rw [hkept]
      exact Nat.lt_irrefl _
    exact if_neg hall
  change Logged.mk (truncating command payload).value (truncating command payload).records = _
  rw [hvalue, hrecords]

/-! ## Payloads that are too large -/

/-- The size of a payload that is too large cannot be converted, and the payload is refused with its
size. -/
theorem ofPayload_of_excess (h : maxPayload < (payload.getD []).length) :
    ofPayload command payload = .error (.payloadTooLarge (payload.getD []).length) :=
  ofPayload_of_none (Narrow.word?_eq_none_iff.mpr h)

/-- Of a payload that is too large as much is kept as the length field can describe, so that the
field has its largest value, and the rest is cut off, which is logged once. -/
theorem truncating_of_excess (h : maxPayload < (payload.getD []).length) :
    (truncating command payload).value.length = 65535 ∧
      (truncating command payload).value.payload = (payload.getD []).take maxPayload ∧
      (truncating command payload).records =
        [truncationWarning command (payload.getD []).length maxPayload] := by
  have hkept : keptSize (payload.getD []) = maxPayload := Nat.min_eq_right (Nat.le_of_lt h)
  refine ⟨?_, ?_, ?_⟩
  · change UInt16.ofNat (keptSize (payload.getD [])) = 65535
    rw [hkept]
    rfl
  · change (payload.getD []).take (keptSize (payload.getD [])) = _
    rw [hkept]
  · change (if keptSize (payload.getD []) < (payload.getD []).length then
      [truncationWarning command (payload.getD []).length (keptSize (payload.getD []))] else []) = _
    rw [hkept, if_pos h]

/-! ## The law of making packets -/

/-- The two ways to make a packet, for every command and every payload, none standing for an empty
one.

A payload of at most 65535 bytes is accepted by both, which make the same packet of it, length
field included; its payload is the given one, and nothing is logged. A larger payload is refused by
the one with the exact number of its bytes; the other keeps the first 65535 bytes, so that the
length field has its largest value and does not wrap, and logs one warning. The packet of a request,
however large its payload, has the size of what was kept in its length field, also as it appears on
the wire. -/
theorem making_law :
    (∀ command payload, (payload.getD []).length ≤ 65535 →
      ∃ p, ofPayload command payload = .ok p ∧ truncating command payload = ⟨p, []⟩ ∧
        p.command = command ∧ p.payload = payload.getD [] ∧
        p.length.toNat = (payload.getD []).length) ∧
    (∀ command payload, 65535 < (payload.getD []).length →
      ofPayload command payload = .error (.payloadTooLarge (payload.getD []).length) ∧
      ∃ p warning, truncating command payload = ⟨p, [warning]⟩ ∧
        warning = truncationWarning command (payload.getD []).length 65535 ∧ warning.level = .warn ∧
        p.command = command ∧ p.payload = (payload.getD []).take 65535 ∧ p.length = 65535) ∧
    (∀ request : Request,
      let p := request.packet.value
      p.command = request.command.code ∧ p.payload = request.payload.take 65535 ∧
        p.length.toNat = p.payload.length ∧ Frame.announced p.frame = p.payload.length) := by
  refine ⟨?_, ?_, ?_⟩
  · intro command payload hfits
    have hlength : (UInt16.ofNat (payload.getD []).length).toNat = (payload.getD []).length :=
      Narrow.toNat_ofNat_of_le hfits
    exact ⟨whole command payload hfits, ofPayload_of_fits hfits, truncating_of_fits hfits,
      rfl, rfl, hlength⟩
  · intro command payload hexcess
    obtain ⟨hlength, hpayload, hrecords⟩ := @truncating_of_excess command payload hexcess
    have hcut : truncating command payload = ⟨(truncating command payload).value,
        [truncationWarning command (payload.getD []).length 65535]⟩ :=
      congrArg (Logged.mk (truncating command payload).value) hrecords
    exact ⟨ofPayload_of_excess hexcess, _, _, hcut, rfl, rfl, rfl, hpayload, hlength⟩
  · intro request p
    obtain ⟨hcommand, hpayload⟩ := truncating_value request.command.code (some request.payload)
    have hlength : p.length.toNat = min request.payload.length 65535 :=
      toNat_length_truncating request.command.code (some request.payload)
    have hsize : p.payload.length = min request.payload.length 65535 :=
      length_payload_truncating request.command.code (some request.payload)
    have hannounced : Frame.announced p.frame = p.payload.length := by
      rw [← p.announced_frame_append [], List.append_nil]
    exact ⟨hcommand, hpayload, hlength.trans hsize.symm, hannounced⟩

/-- Of a payload one byte too large, whose size would wrap to zero in the length field, all but this
byte is kept. -/
theorem truncating_of_wrapping_size :
    let payload := some (List.replicate 65536 (7 : UInt8))
    65535 < (payload.getD []).length ∧
      ofPayload 1 payload = .error (.payloadTooLarge 65536) ∧
      (truncating 1 payload).value.length = 65535 := by
  intro payload
  have hsize : (payload.getD []).length = 65536 := List.length_replicate
  have hexcess : 65535 < (payload.getD []).length := by
    rw [hsize]
    decide
  obtain ⟨hrefused, p, warning, hcut, -, -, -, -, hlength⟩ := making_law.2.1 1 payload hexcess
  rw [hsize] at hrefused
  refine ⟨hexcess, hrefused, ?_⟩
  rw [hcut]
  exact hlength

end Packet

end BatteryWatch
