import BatteryWatch.Proofs.RoundTrip
import BatteryWatch.Proofs.WireFormat

/-!
# Accepted answers

Which answers acknowledge a request (`Answer.check_eq_ok_iff`), and, given how a device behaves when
the request is written to it, which packet the request is answered with (`Link.answer_eq_ok_iff`).
`Link.exchange_eq_ok_iff` says when a round trip brings which packet.
-/

namespace BatteryWatch

/-- What succeeds does so whatever is made of its errors. -/
theorem mapError_eq_ok_iff {ε ε' α : Type} {f : ε → ε'} {x : Except ε α} {a : α} :
    x.mapError f = .ok a ↔ x = .ok a := by
  cases x with
  | error e =>
    constructor
    · intro h
      cases h
    · intro h
      cases h
  | ok b =>
    constructor
    · intro h
      rw [Except.ok.inj h]
    · intro h
      exact congrArg Except.ok (Except.ok.inj h)

namespace Answer

/-- An answer acknowledges a request if it has its command, which is not the one that asks for
another try, and is not the byte of refusal. -/
theorem check_eq_ok_iff {request answer : Packet} :
    check request answer = .ok () ↔
      request.command ≠ 0x0002 ∧ answer.command = request.command ∧ answer.payload ≠ [0x00] := by
  unfold check
  change (if answer.command = 0x0002 then _ else _) = _ ↔ _
  split
  · rename_i hretry
    simp only [reduceCtorEq, false_iff]
    rintro ⟨hrequest, hcommand, -⟩
    exact hrequest (hcommand ▸ hretry)
  split
  · rename_i hcommand
    simp only [reduceCtorEq, false_iff]
    rintro ⟨-, hequal, -⟩
    exact hcommand hequal
  change (if answer.payload = [0x00] then _ else _) = _ ↔ _
  split
  · rename_i hrefusal
    simp only [reduceCtorEq, false_iff]
    rintro ⟨-, -, haccepted⟩
    exact haccepted hrefusal
  · rename_i hretry hcommand hrefusal
    have hcommand : answer.command = request.command := Decidable.not_not.mp hcommand
    exact ⟨fun _ => ⟨hcommand ▸ hretry, hcommand, hrefusal⟩, fun _ => rfl⟩

end Answer

namespace Link

/-- A request is answered exactly with the packet in the bytes that are read, if it acknowledges
the request. -/
theorem answer_eq_ok_iff {request received : Packet} {delivery : Except String Delivery} :
    answer request delivery = .ok received ↔
      ∃ bytes, delivery = .ok (.bytes bytes) ∧
        Packet.ofFrame (bytes.take 64) = .ok received ∧ Answer.check request received = .ok () := by
  constructor
  · intro h
    match delivery, h with
    | .ok (.bytes bytes), h =>
      obtain ⟨hframe, hcommand, hretry, hrefusal⟩ := Packet.verdict_eq_ok h
      exact ⟨bytes, rfl, hframe, Answer.check_eq_ok_iff.mpr ⟨hretry, hcommand, hrefusal⟩⟩
  · rintro ⟨bytes, rfl, hframe, hcheck⟩
    change request.verdict (bytes.take 64) = _
    have hheader := (Packet.exists_ofFrame_iff.mp ⟨received, hframe⟩).1
    rw [verdict_eq, if_neg (by omega), hframe]
    simp [hcheck, Except.map]

/-- A request is answered with a packet of some kind exactly if such a packet is in the bytes that
are read and acknowledges the request. -/
theorem exists_answer_iff {request : Packet} {delivery : Except String Delivery}
    {P : Packet → Prop} :
    (∃ received, answer request delivery = .ok received ∧ P received) ↔
      ∃ bytes received, delivery = .ok (.bytes bytes) ∧
        Packet.ofFrame (bytes.take 64) = .ok received ∧
        Answer.check request received = .ok () ∧ P received := by
  constructor
  · rintro ⟨received, hanswer, hkind⟩
    obtain ⟨bytes, hbytes, hframe, hcheck⟩ := answer_eq_ok_iff.mp hanswer
    exact ⟨bytes, received, hbytes, hframe, hcheck, hkind⟩
  · rintro ⟨bytes, received, hbytes, hframe, hcheck, hkind⟩
    exact ⟨received, answer_eq_ok_iff.mpr ⟨bytes, hbytes, hframe, hcheck⟩, hkind⟩

/-- A round trip brings a packet exactly if a device is held, the request fits a report and the
device delivers a frame that carries the packet, which acknowledges the request. -/
theorem exchange_eq_ok_iff {host : Host} {link : Link} {request received : Packet} :
    (exchange request (host, link)).result = .ok received ↔
      ∃ handle bytes, link.held = some handle ∧ Report.Fits request ∧
        behaviour host handle.id request = .ok (.bytes bytes) ∧
        Packet.ofFrame (bytes.take 64) = .ok received ∧
        Answer.check request received = .ok () := by
  constructor
  · intro h
    obtain ⟨handle, bytes, hheld, hfits, hbehaviour, hverdict⟩ :=
      exists_delivery_of_exchange_ok host request h
    obtain ⟨hframe, hcommand, hretry, hrefusal⟩ := Packet.verdict_eq_ok hverdict
    exact ⟨handle, bytes, hheld, hfits, hbehaviour, hframe,
      Answer.check_eq_ok_iff.mpr ⟨hretry, hcommand, hrefusal⟩⟩
  · rintro ⟨handle, bytes, hheld, hfits, hbehaviour, hframe, hcheck⟩
    obtain ⟨_, readTimeout⟩ := link
    obtain rfl := hheld
    rw [← Traced.quiet_result, quiet_exchange_of_fits host handle readTimeout request hfits]
    exact answer_eq_ok_iff.mpr ⟨bytes, hbehaviour, hframe, hcheck⟩

end Link

end BatteryWatch
