import BatteryWatch.Proofs.Answer
import BatteryWatch.Proofs.Connection
import BatteryWatch.Proofs.Operation
import BatteryWatch.Proofs.Reports

/-!
# The handshake

Once a device is open, the answer to the ping decides whether it is kept. An answer passes if it
acknowledges the ping (`Answer.check_eq_ok_iff`) and has its payload; for the ping of a device,
whose payload has four bytes, this means exactly that it has the command of a ping and the same
nonce (`Answer.check_ping_iff`). `Device.handshake_law` says so of connecting a device, and also
which pings can never pass.
-/

namespace BatteryWatch

/-! ## Texts of failed handshakes -/

/-- A text begins like its first part. -/
theorem head?_toList_append {a : String} {c : Char} (h : a.toList.head? = some c) (b : String) :
    (a ++ b).toList.head? = some c := by
  rw [String.toList_append, List.head?_append, h]
  rfl

/-- No text of a link error begins with a small `p`. -/
theorem LinkError.head_message (e : LinkError) :
    ∃ c, e.message.toList.head? = some c ∧ c ≠ 'p' := by
  cases e with
  | notConnected => exact ⟨'D', rfl, by decide⟩
  | writeFailed text => exact ⟨'F', head?_toList_append rfl _, by decide⟩
  | readFailed text => exact ⟨'F', head?_toList_append rfl _, by decide⟩
  | unavailable text => exact ⟨'H', head?_toList_append rfl _, by decide⟩

/-- No text of an answer error begins with a small `p`. -/
theorem AnswerError.head_message (e : AnswerError) :
    ∃ c, e.message.toList.head? = some c ∧ c ≠ 'p' := by
  cases e with
  | timeout => exact ⟨'T', rfl, by decide⟩
  | refused command => exact ⟨'D', head?_toList_append rfl _, by decide⟩
  | retry => exact ⟨'D', rfl, by decide⟩
  | unexpectedCommand expected actual =>
    refine ⟨'U', ?_, by decide⟩
    exact head?_toList_append (head?_toList_append (head?_toList_append rfl _) _) _
  | malformed e => exact ⟨'M', head?_toList_append rfl _, by decide⟩
  | link e => exact e.head_message

/-- The text of an answer that is not the ping is the text of no answer error. -/
theorem AnswerError.message_ne_mismatch (e : AnswerError) : e.message ≠ Answer.mismatch := by
  intro h
  obtain ⟨c, hc, hne⟩ := e.head_message
  rw [h] at hc
  exact hne (Option.some.inj hc).symm

/-! ## Answers that pass -/

namespace Answer

/-- An answer acknowledges the ping of a device and has its payload exactly if it has the command
of a ping and the nonce. -/
theorem check_ping_iff {nonce : Nonce} {answer : Packet} :
    check (Ping.packet ⟨nonce⟩) answer = .ok () ∧ answer.payload = (Ping.packet ⟨nonce⟩).payload ↔
      answer.command = 0x0001 ∧ answer.payload = nonce.bytes := by
  rw [check_eq_ok_iff]
  change (_ ∧ answer.command = 0x0001 ∧ _) ∧ answer.payload = nonce.bytes ↔ _
  constructor
  · rintro ⟨⟨-, hcommand, -⟩, hpayload⟩
    exact ⟨hcommand, hpayload⟩
  · rintro ⟨hcommand, hpayload⟩
    refine ⟨⟨?_, hcommand, ?_⟩, hpayload⟩
    · change (0x0001 : UInt16) ≠ 0x0002
      decide
    · -- four bytes are never the one byte of refusal
      rw [hpayload]
      simp [Nonce.bytes]

end Answer

/-- The ping of a device fits a report. -/
theorem Ping.fits_packet (p : Ping) : Report.Fits p.packet := by
  change 4 ≤ Report.capacity
  decide

/-! ## Handshakes -/

namespace Link

variable (host : Host) (link : Link)

/-- The greeting of a device is answered according to how the device behaves. -/
theorem greeting_result (how : Dial) (hping : Report.Fits how.ping) (place : Nat) :
    (greeting host place how).result =
      answer how.ping ((host.bus.reaction place).delivery (Report.ofPacket how.ping)) :=
  congrArg Outcome.result (quiet_exchange_of_fits _ _ _ how.ping hping)

/-- The ping is written to the new device. -/
theorem wrote_mem_greeting (how : Dial) (hping : Report.Fits how.ping) (place : Nat) :
    .wrote ⟨host.opened, place⟩ (Report.ofPacket how.ping) ∈ (greeting host place how).trace := by
  rw [greeting, taken, quiet_exchange_of_fits _ _ _ how.ping hping]
  cases behaviour _ _ how.ping <;> exact List.mem_cons_self

/-- A handshake fails because the ping was answered with another payload, or for the reason for
which its round trip failed. -/
theorem settled_result_eq_error_iff {ping : Packet} {e : ConnectError}
    {trip : Outcome BusEvent (Host × Link) (Except AnswerError Packet)} :
    (settled ping trip).result = .error e ↔
      e = .handshakeFailed Answer.mismatch ∧
        (∃ received, trip.result = .ok received ∧ received.payload ≠ ping.payload) ∨
      ∃ reason, trip.result = .error reason ∧ e = .handshakeFailed reason.message := by
  unfold settled
  cases trip.result with
  | error reason => simp [objection, eq_comm]
  | ok received =>
    by_cases hpayload : received.payload = ping.payload
    · simp [objection, hpayload]
    · simp [objection, hpayload, @eq_comm _ e]

/-- The reason of a failed handshake is that the answer is not the ping exactly if the answer
acknowledges the ping with another payload. -/
theorem settled_result_eq_mismatch_iff {ping : Packet}
    {trip : Outcome BusEvent (Host × Link) (Except AnswerError Packet)} :
    (settled ping trip).result = .error (.handshakeFailed Answer.mismatch) ↔
      ∃ received, trip.result = .ok received ∧ received.payload ≠ ping.payload := by
  rw [settled_result_eq_error_iff]
  constructor
  · rintro (⟨-, hreceived⟩ | ⟨reason, -, hmessage⟩)
    · exact hreceived
    · exact absurd (ConnectError.handshakeFailed.inj hmessage).symm reason.message_ne_mismatch
  · intro hreceived
    exact .inl ⟨rfl, hreceived⟩

/-- A connection that was established has greeted its device with a ping that fits, does not ask
for another try and is not the byte of refusal. -/
theorem ping_of_connect_ok {how : Dial} (h : (connect how (host, link)).result = .ok ()) :
    Report.Fits how.ping ∧ how.ping.command ≠ 0x0002 ∧ how.ping.payload ≠ [0x00] := by
  rw [← Traced.quiet_result] at h
  obtain ⟨_, hquiet⟩ | ⟨_, _, hquiet⟩ | ⟨place, hquiet⟩ := connect_cases host link how
  · rw [hquiet] at h
    cases h
  · rw [hquiet] at h
    cases h
  · rw [hquiet] at h
    obtain ⟨received, hreceived, hpayload⟩ := settled_result_eq_ok_iff.mp h
    obtain ⟨_, _, -, hfits, -, hverdict⟩ := exists_delivery_of_exchange_ok _ _ hreceived
    obtain ⟨-, -, hretry, hrefusal⟩ := Packet.verdict_eq_ok hverdict
    exact ⟨hfits, hretry, hpayload ▸ hrefusal⟩

end Link

/-- Looking for a device finds one at a place that can be opened. -/
structure Bus.Opens (bus : Bus) (target : DeviceId) (place : Nat) : Prop where
  listed : bus.listError = none
  found : ∃ device, bus.IsFirst target place device ∧ device.openError = none

namespace Device

variable (host : Host) (device : Device Link) (verbose : Bool) (nonce : Nonce)

/-- The way a device connects. -/
def dial : Dial := ⟨verbose, device.target, device.readTimeout, Ping.packet ⟨nonce⟩⟩

/-- What connecting a device leaves behind is what connecting its link does. -/
theorem connect_parts :
    let o := connect Link.transport verbose nonce (host, device)
    let linked := (Link.connect (device.dial verbose nonce)).quiet (host, device.transport)
    o.result = linked.result ∧
      o.state = (linked.state.1, { device with transport := linked.state.2 }) ∧
      events o.trace = linked.trace := by
  have hquiet : (connect Link.transport verbose nonce).quiet (host, device) =
      (onTransport (Link.connect (device.dial verbose nonce))).quiet (host, device) :=
    quiet_connect Link.transport host device verbose nonce
  rw [quiet_onTransport, onTransport_apply] at hquiet
  exact Traced.of_quiet_eq hquiet

/-- Connecting a device that can be opened starts with the opening and ends with the handshake. -/
theorem connect_of_opens {place : Nat} (h : host.bus.Opens device.target place) :
    (connect Link.transport verbose nonce (host, device)).result =
        (Link.settled (Ping.packet ⟨nonce⟩)
          (Link.greeting host place (device.dial verbose nonce))).result ∧
      events (connect Link.transport verbose nonce (host, device)).trace =
        Link.opening host device.transport place (device.dial verbose nonce) ++
          (Link.settled (Ping.packet ⟨nonce⟩)
            (Link.greeting host place (device.dial verbose nonce))).trace := by
  obtain ⟨found, hfirst, hopen⟩ := h.found
  have hconnect : (Link.connect (device.dial verbose nonce)).quiet (host, device.transport) = _ :=
    Link.quiet_connect_of_opened host device.transport h.listed hfirst hopen
  obtain ⟨hresult, -, htrace⟩ := connect_parts host device verbose nonce
  rw [hconnect] at hresult htrace
  exact ⟨hresult, htrace⟩

/-- Connecting a device that can be opened succeeds exactly if the device delivers a frame that
carries a packet with the command of a ping and the nonce. -/
theorem connect_result_eq_ok_iff {place : Nat} (h : host.bus.Opens device.target place) :
    (connect Link.transport verbose nonce (host, device)).result = .ok () ↔
      ∃ bytes answer,
        (host.bus.reaction place).delivery (Report.ofPacket (Ping.packet ⟨nonce⟩)) =
          .ok (.bytes bytes) ∧
        Packet.ofFrame (bytes.take 64) = .ok answer ∧
        answer.command = 0x0001 ∧ answer.payload = nonce.bytes := by
  rw [(connect_of_opens host device verbose nonce h).1, Link.settled_result_eq_ok_iff,
    Link.greeting_result host (device.dial verbose nonce) (Ping.fits_packet ⟨nonce⟩),
    Link.exists_answer_iff]
  change (∃ bytes answer, _ ∧ _ ∧ Answer.check (Ping.packet ⟨nonce⟩) answer = .ok () ∧
    answer.payload = (Ping.packet ⟨nonce⟩).payload) ↔ _
  simp only [Answer.check_ping_iff]
  rfl

/-- Connecting a device that can be opened fails because the answer is not the ping exactly if the
answer acknowledges the ping with another payload. -/
theorem connect_result_eq_mismatch_iff {place : Nat} (h : host.bus.Opens device.target place) :
    (connect Link.transport verbose nonce (host, device)).result =
        .error (.handshakeFailed Answer.mismatch) ↔
      ∃ bytes answer,
        (host.bus.reaction place).delivery (Report.ofPacket (Ping.packet ⟨nonce⟩)) =
          .ok (.bytes bytes) ∧
        Packet.ofFrame (bytes.take 64) = .ok answer ∧
        Answer.check (Ping.packet ⟨nonce⟩) answer = .ok () ∧ answer.payload ≠ nonce.bytes := by
  rw [(connect_of_opens host device verbose nonce h).1, Link.settled_result_eq_mismatch_iff,
    Link.greeting_result host (device.dial verbose nonce) (Ping.fits_packet ⟨nonce⟩),
    Link.exists_answer_iff]
  rfl

/-- A device that sends the report of the ping back is accepted. -/
theorem connect_of_echo {place : Nat} (h : host.bus.Opens device.target place)
    (hecho : host.bus.reaction place = .echo none) :
    (connect Link.transport verbose nonce (host, device)).result = .ok () := by
  have hfits : Report.Fits (Ping.packet ⟨nonce⟩) := Ping.fits_packet ⟨nonce⟩
  rw [connect_result_eq_ok_iff host device verbose nonce h]
  refine ⟨(Report.ofPacket (Ping.packet ⟨nonce⟩)).drop 1, Ping.packet ⟨nonce⟩, ?_, ?_, rfl, rfl⟩
  · rw [hecho, List.drop_one]
    rfl
  · rw [List.take_of_length_le]
    · exact Report.ofFrame_ofPacket hfits
    · rw [List.length_drop, Report.ofPacket, Report.length_resize]
      exact Nat.le_refl 64

/-- The handshake is exact, for every nonce and every behaviour of the device that is opened.

The ping is written to the device. Connecting succeeds exactly if the device delivers a frame that
carries a packet with the command of a ping and the nonce. It fails for the reason that the answer
is not the ping exactly if the answer acknowledges the ping with another payload, and otherwise for
the reason for which the round trip failed. A device that echoes the ping is accepted. Whatever the
device does, no connection is established with a ping that has the command which asks for another
try, whose payload is the byte of refusal, or which does not fit a report. -/
theorem handshake_law :
    (∀ place, host.bus.Opens device.target place →
      let ping := Ping.packet ⟨nonce⟩
      let delivery := (host.bus.reaction place).delivery (Report.ofPacket ping)
      let trip := Link.exchange ping (Link.taken host place device.readTimeout)
      let outcome := connect Link.transport verbose nonce (host, device)
      .wrote ⟨host.opened, place⟩ (Report.ofPacket ping) ∈ events outcome.trace ∧
      (outcome.result = .ok () ↔
        ∃ bytes answer, delivery = .ok (.bytes bytes) ∧
          Packet.ofFrame (bytes.take 64) = .ok answer ∧
          answer.command = 0x0001 ∧ answer.payload = nonce.bytes) ∧
      (outcome.result = .error (.handshakeFailed "ping answer does not match") ↔
        ∃ bytes answer, delivery = .ok (.bytes bytes) ∧
          Packet.ofFrame (bytes.take 64) = .ok answer ∧
          Answer.check ping answer = .ok () ∧ answer.payload ≠ nonce.bytes) ∧
      (∀ e, outcome.result = .error e ↔
        e = .handshakeFailed "ping answer does not match" ∧
          (∃ answer, trip.result = .ok answer ∧ answer.payload ≠ nonce.bytes) ∨
        ∃ reason, trip.result = .error reason ∧ e = .handshakeFailed reason.message) ∧
      (host.bus.reaction place = .echo none → outcome.result = .ok ())) ∧
    (∀ how : Dial,
      how.ping.command = 0x0002 ∨ how.ping.payload = [0x00] ∨ 60 < how.ping.payload.length →
      (Link.connect how (host, device.transport)).result ≠ .ok ()) := by
  refine ⟨?_, ?_⟩
  · intro place hopens ping delivery trip outcome
    obtain ⟨hresult, htrace⟩ := connect_of_opens host device verbose nonce hopens
    refine ⟨?_, connect_result_eq_ok_iff host device verbose nonce hopens,
      connect_result_eq_mismatch_iff host device verbose nonce hopens, ?_,
      connect_of_echo host device verbose nonce hopens⟩
    · rw [htrace, Link.settled_trace]
      exact List.mem_append_right _ (List.mem_append_left _
        (Link.wrote_mem_greeting host (device.dial verbose nonce) (Ping.fits_packet ⟨nonce⟩) place))
    · intro e
      change (connect Link.transport verbose nonce (host, device)).result = _ ↔ _
      rw [hresult]
      exact Link.settled_result_eq_error_iff
  · intro how hping hok
    obtain ⟨hfits, hretry, hrefusal⟩ := Link.ping_of_connect_ok host device.transport hok
    rcases hping with hcommand | hpayload | hlarge
    · exact hretry hcommand
    · exact hrefusal hpayload
    · exact absurd hfits (Nat.not_le.mpr hlarge)

/-- A stock device that echoes what is written to it is accepted even with a nonce of zeros. -/
theorem connect_of_echo_zeros :
    (connect Link.transport false ⟨0, 0, 0, 0⟩
      (.ofBus ⟨none, [⟨.stock, none, fun _ => .absent, [.echo none]⟩]⟩,
        stock (.fresh stockTimeout))).result = .ok () := by
  have hopens : Bus.Opens ⟨none, [⟨.stock, none, fun _ => .absent, [.echo none]⟩]⟩ .stock 0 := by
    refine ⟨rfl, _, ⟨rfl, rfl, ?_⟩, rfl⟩
    intro earlier hearlier
    exact absurd hearlier (Nat.not_lt_zero earlier)
  obtain ⟨-, -, -, -, hecho⟩ := (handshake_law (.ofBus _) (stock (.fresh stockTimeout)) false
    ⟨0, 0, 0, 0⟩).1 0 hopens
  exact hecho rfl

end Device

end BatteryWatch
