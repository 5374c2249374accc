import BatteryWatch.Bus.Link
import BatteryWatch.Proofs.Trace
import BatteryWatch.Proofs.WireFormat

/-!
# Round trips

One packet is sent to the device held and its answer is awaited. What comes of it depends on the
packet, on the device held and on how the device behaves: whether the write fails, whether the read
fails, and which bytes it delivers. `Packet.verdict` judges the delivered bytes, and
`Link.exchange_law` is the complete law of a round trip, for every state of the link.
-/

namespace BatteryWatch

/-- What a request is answered with when `frame` is read: the first objection that applies, or
else the packet in the frame. -/
def Packet.verdict (request : Packet) (frame : List UInt8) : Except AnswerError Packet :=
  if frame.length = 0 then .error .timeout
  else if frame.length < 4 then .error (.malformed (.tooShort 4 frame.length))
  else if frame.length < 4 + Frame.announced frame then
    .error (.malformed (.tooShort (4 + Frame.announced frame) frame.length))
  else if Frame.command frame = 0x0002 then .error .retry
  else if Frame.command frame ≠ request.command then
    .error (.unexpectedCommand request.command (Frame.command frame))
  else if Frame.content frame = [0x00] then .error (.refused request.command)
  else .ok (Frame.packet frame)

/-- An accepted answer is the packet in the frame; it has the command of its request, which is not
the one that asks for another try, and is not the byte of refusal. -/
theorem Packet.verdict_eq_ok {request answer : Packet} {frame : List UInt8}
    (h : request.verdict frame = .ok answer) :
    Packet.ofFrame frame = .ok answer ∧ answer.command = request.command ∧
      request.command ≠ 0x0002 ∧ answer.payload ≠ [0x00] := by
  unfold verdict at h
  split at h
  · cases h
  split at h
  · cases h
  rename_i hheader
  split at h
  · cases h
  rename_i hlong
  split at h
  · cases h
  rename_i hretry
  split at h
  · cases h
  rename_i hcommand
  split at h
  · cases h
  rename_i hrefusal
  obtain rfl : Frame.packet frame = answer := Except.ok.inj h
  have hcommand : Frame.command frame = request.command := Decidable.not_not.mp hcommand
  refine ⟨?_, hcommand, hcommand ▸ hretry, hrefusal⟩
  rw [ofFrame_eq, if_neg hheader, if_neg hlong]

namespace Link

/-- What a request is answered with, given how the device behaves when it is written. -/
def answer (request : Packet) : Except String Delivery → Except AnswerError Packet
  | .error text => .error (.link (.writeFailed text))
  | .ok (.failure text) => .error (.link (.readFailed text))
  | .ok (.bytes bytes) => request.verdict (bytes.take 64)

/-- What a round trip does on the bus, given how the device behaves when the request is written. -/
def traffic (handle : HandleId) (readTimeout : Duration) (request : Packet) :
    Except String Delivery → List BusEvent
  | .error _ => [.wrote handle (Report.ofPacket request)]
  | .ok _ => [.wrote handle (Report.ofPacket request),
      .read handle 64 (timeoutMillis readTimeout)]

/-- How the device behind a handle behaves when a request is written to it. -/
def behaviour (host : Host) (handle : HandleId) (request : Packet) : Except String Delivery :=
  (host.bus.reaction handle.place).delivery (Report.ofPacket request)

/-! ## The parts of a round trip -/

@[simp] theorem mapError_ok {ε ε' α : Type} (f : ε → ε') (a : α) :
    (Except.ok a).mapError f = .ok a := rfl

variable (host : Host) (handle : Handle) (readTimeout : Duration) (p : Packet)

/-- Writing to a device uses up one of its reactions and leaves what it sends ready to be read. -/
theorem quiet_write (bytes : List UInt8) (link : Link) :
    (write handle bytes).quiet (host, link) =
      ⟨((host.bus.reaction handle.id.place).delivery bytes).map fun _ => (),
        ({ host with bus := host.bus.advance handle.id.place },
          { link with held := some { handle with
              pending := ((host.bus.reaction handle.id.place).delivery bytes).toOption } }),
        [.wrote handle.id bytes]⟩ := by
  unfold write note setHost setHeld
  cases hd : (host.bus.reaction handle.id.place).delivery bytes with
  | error text => simp [hd, Except.map, Except.toOption]
  | ok delivery => simp [hd, Except.map, Except.toOption]

/-- A packet that fits is written as one report. -/
theorem quiet_sendReport_of_fits (hp : Report.Fits p) :
    (sendReport p).quiet (host, ⟨some handle, readTimeout⟩) =
      ⟨((behaviour host handle.id p).map fun _ => ()).mapError .writeFailed,
        ({ host with bus := host.bus.advance handle.id.place },
          ⟨some { handle with pending := (behaviour host handle.id p).toOption }, readTimeout⟩),
        [.wrote handle.id (Report.ofPacket p)]⟩ := by
  unfold sendReport heldDevice
  simp [hp, quiet_write, behaviour]

/-- What the device has ready is read and nothing is left ready. -/
theorem quiet_readReport (delivery : Delivery) :
    readReport.quiet (host, ⟨some { handle with pending := some delivery }, readTimeout⟩) =
      ⟨match delivery with
        | .failure text => .error (.link (.readFailed text))
        | .bytes bytes =>
          if (bytes.take 64).length = 0 then .ok none
          else ((Packet.ofFrame (bytes.take 64)).map some).mapError .malformed,
        (host, ⟨some { handle with pending := none }, readTimeout⟩),
        [.read handle.id 64 (timeoutMillis readTimeout)]⟩ := by
  unfold readReport heldDevice read note setHeld
  cases delivery with
  | failure text => simp [Report.size]
  | bytes bytes =>
    cases hbytes : bytes.take 64 with
    | nil => simp [Report.size, hbytes]
    | cons b rest => simp [Report.size, hbytes]

/-! ## Whole round trips -/

/-- Reading, parsing and checking an answer gives the verdict on the bytes read. -/
theorem verdict_eq (frame : List UInt8) :
    p.verdict frame =
      if frame.length = 0 then .error .timeout
      else match Packet.ofFrame frame with
        | .error e => .error (.malformed e)
        | .ok answer => (Answer.check p answer).map fun _ => answer := by
  unfold Packet.verdict
  rw [Packet.ofFrame_eq]
  split
  · rfl
  split
  · rfl
  split
  · rfl
  change _ = (if Frame.command frame = 0x0002 then _ else _ : Except AnswerError Unit).map _
  split
  · rfl
  change _ = (if Frame.command frame ≠ p.command then _ else _ : Except AnswerError Unit).map _
  split
  · rfl
  change _ = (if Frame.content frame = [0x00] then _ else _ : Except AnswerError Unit).map _
  split
  · rfl
  · rfl

/-- Nothing is sent while no device is held. -/
theorem quiet_exchange_of_unheld :
    (exchange p).quiet (host, ⟨none, readTimeout⟩) =
      ⟨.error (.link .notConnected), (host, ⟨none, readTimeout⟩), []⟩ := by
  unfold exchange sendReport heldDevice
  simp

/-- Nothing is sent of a packet that does not fit a report. -/
theorem quiet_exchange_of_not_fits (hp : ¬ Report.Fits p) :
    (exchange p).quiet (host, ⟨some handle, readTimeout⟩) =
      ⟨.error (.link (.writeFailed (doesNotFit p))), (host, ⟨some handle, readTimeout⟩), []⟩ := by
  unfold exchange sendReport heldDevice
  simp [hp]

/-- A packet that fits is answered according to how the device behaves, which uses up one of its
reactions and leaves nothing ready to be read. -/
theorem quiet_exchange_of_fits (hp : Report.Fits p) :
    (exchange p).quiet (host, ⟨some handle, readTimeout⟩) =
      ⟨answer p (behaviour host handle.id p),
        ({ host with bus := host.bus.advance handle.id.place },
          ⟨some { handle with pending := none }, readTimeout⟩),
        traffic handle.id readTimeout p (behaviour host handle.id p)⟩ := by
  unfold exchange
  rw [Traced.quiet_bind, Traced.bind_apply, quiet_sendReport_of_fits host handle readTimeout p hp]
  cases hb : behaviour host handle.id p with
  | error text => rfl
  | ok delivery =>
    change Outcome.mk _ _ ([_] ++ _) = _
    dsimp only [Except.map, mapError_ok, Except.toOption]
    rw [Traced.quiet_bind, Traced.bind_apply, quiet_readReport]
    cases delivery with
    | failure text => rfl
    | bytes bytes =>
      dsimp only [answer]
      rw [verdict_eq]
      by_cases hempty : (bytes.take 64).length = 0
      · simp only [if_pos hempty]
        rfl
      · simp only [if_neg hempty]
        cases Packet.ofFrame (bytes.take 64) with
        | error e => rfl
        | ok received =>
          cases hcheck : Answer.check p received with
          | error e => simp [Except.map, hcheck, traffic]
          | ok _ => simp [Except.map, hcheck, traffic]

/-- All that a round trip can do: nothing while no device is held or with a packet that does not fit
a report, and otherwise what the device held makes of it. -/
theorem exchange_cases (link : Link) :
    (link.held = none ∧ (exchange p).quiet (host, link) =
      ⟨.error (.link .notConnected), (host, link), []⟩) ∨
    (∃ handle, link.held = some handle ∧ ¬ Report.Fits p ∧ (exchange p).quiet (host, link) =
      ⟨.error (.link (.writeFailed (doesNotFit p))), (host, link), []⟩) ∨
    (∃ handle, link.held = some handle ∧ Report.Fits p ∧ (exchange p).quiet (host, link) =
      ⟨answer p (behaviour host handle.id p),
        ({ host with bus := host.bus.advance handle.id.place },
          ⟨some { handle with pending := none }, link.readTimeout⟩),
        traffic handle.id link.readTimeout p (behaviour host handle.id p)⟩) := by
  obtain ⟨held, readTimeout⟩ := link
  cases held with
  | none => exact .inl ⟨rfl, quiet_exchange_of_unheld host readTimeout p⟩
  | some handle =>
    by_cases hp : Report.Fits p
    · exact .inr (.inr ⟨handle, rfl, hp, quiet_exchange_of_fits host handle readTimeout p hp⟩)
    · exact .inr (.inl ⟨handle, rfl, hp, quiet_exchange_of_not_fits host handle readTimeout p hp⟩)

/-- All that happens in a round trip is that the report of a packet that fits is written to the
device held, and that a report is read from it. -/
theorem exists_held_of_mem_exchange {p : Packet} {s : Host × Link} {e : BusEvent}
    (he : e ∈ ((exchange p).quiet s).trace) :
    ∃ handle, s.2.held = some handle ∧ Report.Fits p ∧
      (e = .wrote handle.id (Report.ofPacket p) ∨
        e = .read handle.id 64 (timeoutMillis s.2.readTimeout)) := by
  obtain ⟨-, h⟩ | ⟨_, -, -, h⟩ | ⟨handle, hheld, hp, h⟩ := exchange_cases s.1 p s.2
  · rw [h] at he
    cases he
  · rw [h] at he
    cases he
  · rw [h] at he
    refine ⟨handle, hheld, hp, ?_⟩
    cases hb : behaviour s.1 handle.id p with
    | error text => simpa [hb, traffic] using Or.inl he
    | ok delivery => simpa [hb, traffic] using he

/-- A round trip keeps the device held, the time to wait and the number of handles opened. -/
theorem exchange_keeps (link : Link) :
    (exchange p (host, link)).state.2.held.map Handle.id = link.held.map Handle.id ∧
      (exchange p (host, link)).state.2.readTimeout = link.readTimeout ∧
      (exchange p (host, link)).state.1.opened = host.opened := by
  rw [← Traced.quiet_state]
  obtain ⟨-, h⟩ | ⟨_, -, -, h⟩ | ⟨handle, hheld, -, h⟩ := exchange_cases host p link
  · rw [h]
    exact ⟨rfl, rfl, rfl⟩
  · rw [h]
    exact ⟨rfl, rfl, rfl⟩
  · rw [h, hheld]
    exact ⟨rfl, rfl, rfl⟩

/-- An accepted answer was delivered by the device held: it is the packet in the bytes read. -/
theorem exists_delivery_of_exchange_ok {link : Link} {received : Packet}
    (h : (exchange p (host, link)).result = .ok received) :
    ∃ handle bytes, link.held = some handle ∧ Report.Fits p ∧
      behaviour host handle.id p = .ok (.bytes bytes) ∧
      p.verdict (bytes.take 64) = .ok received := by
  rw [← Traced.quiet_result] at h
  obtain ⟨-, hquiet⟩ | ⟨_, -, -, hquiet⟩ | ⟨handle, hheld, hp, hquiet⟩ := exchange_cases host p link
  · rw [hquiet] at h
    cases h
  · rw [hquiet] at h
    cases h
  · rw [hquiet] at h
    change answer p (behaviour host handle.id p) = .ok received at h
    -- only delivered bytes can be accepted
    cases hb : behaviour host handle.id p with
    | error text =>
      rw [hb] at h
      cases h
    | ok delivery =>
      cases delivery with
      | failure text =>
        rw [hb] at h
        cases h
      | bytes bytes =>
        rw [hb] at h
        exact ⟨handle, bytes, hheld, hp, hb, h⟩

/-- The law of one round trip: what a packet is answered with and what happens on the bus, for every
state of the link, every packet and every behaviour of the device. At most one report is written
and at most one is read, the device held and the time to wait stay, and an accepted answer is the
packet in the bytes read and answers its request. -/
theorem exchange_law (link : Link) :
    (exchange p (host, link)).state.2.held.map Handle.id = link.held.map Handle.id ∧
    (exchange p (host, link)).state.2.readTimeout = link.readTimeout ∧
    (∀ received, (exchange p (host, link)).result = .ok received →
      received.command = p.command ∧ p.command ≠ 0x0002 ∧ received.payload ≠ [0x00] ∧
        p.payload.length ≤ 60) ∧
    ((exchange p (host, link)).result, events (exchange p (host, link)).trace) =
      match link.held with
      | none => (.error (.link .notConnected), [])
      | some handle =>
        if 60 < p.payload.length then (.error (.link (.writeFailed (doesNotFit p))), [])
        else match (host.bus.reaction handle.id.place).delivery (Report.ofPacket p) with
          | .error text =>
            (.error (.link (.writeFailed text)), [.wrote handle.id (Report.ofPacket p)])
          | .ok (.failure text) =>
            (.error (.link (.readFailed text)), [.wrote handle.id (Report.ofPacket p),
              .read handle.id 64 (timeoutMillis link.readTimeout)])
          | .ok (.bytes bytes) =>
            (p.verdict (bytes.take 64), [.wrote handle.id (Report.ofPacket p),
              .read handle.id 64 (timeoutMillis link.readTimeout)]) := by
  obtain ⟨hheld, htimeout, -⟩ := exchange_keeps host p link
  refine ⟨hheld, htimeout, ?_, ?_⟩
  · intro received hok
    obtain ⟨_, _, -, hp, -, hverdict⟩ := exists_delivery_of_exchange_ok host p hok
    obtain ⟨-, hcommand, hretry, hrefusal⟩ := Packet.verdict_eq_ok hverdict
    exact ⟨hcommand, hretry, hrefusal, hp⟩
  · rw [← Traced.quiet_result, ← Traced.quiet_trace]
    obtain ⟨hnone, h⟩ | ⟨handle, hsome, hp, h⟩ | ⟨handle, hsome, hp, h⟩ :=
      exchange_cases host p link
    · rw [h, hnone]
    · have hlarge : 60 < p.payload.length := Nat.lt_of_not_le hp
      rw [h, hsome]
      simp only [if_pos hlarge]
    · have hsmall : ¬60 < p.payload.length := Nat.not_lt.mpr hp
      rw [h, hsome, behaviour]
      simp only [if_neg hsmall]
      cases (host.bus.reaction handle.id.place).delivery (Report.ofPacket p) with
      | error text => rfl
      | ok delivery => cases delivery <;> rfl

end Link

end BatteryWatch
