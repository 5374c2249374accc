import BatteryWatch.Proofs.Handles.LifeCycle
import BatteryWatch.Proofs.Operation
import BatteryWatch.Proofs.WireFormat

/-!
# What reaches the devices

A packet that fits is written as one report from which it can be read back
(`Report.ofFrame_ofPacket`), so that different packets have different reports. In a session nothing
but such reports is written, each of them the report of the packet that its step sends
(`BusStep.serves_perform`); a packet that does not fit leaves every device as it was
(`BusStep.bus_perform_of_not_fits`). `BusStep.reports_law` says so for whole sessions.
-/

namespace BatteryWatch

/-! ## Reports -/

namespace Report

/-- Resizing gives the size asked for. -/
theorem length_resize (n : Nat) (bytes : List UInt8) : (resize n bytes).length = n := by
  rw [resize, List.length_append, List.length_take, List.length_replicate]
  omega

/-- The report of a packet that fits is its number, the whole frame and zeros. -/
theorem ofPacket_of_fits {p : Packet} (hp : Fits p) :
    ofPacket p = 0x00 :: (p.frame ++ List.replicate (60 - p.payload.length) 0x00) := by
  have hpayload : p.payload.length ≤ 60 := hp
  have hlength : (number :: p.frame).length = 5 + p.payload.length := by
    rw [List.length_cons, p.length_frame]
    omega
  have hzeros : size + 1 - (5 + p.payload.length) = 60 - p.payload.length := by
    change 65 - (5 + p.payload.length) = _
    omega
  rw [ofPacket, resize, hlength, hzeros, List.take_of_length_le]
  · rfl
  · rw [hlength]
    change _ ≤ 65
    omega

/-- A packet that fits is read back from its report. -/
theorem ofFrame_ofPacket {p : Packet} (hp : Fits p) :
    Packet.ofFrame ((ofPacket p).drop 1) = .ok p := by
  rw [ofPacket_of_fits hp]
  exact p.ofFrame_frame_append _

/-- Packets that fit and have the same report are the same. -/
theorem eq_of_ofPacket_eq {p q : Packet} (hp : Fits p) (hq : Fits q)
    (h : ofPacket p = ofPacket q) : p = q := by
  have hread := ofFrame_ofPacket hp
  rw [h, ofFrame_ofPacket hq] at hread
  exact (Except.ok.inj hread).symm

end Report

namespace BatteryRequest

/-- A battery status request fits a report. -/
theorem fits_packet (r : BatteryRequest) : Report.Fits r.packet := by
  change 7 ≤ Report.capacity
  decide

/-- The bytes of a payload are the flags as zero or one and the voltage, low byte first. -/
theorem payload_eq (r : BatteryRequest) :
    r.payload.map UInt8.toNat =
      [r.startCharging.toNat, r.stopCharging.toNat, r.usbScreenPower.toNat,
        r.batteryScreenPower.toNat, r.chargeVoltage.toNat % 256, r.chargeVoltage.toNat / 256,
        r.stopForceCharge.toNat] := by
  have hflag (on : Bool) : (flag on).toNat = on.toNat := by cases on <;> rfl
  simp only [payload, List.map_cons, List.map_nil, hflag, LittleEndian.toNat_low,
    LittleEndian.toNat_high]

/-- The report of a battery status request byte by byte: its number, the command and the size of the
payload, each with its low byte first, the payload and zeros. -/
theorem report_eq (r : BatteryRequest) :
    (Report.ofPacket r.packet).map UInt8.toNat =
      [0x00, 0x0C, 0x80, 7, 0, r.startCharging.toNat, r.stopCharging.toNat,
        r.usbScreenPower.toNat, r.batteryScreenPower.toNat, r.chargeVoltage.toNat % 256,
        r.chargeVoltage.toNat / 256, r.stopForceCharge.toNat] ++ List.replicate 53 0 := by
  have hcommand : r.packet.command = 0x800C := rfl
  have hlength : r.packet.length = 7 := rfl
  have hheader : r.packet.header.map UInt8.toNat = [0x0C, 0x80, 7, 0] := by
    rw [r.packet.header_eq, hcommand, hlength]
    rfl
  have hpayload : r.packet.payload = r.payload := rfl
  have hzeros : 60 - r.packet.payload.length = 53 := rfl
  rw [Report.ofPacket_of_fits r.fits_packet, r.packet.frame_eq, hzeros, List.map_cons,
    List.map_append, List.map_append, hheader, hpayload, r.payload_eq, List.map_replicate]
  rfl

end BatteryRequest

/-- The event carries bytes for the sake of a packet, if at all: what is written is the report of
the packet, and nothing is written or read unless the packet fits. -/
def BusEvent.Serves (packet : Option Packet) : BusEvent → Prop
  | .wrote _ bytes => ∃ p, packet = some p ∧ Report.Fits p ∧ bytes = Report.ofPacket p
  | .read _ _ _ => ∃ p, packet = some p ∧ Report.Fits p
  | _ => True

/-- An event that serves a packet that does not fit carries no bytes. -/
theorem BusEvent.Serves.not_carriedBy {e : BusEvent} {p : Packet} (h : e.Serves (some p))
    (hp : ¬Report.Fits p) (g : HandleId) : ¬e.CarriedBy g := by
  intro hcarried
  cases e with
  | wrote g' bytes =>
    obtain ⟨q, hq, hfits, -⟩ := h
    exact hp (Option.some.inj hq ▸ hfits)
  | read g' size timeout =>
    obtain ⟨q, hq, hfits⟩ := h
    exact hp (Option.some.inj hq ▸ hfits)
  | _ => exact hcarried

/-- The packet that a call sends: the one to be exchanged, or the ping of a connection. -/
def Call.packet? : Call → Option Packet
  | .connect how => some how.ping
  | .disconnect => none
  | .exchange packet => some packet

/-- The packet that a step of a session sends, if it sends one. -/
def BusStep.packet? (device : Device Link) : BusStep → Option Packet
  | .operate o => (o.call device).bind Call.packet?
  | .replace => none
  | .plug _ => none

/-! ## Calls of the link -/

namespace Link

/-- Closing a device carries no bytes. -/
theorem serves_closing (packet : Option Packet) (link : Link) :
    ∀ e ∈ link.closing, e.Serves packet :=
  forall_mem_closing (fun _ => trivial) link

/-- A round trip writes the report of its packet and nothing else. -/
theorem serves_exchange (p : Packet) (s : Host × Link) :
    ∀ e ∈ ((exchange p).quiet s).trace, e.Serves (some p) := by
  intro e he
  obtain ⟨_, -, hp, rfl | rfl⟩ := exists_held_of_mem_exchange he
  · exact ⟨p, rfl, hp, rfl⟩
  · exact ⟨p, rfl, hp⟩

/-- A connection writes the report of its ping and nothing else. -/
theorem serves_connect (how : Dial) (s : Host × Link) :
    ∀ e ∈ ((connect how).quiet s).trace, e.Serves (some how.ping) := by
  obtain ⟨host, link⟩ := s
  obtain ⟨_, h⟩ | ⟨_, place, h⟩ | ⟨place, h⟩ := connect_cases host link how
  · rw [h]
    simp [BusEvent.Serves]
  · rw [h]
    simp [BusEvent.Serves]
  · rw [h]
    change ∀ e ∈ opening host link place how ++ (settled how.ping (greeting host place how)).trace,
      e.Serves (some how.ping)
    rw [List.forall_mem_append]
    constructor
    · exact forall_mem_opening host link trivial (fun _ => trivial) (fun _ _ => trivial)
        (fun _ => trivial) place how
    · exact forall_mem_settled (serves_exchange how.ping _) fun _ => trivial

/-- Every call writes the report of the packet it sends and nothing else. -/
theorem serves_make (c : Call) (s : Host × Link) :
    ∀ e ∈ ((transport.make c).quiet s).trace, e.Serves c.packet? := by
  cases c with
  | connect how =>
    rw [Transport.make, Traced.quiet_map, Traced.map_apply]
    exact serves_connect how s
  | disconnect =>
    change ∀ e ∈ (disconnect.quiet s).trace, e.Serves none
    rw [quiet_disconnect]
    exact serves_closing none s.2
  | exchange packet =>
    rw [Transport.make, Traced.quiet_map, Traced.map_apply]
    exact serves_exchange packet s

/-- A round trip with a packet that does not fit changes nothing. -/
theorem exchange_state_of_not_fits {p : Packet} (hp : ¬Report.Fits p) (s : Host × Link) :
    ((exchange p).quiet s).state = s := by
  obtain ⟨-, h⟩ | ⟨_, -, -, h⟩ | ⟨_, -, hfits, -⟩ := exchange_cases s.1 p s.2
  · rw [h]
  · rw [h]
  · exact absurd hfits hp

/-- A connection with a ping that does not fit leaves every device as it was. -/
theorem connect_bus_of_not_fits {how : Dial} (hp : ¬Report.Fits how.ping) (s : Host × Link) :
    ((connect how).quiet s).state.1.bus = s.1.bus := by
  obtain ⟨_, h⟩ | ⟨_, _, h⟩ | ⟨place, h⟩ := connect_cases s.1 s.2 how
  · rw [h]
  · rw [h]
  · rw [h]
    change (settled how.ping (greeting s.1 place how)).state.1.bus = _
    rw [settled_state_fst, greeting, exchange_state_of_not_fits hp]
    rfl

/-- A call with a packet that does not fit leaves every device as it was. -/
theorem make_bus_of_not_fits {c : Call} {p : Packet} (hc : c.packet? = some p)
    (hp : ¬Report.Fits p) (s : Host × Link) :
    ((transport.make c).quiet s).state.1.bus = s.1.bus := by
  cases c with
  | connect how =>
    obtain rfl := Option.some.inj hc
    rw [Transport.make, Traced.quiet_map, Traced.map_apply]
    exact connect_bus_of_not_fits hp s
  | disconnect => cases hc
  | exchange packet =>
    obtain rfl := Option.some.inj hc
    rw [Transport.make, Traced.quiet_map, Traced.map_apply]
    exact congrArg (·.1.bus) (exchange_state_of_not_fits hp s)

end Link

/-! ## Sessions -/

namespace BusStep

/-- Every step writes the report of the packet it sends and nothing else. -/
theorem serves_perform (step : BusStep) (s : State) :
    ∀ e ∈ events (step.perform s).trace, e.Serves (step.packet? s.2) := by
  obtain ⟨host, device⟩ := s
  cases step with
  | operate o =>
    rw [perform, Operation.events_perform, Operation.effect, packet?]
    cases o.call device with
    | none => simp
    | some c => exact Link.serves_make c (host, device.transport)
  | replace =>
    rw [← Traced.quiet_trace, quiet_perform_replace]
    exact Link.serves_closing none device.transport
  | plug bus => simp [perform]

/-- A step with a packet that does not fit leaves every device as it was. -/
theorem bus_perform_of_not_fits {step : BusStep} {s : State} {p : Packet}
    (hstep : step.packet? s.2 = some p) (hp : ¬Report.Fits p) :
    (step.perform s).state.1.bus = s.1.bus := by
  obtain ⟨host, device⟩ := s
  cases step with
  | operate o =>
    obtain ⟨c, hcall, hc⟩ := Option.bind_eq_some_iff.mp hstep
    rw [perform, Operation.perform_state, Operation.effect, hcall]
    exact Link.make_bus_of_not_fits hc hp (host, device.transport)
  | replace => cases hstep
  | plug bus => cases hstep

/-- What happens in a session happens in one of its steps. -/
theorem exists_step_of_mem_history {steps : List BusStep} {s : State} {e : BusEvent}
    (h : e ∈ history steps s) :
    ∃ before step after, steps = before ++ step :: after ∧
      e ∈ events (step.perform (Session.finalState perform before s)).trace := by
  obtain ⟨outcome, houtcome, he⟩ := List.mem_flatMap.mp (mem_events.mp h)
  obtain ⟨before, step, after, hsteps, rfl⟩ := Session.exists_of_mem_run perform houtcome
  exact ⟨before, step, after, hsteps, mem_events.mpr he⟩

/-- What reaches the devices, in every session from every state.

Every buffer that is written has 65 bytes: the number of the report, the whole frame of the packet
that is being sent, whether by a request or as a ping, and zeros. The packet is read back from it,
and different packets that fit have different reports. In any further step, a packet with a payload
of more than 60 bytes causes no write and no read and leaves every device with the reactions it
had. -/
theorem reports_law (s : State) (steps : List BusStep) :
    (∀ handle bytes, .wrote handle bytes ∈ events (trace steps s) →
      ∃ before step after p, steps = before ++ step :: after ∧
        .wrote handle bytes ∈ events (step.perform (Session.finalState perform before s)).trace ∧
        step.packet? (Session.finalState perform before s).2 = some p ∧
        p.payload.length ≤ 60 ∧
        bytes = 0x00 :: (p.frame ++ List.replicate (60 - p.payload.length) 0x00) ∧
        bytes.length = 65 ∧ Packet.ofFrame (bytes.drop 1) = .ok p) ∧
    (∀ p q : Packet, Report.Fits p → Report.Fits q → Report.ofPacket p = Report.ofPacket q →
      p = q) ∧
    (∀ (step : BusStep) p, step.packet? (Session.finalState perform steps s).2 = some p →
      60 < p.payload.length →
      (∀ e ∈ events (step.perform (Session.finalState perform steps s)).trace,
        ∀ handle, ¬e.CarriedBy handle) ∧
      (step.perform (Session.finalState perform steps s)).state.1.bus =
        (Session.finalState perform steps s).1.bus) := by
  refine ⟨?_, fun p q hp hq => Report.eq_of_ofPacket_eq hp hq, ?_⟩
  · intro handle bytes h
    rw [events_trace] at h
    rcases List.mem_append.mp h with hhistory | hclosing
    · obtain ⟨before, step, after, hsteps, hstep⟩ := exists_step_of_mem_history hhistory
      obtain ⟨p, hpacket, hp, rfl⟩ := serves_perform step _ _ hstep
      exact ⟨before, step, after, p, hsteps, hstep, hpacket, hp, Report.ofPacket_of_fits hp,
        Report.length_resize _ _, Report.ofFrame_ofPacket hp⟩
    · -- the end of a session writes nothing
      obtain ⟨p, hpacket, -⟩ := Link.serves_closing none _ _ hclosing
      cases hpacket
  · intro step p hpacket hlarge
    have hp : ¬Report.Fits p := Nat.not_le.mpr hlarge
    refine ⟨?_, bus_perform_of_not_fits hpacket hp⟩
    intro e he
    have hserves := serves_perform step _ e he
    rw [hpacket] at hserves
    exact hserves.not_carriedBy hp

end BusStep

end BatteryWatch
