import BatteryWatch.Proofs.Trace
import BatteryWatch.Session
import BatteryWatch.Transport

/-!
# Operations

What sessions and operations on a device come down to. A session goes through its steps one after
the other: each of them works on the state that the steps before it leave
(`Session.getElem?_run`), and whatever a session leaves behind was left behind by one of its steps
(`Session.exists_of_mem_run`).

An operation on a device either leaves the transport alone or makes one call to it
(`Operation.call`); besides logging, that call is all that the operation does
(`Operation.perform_state`, `Operation.events_perform`). What every call of a transport keeps, every
operation on a device keeps.
-/

namespace BatteryWatch

/-! ## Steps of sessions -/

namespace Session

variable {ι ε σ α : Type} (step : ι → Traced ε σ α)

/-- Each step of a session works on the state that the steps before it leave. -/
theorem getElem?_run (steps : List ι) (s : σ) (i : Nat) :
    (run step steps s)[i]? =
      (steps[i]?).map fun x => step x (finalState step (steps.take i) s) := by
  induction steps generalizing s i with
  | nil => rfl
  | cons first rest ih =>
    cases i with
    | zero => rfl
    | succ i => exact ih (step first s).state i

/-- What a session leaves behind was left behind by one of its steps. -/
theorem exists_of_mem_run {steps : List ι} {s : σ} {outcome : Outcome ε σ α}
    (h : outcome ∈ run step steps s) :
    ∃ before x after, steps = before ++ x :: after ∧
      outcome = step x (finalState step before s) := by
  obtain ⟨i, hi⟩ := List.mem_iff_getElem?.mp h
  rw [getElem?_run] at hi
  obtain ⟨x, hx, rfl⟩ := Option.map_eq_some_iff.mp hi
  obtain ⟨hlt, rfl⟩ := List.getElem?_eq_some_iff.mp hx
  refine ⟨steps.take i, steps[i], steps.drop (i + 1), ?_, rfl⟩
  rw [List.getElem_cons_drop, List.take_append_drop]

/-- A session leaves the state that its last step leaves. -/
theorem finalState_concat (steps : List ι) (x : ι) (s : σ) :
    finalState step (steps ++ [x]) s = (step x (finalState step steps s)).state := by
  rw [finalState, List.foldl_append]
  rfl

end Session

/-! ## Operations and the calls they make -/

variable {κ ω τ : Type}

/-- Makes a call to a transport, without regard to its result. -/
def Transport.make (T : Transport κ ω τ) : Call → Traced (Entry κ) (ω × τ) Unit
  | .connect how => (fun _ => ()) <$> T.connect how
  | .disconnect => T.disconnect
  | .exchange packet => (fun _ => ()) <$> T.exchange packet

namespace Device

variable (T : Transport κ ω τ) (world : ω) (device : Device τ)

/-- Connecting a device is connecting its transport with a ping that carries the nonce. -/
theorem quiet_connect (verbose : Bool) (nonce : Nonce) :
    (connect T verbose nonce).quiet (world, device) =
      (onTransport (T.connect
        ⟨verbose, device.target, device.readTimeout, Ping.packet ⟨nonce⟩⟩)).quiet
        (world, device) := by
  unfold connect
  simp

/-- Sending a request is one exchange of its packet. -/
theorem quiet_send (request : Request) :
    (send T request).quiet (world, device) =
      (onTransport (T.exchange request.packet.value)).quiet (world, device) := by
  unfold send
  simp

/-- Asking for the raw answer with six values sends the request that has them: every value goes to
the part that it is for. -/
theorem queryBattery_eq (r : BatteryRequest) :
    queryBattery T r.startCharging r.stopCharging r.usbScreenPower r.batteryScreenPower
      r.chargeVoltage r.stopForceCharge = send T r.request := rfl

/-- The battery status that an exchange brings, if it does. -/
def statusOf : Except AnswerError Packet → Except StatusError BatteryStatus
  | .error e => .error (.answer e)
  | .ok answer => (BatteryStatus.ofBytes answer.payload).mapError .malformed

/-- Reading the battery is one exchange, which is logged first and whose answer is read. -/
theorem readBattery_apply (request : BatteryRequest) :
    readBattery T request (world, device) =
      ⟨statusOf (T.exchange request.packet (world, device.transport)).result,
        ((T.exchange request.packet (world, device.transport)).state.1,
          { device with
            transport := (T.exchange request.packet (world, device.transport)).state.2 }),
        .record ⟨.debug, .device, "Sending " ++ request.debug⟩ ::
          (T.exchange request.packet (world, device.transport)).trace⟩ := by
  have hsend : send T request.request (world, device) =
      ⟨(T.exchange request.packet (world, device.transport)).result,
        ((T.exchange request.packet (world, device.transport)).state.1,
          { device with
            transport := (T.exchange request.packet (world, device.transport)).state.2 }),
        .record ⟨.debug, .device, "Sending " ++ request.debug⟩ ::
          (T.exchange request.packet (world, device.transport)).trace⟩ := rfl
  rw [readBattery, Traced.bind_apply, hsend]
  cases (T.exchange request.packet (world, device.transport)).result with
  | error e => simp [statusOf]
  | ok answer => simp [statusOf]

/-- Without its log, reading the battery is one exchange whose answer is read. -/
theorem quiet_readBattery (request : BatteryRequest) :
    (readBattery T request).quiet (world, device) =
      (statusOf <$> (onTransport (T.exchange request.packet)).quiet) (world, device) := by
  rw [Traced.quiet, readBattery_apply, Traced.map_apply]
  rfl

end Device

namespace Operation

/-- The call that an operation makes to the transport of a device, if it makes one. -/
def call (device : Device τ) : Operation → Option Call
  | .connect verbose nonce =>
    some (.connect ⟨verbose, device.target, device.readTimeout, Ping.packet ⟨nonce⟩⟩)
  | .disconnect => some .disconnect
  | .queryBattery start stop usb battery voltage stopForce =>
    some (.exchange (BatteryRequest.packet ⟨start, stop, usb, battery, voltage, stopForce⟩))
  | .readBattery request => some (.exchange request.packet)
  | .sendPing nonce => some (.exchange (Ping.packet ⟨nonce⟩))
  | .sendCustom code payload =>
    match Command.ofCode code with
    | .error _ => none
    | .ok command => some (.exchange (customRequest command payload).packet.value)
  | .readText _ => none
  | .identify => none
  | .exchange packet => some (.exchange packet)
  | .dial how => some (.connect how)

variable (T : Transport κ ω τ) (world : ω) (device : Device τ) (o : Operation)

/-- What the call of an operation does, if it makes one. -/
def effect : Outcome κ (ω × Device τ) Unit :=
  match o.call device with
  | none => ⟨(), (world, device), []⟩
  | some c => (Device.onTransport (T.make c)).quiet (world, device)

/-- Without its log and its reply, an operation is its call. -/
theorem quiet_perform :
    ((fun _ => ()) <$> (o.perform T).quiet) (world, device) = o.effect T world device := by
  unfold effect
  cases o with
  | connect verbose nonce => simp [perform, call, Device.quiet_connect, Transport.make]
  | disconnect => simp [perform, call, Device.disconnect, Transport.make]
  | queryBattery start stop usb battery voltage stopForce =>
    have hsend := Device.queryBattery_eq T ⟨start, stop, usb, battery, voltage, stopForce⟩
    simp [perform, call, hsend, Device.quiet_send, Transport.make, BatteryRequest.request_packet]
  | readBattery request => simp [perform, call, Device.quiet_readBattery, Transport.make]
  | sendPing nonce =>
    simp [perform, call, Device.quiet_send, Transport.make, Ping.request_packet]
  | sendCustom code payload =>
    simp only [perform, call]
    cases Command.ofCode code with
    | error e => rfl
    | ok command => simp [Device.quiet_send, Transport.make]
  | readText answer => rfl
  | identify => rfl
  | exchange packet => simp [perform, call, Transport.make]
  | dial how => simp [perform, call, Transport.make]

/-- An operation leaves the state that its call leaves. -/
theorem perform_state : (o.perform T (world, device)).state = (o.effect T world device).state := by
  rw [← quiet_perform, Traced.map_apply, Traced.quiet_state]

/-- An operation leaves the events that its call leaves. -/
theorem events_perform :
    events (o.perform T (world, device)).trace = (o.effect T world device).trace := by
  rw [← quiet_perform, Traced.map_apply, Traced.quiet_trace]

end Operation

end BatteryWatch
