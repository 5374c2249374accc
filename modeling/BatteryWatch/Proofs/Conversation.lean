import BatteryWatch.Proofs.Handles.LifeCycle
import BatteryWatch.Proofs.Operation

/-!
# Packets sent one after the other

Round trips do not disturb each other. Of the script of the device held a round trip uses up one
reaction if its packet fits a report and none if not (`Link.exchange_uses`), so that after any
number of packets exactly as many reactions are gone as there were packets that fit
(`Link.finalState_exchange`). `Link.conversation_law` says what follows for the answers: each
packet is answered as in a round trip of its own (`Link.isolated`) with the reaction that is due.
-/

namespace BatteryWatch

/-! ## What a device has left to react with -/

/-- The reactions that the device at a place in the list has left. -/
def Bus.script (bus : Bus) (place : Nat) : List Reaction :=
  ((bus.devices[place]?).map (·.script)).getD []

/-- A device reacts with the first reaction it has left, and not at all without one. -/
theorem Bus.reaction_eq (bus : Bus) (place : Nat) :
    bus.reaction place = ((bus.script place)[0]?).getD .silent := by
  unfold Bus.reaction Bus.script
  cases bus.devices[place]? with
  | none => rfl
  | some device => simp [List.head?_eq_getElem?]

/-- A device that has reacted has one reaction less, and the others have what they had. -/
theorem Bus.script_advance (bus : Bus) (place other : Nat) :
    (bus.advance place).script other =
      if other = place then (bus.script other).tail else bus.script other := by
  unfold Bus.advance Bus.script
  rw [List.getElem?_modify]
  by_cases h : place = other
  · subst h
    rw [if_pos rfl]
    cases bus.devices[place]? with
    | none => rfl
    | some device => simp
  · rw [if_neg (Ne.symm h)]
    cases bus.devices[other]? with
    | none => rfl
    | some device => simp [h]

/-- How many of some packets fit a report. -/
def Report.fitting (packets : List Packet) : Nat :=
  packets.countP fun p => decide (p.payload.length ≤ 60)

namespace Link

/-! ## A round trip on its own -/

/-- A host with a single device, which is open, and a link that holds it; the device has one
reaction. -/
def alone (reaction : Reaction) : Host × Link :=
  (⟨⟨none, [⟨.stock, none, fun _ => .absent, [reaction]⟩]⟩, 1⟩,
    ⟨some ⟨⟨0, 0⟩, none⟩, Device.stockTimeout⟩)

/-- What a packet is answered with in a round trip of its own, given the reaction to it. -/
def isolated (p : Packet) (reaction : Reaction) : Except AnswerError Packet :=
  (exchange p (alone reaction)).result

/-- The answer to a packet that fits depends on the reaction to its report alone. -/
theorem isolated_of_fits {p : Packet} (hp : Report.Fits p) (reaction : Reaction) :
    isolated p reaction = answer p (reaction.delivery (Report.ofPacket p)) :=
  congrArg Outcome.result (quiet_exchange_of_fits _ _ _ p hp)

/-- A device that does not react is waited for in vain. -/
theorem isolated_silent {p : Packet} (hp : Report.Fits p) :
    isolated p .silent = .error .timeout := by
  rw [isolated_of_fits hp]
  rfl

/-- What a packet is answered with when `used` reactions of a script are used up before it. -/
def due (script : List Reaction) (used : Nat) (p : Packet) : Except AnswerError Packet :=
  if 60 < p.payload.length then .error (.link (.writeFailed (doesNotFit p)))
  else match script[used]? with
    | some reaction => isolated p reaction
    | none => .error .timeout

/-! ## One round trip after another -/

variable (host : Host) (handle : Handle) (readTimeout : Duration)

/-- A packet is answered with the first reaction that the device held has left. -/
theorem exchange_result (p : Packet) :
    (exchange p (host, ⟨some handle, readTimeout⟩)).result =
      due (host.bus.script handle.id.place) 0 p := by
  rw [← Traced.quiet_result, due]
  by_cases hp : Report.Fits p
  · have hsmall : ¬60 < p.payload.length := Nat.not_lt.mpr hp
    rw [quiet_exchange_of_fits host handle readTimeout p hp, if_neg hsmall]
    change answer p (behaviour host handle.id p) = _
    rw [behaviour, Bus.reaction_eq, ← isolated_of_fits hp]
    cases (host.bus.script handle.id.place)[0]? with
    | none => exact isolated_silent hp
    | some reaction => rfl
  · have hlarge : 60 < p.payload.length := Nat.lt_of_not_le hp
    rw [quiet_exchange_of_not_fits host handle readTimeout p hp, if_pos hlarge]

/-- A round trip keeps the device held and the time to wait; of the reactions of that device it
uses up one if the packet fits and none if not, and of other devices none. -/
theorem exchange_uses (p : Packet) :
    ∃ host' handle', (exchange p (host, ⟨some handle, readTimeout⟩)).state =
        (host', ⟨some handle', readTimeout⟩) ∧ handle'.id = handle.id ∧
      ∀ place, host'.bus.script place =
        if place = handle.id.place then (host.bus.script place).drop (Report.fitting [p])
        else host.bus.script place := by
  rw [← Traced.quiet_state]
  by_cases hp : Report.Fits p
  · have hone : Report.fitting [p] = 1 := by
      have hsmall : p.payload.length ≤ 60 := hp
      simp [Report.fitting, hsmall]
    rw [quiet_exchange_of_fits host handle readTimeout p hp, hone]
    refine ⟨_, _, rfl, rfl, ?_⟩
    intro place
    rw [List.drop_one]
    exact Bus.script_advance _ _ _
  · have hnone : Report.fitting [p] = 0 := by
      have hlarge : 60 < p.payload.length := Nat.lt_of_not_le hp
      simp [Report.fitting, hlarge]
    rw [quiet_exchange_of_not_fits host handle readTimeout p hp, hnone]
    refine ⟨_, _, rfl, rfl, ?_⟩
    intro place
    rw [List.drop_zero, ite_self]

/-- Any number of round trips keep the device held and the time to wait; of the reactions of that
device they use up as many as there are packets that fit, and of other devices none. -/
theorem finalState_exchange (packets : List Packet) :
    ∃ host' handle', Session.finalState exchange packets (host, ⟨some handle, readTimeout⟩) =
        (host', ⟨some handle', readTimeout⟩) ∧ handle'.id = handle.id ∧
      ∀ place, host'.bus.script place =
        if place = handle.id.place then (host.bus.script place).drop (Report.fitting packets)
        else host.bus.script place := by
  induction packets using List.reverseRecOn with
  | nil =>
    refine ⟨host, handle, rfl, rfl, ?_⟩
    intro place
    rw [Report.fitting, List.countP_nil, List.drop_zero, ite_self]
  | append_singleton packets p ih =>
    obtain ⟨host', handle', hstate, hid, hscript⟩ := ih
    obtain ⟨host'', handle'', hstate', hid', hscript'⟩ := exchange_uses host' handle' readTimeout p
    refine ⟨host'', handle'', ?_, hid'.trans hid, ?_⟩
    · rw [Session.finalState_concat, hstate, hstate']
    · intro place
      rw [hscript', hid, hscript]
      by_cases hplace : place = handle.id.place
      · rw [if_pos hplace, if_pos hplace, if_pos hplace, List.drop_drop, Report.fitting,
          Report.fitting, Report.fitting, List.countP_append]
      · rw [if_neg hplace, if_neg hplace, if_neg hplace]

/-- The reactions that are left answer like the whole script with some used up. -/
theorem due_drop (script : List Reaction) (used : Nat) (p : Packet) :
    due (script.drop used) 0 p = due script used p := by
  rw [due, due, List.getElem?_drop, Nat.add_zero]

end Link

/-- Sending requests one after the other is exchanging their packets one after the other. -/
theorem Device.run_send {κ ω τ : Type} (T : Transport κ ω τ) (world : ω) (device : Device τ)
    (requests : List Request) :
    (Session.run (send T) requests (world, device)).map (·.result) =
      (Session.run T.exchange (requests.map (·.packet.value)) (world, device.transport)).map
        (·.result) := by
  induction requests generalizing world device with
  | nil => rfl
  | cons request rest ih =>
    obtain ⟨hresult, hstate, -⟩ := Traced.of_quiet_eq (quiet_send T world device request)
    change (send T request (world, device)).result ::
      (Session.run (send T) rest (send T request (world, device)).state).map (·.result) = _
    rw [hresult, hstate]
    exact congrArg _ (ih _ _)

namespace Link

/-- Round trips do not disturb each other, whatever device is held, whatever packets are sent one
after the other, and whatever script the device follows.

A packet with a payload of more than 60 bytes cannot be written. Every other packet is answered as
in a round trip of its own with the reaction that is due, the one with as many others before it as
packets that fit were sent before, and in vain if the script is used up. In the end the same device
is held with the same time to wait, nothing was opened or closed in between, and exactly as many
reactions are gone as packets that fit were sent, all of them of the device held. The same holds of
requests, which are answered like their packets. -/
theorem conversation_law (host : Host) (handle : Handle) (readTimeout : Duration)
    (packets : List Packet) :
    let start : Host × Link := (host, ⟨some handle, readTimeout⟩)
    let reached := Session.finalState exchange packets start
    let script := host.bus.script handle.id.place
    (∀ i p, packets[i]? = some p →
      ((Session.run exchange packets start)[i]?).map (·.result) = some
        (if 60 < p.payload.length then .error (.link (.writeFailed (doesNotFit p)))
        else match script[(packets.take i).countP fun q => decide (q.payload.length ≤ 60)]? with
          | some reaction => isolated p reaction
          | none => .error .timeout)) ∧
    reached.2.held.map Handle.id = some handle.id ∧ reached.2.readTimeout = readTimeout ∧
    (∀ outcome ∈ Session.run exchange packets start,
      ∀ e ∈ events outcome.trace, e.KeepsHandles) ∧
    reached.1.bus.script handle.id.place =
      script.drop (packets.countP fun q => decide (q.payload.length ≤ 60)) ∧
    (∀ place, place ≠ handle.id.place →
      reached.1.bus.script place = host.bus.script place) ∧
    (∀ (device : Device Link) (requests : List Request), device.transport = start.2 →
      requests.map (·.packet.value) = packets →
      (Session.run (Device.send transport) requests (host, device)).map (·.result) =
        (Session.run exchange packets start).map (·.result)) := by
  intro start reached script
  obtain ⟨host', handle', hreached, hid, hscript⟩ :=
    finalState_exchange host handle readTimeout packets
  have hreached : reached = (host', ⟨some handle', readTimeout⟩) := hreached
  rw [hreached]
  refine ⟨?_, congrArg some hid, rfl, ?_, ?_, ?_, ?_⟩
  · intro i p hp
    obtain ⟨host', handle', hbefore, hid, hscript⟩ :=
      finalState_exchange host handle readTimeout (packets.take i)
    rw [Session.getElem?_run, hp, Option.map_some, Option.map_some, hbefore, exchange_result,
      hid, hscript, if_pos rfl, due_drop]
    rfl
  · intro outcome houtcome
    obtain ⟨before, p, after, -, rfl⟩ := Session.exists_of_mem_run exchange houtcome
    rw [← Traced.quiet_trace]
    exact keepsHandles_exchange p _
  · rw [hscript, if_pos rfl]
    rfl
  · intro place hplace
    rw [hscript, if_neg hplace]
  · rintro device requests hdevice rfl
    rw [Device.run_send, hdevice]
    rfl

end Link

end BatteryWatch
