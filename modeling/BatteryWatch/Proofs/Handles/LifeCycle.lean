import BatteryWatch.Proofs.Connection
import BatteryWatch.Proofs.Handles.Ledger
import BatteryWatch.Proofs.Operation
import BatteryWatch.Session

/-!
# The life cycle of handles

Every step of a session on the bus keeps the rules for handles: its events are accepted by the
ledger that has the handle of the link before the step, and lead to the ledger that has the handle
of the link after it (`BusStep.record_perform`). So are whole sessions (`BusStep.record_history`),
and `BusStep.handle_lifeCycle` says what follows for every session and its end.
-/

namespace BatteryWatch

namespace Link

/-- The ledger of a host and a link: of all handles the one held is open. -/
def ledger (s : Host × Link) : Ledger := ⟨s.1.opened, (s.2.held.map Handle.id).toList⟩

/-! ## Calls of the link -/

/-- Closing the device held keeps the rules. -/
theorem record_closing (s : Host × Link) :
    (ledger s).record s.2.closing = some (ledger (s.1, { s.2 with held := none })) := by
  obtain ⟨host, held, readTimeout⟩ := s
  cases held with
  | none => rfl
  | some handle => simp [ledger, closing, Ledger.enter]

/-- A round trip keeps the rules. -/
theorem record_exchange (p : Packet) (s : Host × Link) :
    (ledger s).record ((exchange p).quiet s).trace =
      some (ledger ((exchange p).quiet s).state) := by
  obtain ⟨-, h⟩ | ⟨_, -, -, h⟩ | ⟨handle, hheld, -, h⟩ := exchange_cases s.1 p s.2
  · rw [h]
    rfl
  · rw [h]
    rfl
  · rw [h]
    cases behaviour s.1 handle.id p with
    | error text => simp [ledger, hheld, traffic, Ledger.enter]
    | ok delivery => simp [ledger, hheld, traffic, Ledger.enter]

/-- Settling a handshake keeps the rules if its round trip does. -/
theorem record_settled {l : Ledger} {ping : Packet}
    {trip : Outcome BusEvent (Host × Link) (Except AnswerError Packet)}
    (h : l.record trip.trace = some (ledger trip.state)) :
    l.record (settled ping trip).trace = some (ledger (settled ping trip).state) := by
  unfold settled
  cases objection ping trip.result with
  | none => exact h
  | some text =>
    change l.record (trip.trace ++ trip.state.2.closing) = _
    rw [Ledger.record_append, h]
    exact record_closing trip.state

/-- Opening a device and holding it in place of the one before keeps the rules. -/
theorem record_opening (host : Host) (link : Link) (place : Nat) (how : Dial) :
    (ledger (host, link)).record (opening host link place how) =
      some (ledger (taken host place how.readTimeout)) := by
  obtain ⟨held, readTimeout⟩ := link
  cases hverbose : how.verbose with
  | false =>
    cases held <;> simp [ledger, opening, taken, closing, hverbose, Ledger.enter]
  | true =>
    cases held <;> simp [ledger, opening, taken, closing, hverbose, Ledger.enter]

/-- Connecting keeps the rules. -/
theorem record_connect (how : Dial) (s : Host × Link) :
    (ledger s).record ((connect how).quiet s).trace =
      some (ledger ((connect how).quiet s).state) := by
  obtain ⟨host, link⟩ := s
  obtain ⟨e, h⟩ | ⟨e, place, h⟩ | ⟨place, h⟩ := connect_cases host link how
  · rw [h]
    rfl
  · rw [h]
    rfl
  · rw [h, Ledger.record_append, record_opening]
    exact record_settled (record_exchange how.ping _)

/-- Nothing is opened when the device held is given up. -/
theorem opened_notMem_closing (link : Link) (g : HandleId) : .opened g ∉ link.closing := by
  unfold closing
  simp

/-- Nothing is opened or closed by a round trip. -/
theorem keepsHandles_exchange (p : Packet) (s : Host × Link) :
    ∀ e ∈ ((exchange p).quiet s).trace, e.KeepsHandles := by
  intro e he
  obtain ⟨_, -, -, rfl | rfl⟩ := exists_held_of_mem_exchange he
  · trivial
  · trivial

/-- Every call of the link keeps the rules. -/
theorem record_make (c : Call) (s : Host × Link) :
    (ledger s).record ((transport.make c).quiet s).trace =
      some (ledger ((transport.make c).quiet s).state) := by
  cases c with
  | connect how =>
    rw [Transport.make, Traced.quiet_map, Traced.map_apply]
    exact record_connect how s
  | disconnect =>
    change (ledger s).record (disconnect.quiet s).trace = some (ledger (disconnect.quiet s).state)
    rw [quiet_disconnect]
    exact record_closing s
  | exchange packet =>
    rw [Transport.make, Traced.quiet_map, Traced.map_apply]
    exact record_exchange packet s

/-- Only connecting opens handles. -/
theorem exists_connect_of_opened {c : Call} {s : Host × Link} {g : HandleId}
    (h : .opened g ∈ ((transport.make c).quiet s).trace) : ∃ how, c = .connect how := by
  cases c with
  | connect how => exact ⟨how, rfl⟩
  | disconnect =>
    change .opened g ∈ (disconnect.quiet s).trace at h
    rw [quiet_disconnect] at h
    exact absurd h (opened_notMem_closing s.2 g)
  | exchange packet =>
    rw [Transport.make, Traced.quiet_map, Traced.map_apply] at h
    exact (keepsHandles_exchange packet s _ h).elim

end Link

namespace BusStep

/-! ## Steps of a session -/

/-- The ledger of a session's state. -/
def ledger (s : State) : Ledger := Link.ledger (s.1, s.2.transport)

/-- Exchanging the link closes the device it held. -/
theorem quiet_perform_replace (host : Host) (device : Device Link) :
    replace.perform.quiet (host, device) =
      ⟨.done, (host, { device with transport := Link.fresh Device.stockTimeout }),
        device.transport.closing⟩ := by
  simp [perform, Device.replaceTransport, Link.transport, Link.quiet_release]

/-- Every step of a session keeps the rules for handles. -/
theorem record_perform (step : BusStep) (s : State) :
    (ledger s).record (events (step.perform s).trace) = some (ledger (step.perform s).state) := by
  obtain ⟨host, device⟩ := s
  cases step with
  | operate o =>
    rw [perform, Operation.perform_state, Operation.events_perform, Operation.effect]
    cases o.call device with
    | none => rfl
    | some c => exact Link.record_make c (host, device.transport)
  | replace =>
    rw [← Traced.quiet_trace, ← Traced.quiet_state, quiet_perform_replace]
    exact Link.record_closing (host, device.transport)
  | plug bus => rfl

/-- A step that can open a device. -/
def Connects : BusStep → Prop
  | .operate (.connect _ _) => True
  | .operate (.dial _) => True
  | _ => False

/-- Operations that connect are steps that connect. -/
theorem connects_of_call {o : Operation} {device : Device Link} {how : Dial}
    (h : o.call device = some (.connect how)) : (operate o).Connects := by
  cases o with
  | connect verbose nonce => trivial
  | dial how' => trivial
  | sendCustom code payload =>
    rw [Operation.call] at h
    cases hcode : Command.ofCode code with
    | error e => simp [hcode] at h
    | ok command => simp [hcode] at h
  | _ => cases h

/-- Only steps that connect open handles. -/
theorem connects_of_opened {step : BusStep} {s : State} {g : HandleId}
    (h : .opened g ∈ events (step.perform s).trace) : step.Connects := by
  obtain ⟨host, device⟩ := s
  cases step with
  | operate o =>
    rw [perform, Operation.events_perform, Operation.effect] at h
    cases hcall : o.call device with
    | none =>
      rw [hcall] at h
      cases h
    | some c =>
      rw [hcall] at h
      obtain ⟨how, rfl⟩ := Link.exists_connect_of_opened h
      exact connects_of_call hcall
  | replace =>
    rw [← Traced.quiet_trace, quiet_perform_replace] at h
    exact absurd h (Link.opened_notMem_closing device.transport g)
  | plug bus => cases h

/-! ## Whole sessions -/

/-- What happens on the bus in the steps of a session, its end not counted. -/
def history (steps : List BusStep) (s : State) : List BusEvent :=
  events ((Session.run perform steps s).flatMap (·.trace))

/-- Sessions keep the rules for handles. -/
theorem record_history (steps : List BusStep) (s : State) :
    (ledger s).record (history steps s) = some (ledger (Session.finalState perform steps s)) := by
  induction steps generalizing s with
  | nil => rfl
  | cons step steps ih =>
    change (ledger s).record (events ((step.perform s).trace ++ _)) = _
    rw [events_append, Ledger.record_append, record_perform]
    exact ih (step.perform s).state

/-- The end of a session closes the handle that is still held. -/
theorem events_finish (s : State) : events (finish s).trace = s.2.transport.closing :=
  (Traced.of_quiet_eq (Link.quiet_release s.1 s.2.transport)).2.2

/-- A whole session is its history and its end. -/
theorem events_trace (steps : List BusStep) (s : State) :
    events (trace steps s) =
      history steps s ++ (Session.finalState perform steps s).2.transport.closing := by
  rw [trace, events_append, events_finish]
  rfl

/-- Whole sessions keep the rules for handles and leave no handle open. -/
theorem record_trace (steps : List BusStep) (s : State) :
    ∃ next, (ledger s).record (events (trace steps s)) = some ⟨next, []⟩ := by
  rw [events_trace, Ledger.record_append, record_history]
  exact ⟨_, Link.record_closing _⟩

/-- A moment inside a step, as the ledgers see it: entered from the start of the session or from the
start of the step, with what is left of the step still to be entered. -/
theorem exists_record_at {steps : List BusStep} {s : State} {step : BusStep}
    {done todo : List BusEvent}
    (h : events (step.perform (Session.finalState perform steps s)).trace = done ++ todo) :
    ∃ m, (ledger s).record (history steps s ++ done) = some m ∧
      (ledger (Session.finalState perform steps s)).record done = some m ∧
      m.record todo = some (ledger (step.perform (Session.finalState perform steps s)).state) := by
  have hstep := record_perform step (Session.finalState perform steps s)
  rw [h] at hstep
  obtain ⟨m, hdone, htodo⟩ := Ledger.exists_record_of_append hstep
  refine ⟨m, ?_, hdone, htodo⟩
  rw [Ledger.record_append, record_history]
  exact hdone

/-- Between two steps at most one handle is open. -/
theorem length_ledger_handles_le (s : State) : (ledger s).handles.length ≤ 1 := by
  unfold ledger Link.ledger
  cases s.2.transport.held with
  | none => exact Nat.zero_le 1
  | some handle => exact Nat.le_refl 1

/-- At any moment inside a step at most two handles are open, and two only inside a step that
connects, between the opening of the newer and the closing of the older. -/
theorem openHandles_inside {s : State} (hs : ledger s = Ledger.empty) {steps : List BusStep}
    {step : BusStep} {done todo : List BusEvent}
    (h : events (step.perform (Session.finalState perform steps s)).trace = done ++ todo) :
    (openHandles (history steps s ++ done)).length ≤ 2 ∧
      ((openHandles (history steps s ++ done)).length = 2 →
        step.Connects ∧ ∃ old new, openHandles (history steps s ++ done) = [old, new] ∧
          (∃ before since, done = before ++ .opened new :: since ∧
            ∀ e ∈ since, e.KeepsHandles) ∧
          (∃ between after, todo = between ++ .closed old :: after ∧
            ∀ e ∈ between, e.KeepsHandles)) := by
  have hone := length_ledger_handles_le (Session.finalState perform steps s)
  obtain ⟨m, hwhole, hdone, htodo⟩ := exists_record_at h
  rw [hs] at hwhole
  rw [← Ledger.handles_eq_openHandles hwhole]
  refine ⟨Ledger.length_handles_le hdone (Nat.le_succ_of_le hone), ?_⟩
  intro htwo
  obtain ⟨old, new, hboth⟩ : ∃ old new, m.handles = [old, new] := by
    match m.handles, htwo with
    | [old, new], _ => exact ⟨old, new, rfl⟩
  have hopening := Ledger.exists_opening hdone hone hboth
  have hclosing := Ledger.exists_closing htodo hboth (length_ledger_handles_le _)
  refine ⟨?_, old, new, hboth, hopening, hclosing⟩
  obtain ⟨before, since, rfl, -⟩ := hopening
  have hopened :
      .opened new ∈ events (step.perform (Session.finalState perform steps s)).trace := by
    rw [h]
    simp
  exact connects_of_opened hopened

/-- Bytes are carried over the one open handle, which was held when the step began or was opened in
the course of it. -/
theorem openHandles_of_carried {s : State} (hs : ledger s = Ledger.empty) {steps : List BusStep}
    {step : BusStep} {done todo : List BusEvent} {e : BusEvent} {g : HandleId}
    (h : events (step.perform (Session.finalState perform steps s)).trace = done ++ e :: todo)
    (he : e.CarriedBy g) :
    openHandles (history steps s ++ done) = [g] ∧
      ((Session.finalState perform steps s).2.transport.held.map Handle.id = some g ∨
        step.Connects ∧ .opened g ∈ done) := by
  obtain ⟨m, hwhole, hdone, htodo⟩ := exists_record_at h
  rw [hs] at hwhole
  have honly := Ledger.handles_of_carried htodo he
  rw [← Ledger.handles_eq_openHandles hwhole]
  refine ⟨honly, ?_⟩
  have hmem : g ∈ m.handles := honly ▸ List.mem_singleton_self g
  rcases Ledger.mem_or_opened_of_mem hdone hmem with hheld | hopened
  · exact .inl (Option.mem_toList.mp hheld)
  · have hopened' :
        .opened g ∈ events (step.perform (Session.finalState perform steps s)).trace := by
      rw [h]
      exact List.mem_append_left _ hopened
    exact .inr ⟨connects_of_opened hopened', hopened⟩

/-- The life cycle of handles, in every session on every bus: `steps` are the steps so far, and what
is said of `step` holds inside any further one.

Every handle that is opened is closed exactly once before the session is over, after it was opened,
and nothing else is closed. Between two steps exactly the handle held is open, so that the link is
connected exactly if one handle is open. Inside a step at most two handles are open, and two only
inside one that connects, between the opening of the newer and the closing of the older. Bytes are
written and read only while exactly one handle is open and only over that handle, which was held
when the step began or was opened in the course of it. -/
theorem handle_lifeCycle (bus : Bus) (target : DeviceId) (readTimeout : Duration)
    (steps : List BusStep) :
    let start := initial bus target readTimeout
    let reached := Session.finalState perform steps start
    let past := history steps start
    (∀ g, .opened g ∈ events (trace steps start) →
      (events (trace steps start)).count (.opened g) = 1 ∧
      (events (trace steps start)).count (.closed g) = 1 ∧
      [.opened g, .closed g].Sublist (events (trace steps start))) ∧
    (∀ g, .closed g ∈ events (trace steps start) → .opened g ∈ events (trace steps start)) ∧
    openHandles past = (reached.2.transport.held.map Handle.id).toList ∧
    (openHandles past).length ≤ 1 ∧
    (reached.2.transport.isConnected = true ↔ (openHandles past).length = 1) ∧
    (∀ (step : BusStep) done todo, events (step.perform reached).trace = done ++ todo →
      (openHandles (past ++ done)).length ≤ 2 ∧
      ((openHandles (past ++ done)).length = 2 →
        step.Connects ∧ ∃ old new, openHandles (past ++ done) = [old, new] ∧
          (∃ before since, done = before ++ .opened new :: since ∧
            ∀ e ∈ since, e.KeepsHandles) ∧
          (∃ between after, todo = between ++ .closed old :: after ∧
            ∀ e ∈ between, e.KeepsHandles))) ∧
    (∀ (step : BusStep) done e todo g, events (step.perform reached).trace = done ++ e :: todo →
      e.CarriedBy g → openHandles (past ++ done) = [g] ∧
        (reached.2.transport.held.map Handle.id = some g ∨
          step.Connects ∧ .opened g ∈ done)) := by
  intro start reached past
  have hstart : ledger start = Ledger.empty := rfl
  obtain ⟨next, htrace⟩ := record_trace steps start
  rw [hstart] at htrace
  have hpast : openHandles past = (ledger reached).handles :=
    (Ledger.handles_eq_openHandles (record_history steps start)).symm
  refine ⟨?_, ?_, hpast, hpast ▸ length_ledger_handles_le reached, ?_, ?_, ?_⟩
  · intro g hg
    exact Ledger.opened_and_closed_once htrace rfl hg
  · intro g hg
    obtain ⟨before, after, hsplit⟩ := List.append_of_mem hg
    rw [hsplit] at htrace ⊢
    exact List.mem_append_left _ (Ledger.opened_mem_of_closed htrace)
  · rw [hpast]
    unfold ledger Link.ledger Link.isConnected
    cases reached.2.transport.held with
    | none => simp
    | some handle => simp
  · intro step done todo hstep
    exact openHandles_inside hstart hstep
  · intro step done e todo g hstep he
    exact openHandles_of_carried hstart hstep he

end BusStep

end BatteryWatch
