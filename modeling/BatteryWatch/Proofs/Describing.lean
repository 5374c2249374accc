import BatteryWatch.Proofs.Handles.LifeCycle

/-!
# Describing devices

Connecting may describe the device in the log, for which it reads three descriptive strings. That is
all that it does besides: with the description and without it, a connection ends in the same way,
and the readings come right after the opening (`Link.connect_described`). So whole sessions are the
same but for these readings, whichever of their connections describe the device
(`BusStep.run_terse`). Nor does it matter what the strings are or whether they can be read
(`Link.quiet_connect_nameless`). `Link.describing_law` puts this together.
-/

namespace BatteryWatch

/-! ## Readings of descriptive strings -/

/-- Whether an event is the reading of a descriptive string. -/
def BusEvent.isDescription : BusEvent → Bool
  | .described _ _ => true
  | _ => false

/-- The readings that describe a device. -/
def descriptions (g : HandleId) : List BusEvent :=
  [.described g .manufacturer, .described g .product, .described g .serial]

/-- Some events without the readings of descriptive strings. -/
def undescribed (es : List BusEvent) : List BusEvent := es.filter fun e => !e.isDescription

/-- Events among which there is no reading stay as they are. -/
theorem undescribed_eq_self {es : List BusEvent} (h : ∀ e ∈ es, e.isDescription = false) :
    undescribed es = es := by
  rw [undescribed, List.filter_eq_self]
  intro e he
  rw [h e he]
  rfl

/-- Of the readings that describe a device nothing is left. -/
theorem undescribed_descriptions_append (g : HandleId) (es : List BusEvent) :
    undescribed (descriptions g ++ es) = undescribed es := rfl

namespace Outcome

variable {σ α : Type}

/-- What is left behind, without the log. -/
def seen (o : Outcome (Entry BusEvent) σ α) : Outcome BusEvent σ α :=
  ⟨o.result, o.state, events o.trace⟩

/-- What is left behind, without the readings of descriptive strings. -/
def undescribed (o : Outcome BusEvent σ α) : Outcome BusEvent σ α :=
  ⟨o.result, o.state, BatteryWatch.undescribed o.trace⟩

end Outcome

namespace Link

/-- Closing a device reads no descriptive string. -/
theorem isDescription_of_mem_closing (link : Link) : ∀ e ∈ link.closing, e.isDescription = false :=
  forall_mem_closing (fun _ => rfl) link

/-- A round trip reads no descriptive string. -/
theorem isDescription_of_mem_exchange {p : Packet} {s : Host × Link} {e : BusEvent}
    (he : e ∈ ((exchange p).quiet s).trace) : e.isDescription = false := by
  obtain ⟨_, -, -, rfl | rfl⟩ := exists_held_of_mem_exchange he
  · rfl
  · rfl

/-! ## Connecting with a description and without -/

/-- Describing changes nothing of a connection but that three strings are read right after the
opening, if there is one: everything else is the same with the description and without it. -/
theorem connect_described (host : Host) (link : Link) (how : Dial) :
    (∃ e es, (∀ verbose,
        (connect { how with verbose }).quiet (host, link) = ⟨.error e, (host, link), es⟩) ∧
      (∀ e ∈ es, e.isDescription = false) ∧ ∀ g, .opened g ∉ es) ∨
    (∃ g result state rest, (∀ verbose,
        (connect { how with verbose }).quiet (host, link) =
          ⟨result, state,
            .listed :: .opened g :: ((if verbose then descriptions g else []) ++ rest)⟩) ∧
      ∀ e ∈ rest, e.isDescription = false) := by
  obtain ⟨e, h⟩ | ⟨e, place, h⟩ | ⟨_, place, hlist, hfirst, hopen⟩ :=
    openFirst_cases host link how.target
  · refine .inl ⟨e, _, fun verbose => quiet_connect_of_openFirst_error host link h, ?_, ?_⟩
    · simp [BusEvent.isDescription]
    · simp
  · refine .inl ⟨e, _, fun verbose => quiet_connect_of_openFirst_error host link h, ?_, ?_⟩
    · simp [BusEvent.isDescription]
    · simp
  · refine .inr ⟨⟨host.opened, place⟩, (settled how.ping (greeting host place how)).result,
      (settled how.ping (greeting host place how)).state,
      link.closing ++ (settled how.ping (greeting host place how)).trace, ?_, ?_⟩
    · -- the greeting is the same either way, for it does not look at the verbosity
      intro verbose
      have hconnect : (connect { how with verbose }).quiet (host, link) = _ :=
        quiet_connect_of_opened host link hlist hfirst hopen
      rw [hconnect, opening, List.append_assoc, List.append_assoc]
      rfl
    · rw [List.forall_mem_append]
      constructor
      · exact isDescription_of_mem_closing link
      · exact forall_mem_settled (fun e he => isDescription_of_mem_exchange he) fun _ => rfl

end Link

/-- The same way to connect with a description. -/
def Dial.wordy (how : Dial) : Dial := { how with verbose := true }

/-- The same way to connect without a description. -/
def Dial.terse (how : Dial) : Dial := { how with verbose := false }

/-- A connection without a description is the same connection without its readings. -/
theorem Link.quiet_connect_terse (how : Dial) (s : Host × Link) :
    (connect how.terse).quiet s = ((connect how).quiet s).undescribed := by
  obtain ⟨e, es, h, hes, -⟩ | ⟨g, result, state, rest, h, hrest⟩ := connect_described s.1 s.2 how
  · rw [Dial.terse, h, h how.verbose, Outcome.undescribed, undescribed_eq_self hes]
  · have hundescribed : undescribed ((if how.verbose then descriptions g else []) ++ rest) =
        rest := by
      split
      · rw [undescribed_descriptions_append, undescribed_eq_self hrest]
      · exact undescribed_eq_self hrest
    rw [Dial.terse, h, h how.verbose, Outcome.undescribed]
    change _ = Outcome.mk _ _ (_ :: _ :: undescribed _)
    rw [hundescribed]
    rfl

/-! ## Sessions -/

/-- The same operation without a description. -/
def Operation.terse : Operation → Operation
  | .connect _ nonce => .connect false nonce
  | .dial how => .dial how.terse
  | o => o

namespace BusStep

/-- The same step without a description. -/
def terse : BusStep → BusStep
  | .operate o => .operate o.terse
  | step => step

/-- A step that does not connect describes no device. -/
theorem terse_of_not_connects {step : BusStep} (h : ¬step.Connects) : step.terse = step := by
  cases step with
  | operate o =>
    cases o with
    | connect verbose nonce => exact absurd trivial h
    | dial how => exact absurd trivial h
    | _ => rfl
  | _ => rfl

/-- A step that does not connect reads no descriptive string. -/
theorem isDescription_of_mem_perform {step : BusStep} {s : State} (h : ¬step.Connects)
    {e : BusEvent} (he : e ∈ (step.perform.quiet s).trace) : e.isDescription = false := by
  obtain ⟨host, device⟩ := s
  cases step with
  | operate o =>
    rw [Traced.quiet_trace, perform, Operation.events_perform, Operation.effect] at he
    cases hcall : o.call device with
    | none =>
      rw [hcall] at he
      cases he
    | some c =>
      rw [hcall] at he
      cases c with
      | connect how => exact absurd (connects_of_call hcall) h
      | disconnect =>
        change e ∈ (Link.disconnect.quiet (host, device.transport)).trace at he
        rw [Link.quiet_disconnect] at he
        exact Link.isDescription_of_mem_closing _ e he
      | exchange packet =>
        change e ∈ (((fun _ => ()) <$> Link.exchange packet).quiet (host, device.transport)).trace
          at he
        rw [Traced.quiet_map, Traced.map_apply] at he
        exact Link.isDescription_of_mem_exchange he
  | replace =>
    rw [quiet_perform_replace] at he
    exact Link.isDescription_of_mem_closing _ e he
  | plug bus => cases he

/-- Connecting over the link directly is connecting the link. -/
theorem quiet_perform_dial (how : Dial) (host : Host) (device : Device Link) :
    (operate (.dial how)).perform.quiet (host, device) =
      ⟨.connection ((Link.connect how).quiet (host, device.transport)).result,
        (((Link.connect how).quiet (host, device.transport)).state.1,
          { device with transport := ((Link.connect how).quiet (host, device.transport)).state.2 }),
        ((Link.connect how).quiet (host, device.transport)).trace⟩ := by
  rw [perform, Operation.perform, Traced.quiet_map, Traced.map_apply, Device.quiet_onTransport,
    Device.onTransport_apply]
  rfl

/-- Connecting a device is connecting over its link with what the device is set to. -/
theorem quiet_perform_connect (verbose : Bool) (nonce : Nonce) (host : Host)
    (device : Device Link) :
    (operate (.connect verbose nonce)).perform.quiet (host, device) =
      (operate (.dial ⟨verbose, device.target, device.readTimeout,
        Ping.packet ⟨nonce⟩⟩)).perform.quiet (host, device) := by
  rw [perform, Operation.perform, Traced.quiet_map, Traced.map_apply, Device.quiet_connect]
  rw [perform, Operation.perform, Traced.quiet_map, Traced.map_apply]

/-- A step without a description is the same step without its readings. -/
theorem quiet_perform_terse (step : BusStep) (s : State) :
    step.terse.perform.quiet s = (step.perform.quiet s).undescribed := by
  obtain ⟨host, device⟩ := s
  have hdial (how : Dial) :
      (operate (.dial how.terse)).perform.quiet (host, device) =
        ((operate (.dial how)).perform.quiet (host, device)).undescribed := by
    rw [quiet_perform_dial, quiet_perform_dial, Link.quiet_connect_terse]
    rfl
  by_cases hconnects : step.Connects
  · match step, hconnects with
    | .operate (.dial how), _ => exact hdial how
    | .operate (.connect verbose nonce), _ =>
      rw [quiet_perform_connect, ← hdial]
      exact quiet_perform_connect false nonce host device
  · rw [terse_of_not_connects hconnects, Outcome.undescribed,
      undescribed_eq_self fun e he => isDescription_of_mem_perform hconnects he]

/-- Without any description, a session is the same session without its readings. -/
theorem run_terse (steps : List BusStep) (s : State) :
    (Session.run perform (steps.map terse) s).map Outcome.seen =
      (Session.run perform steps s).map fun o => o.seen.undescribed := by
  induction steps generalizing s with
  | nil => rfl
  | cons step steps ih =>
    have hstep := quiet_perform_terse step s
    have hstate : (step.terse.perform s).state = (step.perform s).state := by
      rw [← Traced.quiet_state, hstep]
      rfl
    change (step.terse.perform s).seen ::
      (Session.run perform (steps.map terse) (step.terse.perform s).state).map Outcome.seen = _
    rw [hstate, ih]
    exact congrArg (· :: _) hstep

end BusStep

/-! ## What the descriptive strings say -/

/-- The same device without descriptive strings. -/
def BusDevice.nameless (device : BusDevice) : BusDevice :=
  { device with descriptor := fun _ => .absent }

namespace Bus

/-- The same bus without descriptive strings. -/
def nameless (bus : Bus) : Bus := { bus with devices := bus.devices.map BusDevice.nameless }

/-- Devices react without descriptive strings as they do with them. -/
theorem reaction_nameless (bus : Bus) (place : Nat) :
    bus.nameless.reaction place = bus.reaction place := by
  unfold reaction nameless
  rw [List.getElem?_map]
  cases bus.devices[place]? <;> rfl

/-- A reaction leaves the descriptive strings alone. -/
theorem advance_nameless (bus : Bus) (place : Nat) :
    bus.nameless.advance place = (bus.advance place).nameless := by
  unfold advance nameless
  refine congrArg (Bus.mk bus.listError) (List.ext_getElem? fun i => ?_)
  simp only [List.getElem?_map, List.getElem?_modify]
  cases bus.devices[i]? with
  | none => rfl
  | some device =>
    change some (if place = i then _ else _) = some (BusDevice.nameless (if _ then _ else _))
    split
    · rfl
    · rfl

/-- Devices are found without descriptive strings where they are found with them. -/
theorem find?_nameless (bus : Bus) (target : DeviceId) :
    bus.nameless.find? target =
      (bus.find? target).map fun found => (found.1.nameless, found.2) := by
  unfold find? nameless
  rw [List.zipIdx_map, List.find?_map]
  rfl

end Bus

/-- The same host without descriptive strings. -/
def Host.nameless (host : Host) : Host := { host with bus := host.bus.nameless }

/-- What is left behind on a host without descriptive strings. -/
def Outcome.nameless {α : Type} (o : Outcome BusEvent (Host × Link) α) :
    Outcome BusEvent (Host × Link) α :=
  ⟨o.result, (o.state.1.nameless, o.state.2), o.trace⟩

namespace Link

variable (host : Host) (link : Link)

/-- Devices behave without descriptive strings as they do with them. -/
theorem behaviour_nameless (handle : HandleId) (p : Packet) :
    behaviour host.nameless handle p = behaviour host handle p := by
  rw [behaviour, behaviour, Host.nameless, Bus.reaction_nameless]

/-- A round trip does not depend on descriptive strings. -/
theorem quiet_exchange_nameless (p : Packet) :
    (exchange p).quiet (host.nameless, link) = ((exchange p).quiet (host, link)).nameless := by
  obtain ⟨held, readTimeout⟩ := link
  cases held with
  | none =>
    rw [quiet_exchange_of_unheld, quiet_exchange_of_unheld]
    rfl
  | some handle =>
    by_cases hp : Report.Fits p
    · rw [quiet_exchange_of_fits _ _ _ _ hp, quiet_exchange_of_fits _ _ _ _ hp,
        behaviour_nameless, Outcome.nameless]
      simp only [Host.nameless, Bus.advance_nameless]
    · rw [quiet_exchange_of_not_fits _ _ _ _ hp, quiet_exchange_of_not_fits _ _ _ _ hp]
      rfl

/-- Settling a handshake does not depend on descriptive strings. -/
theorem settled_nameless (ping : Packet)
    (trip : Outcome BusEvent (Host × Link) (Except AnswerError Packet)) :
    settled ping trip.nameless = (settled ping trip).nameless := by
  unfold settled Outcome.nameless
  cases objection ping trip.result with
  | none => rfl
  | some text => rfl

/-- Opening a device does not depend on descriptive strings. -/
theorem quiet_openFirst_nameless (target : DeviceId) :
    (openFirst target).quiet (host.nameless, link) =
      ⟨((openFirst target).quiet (host, link)).result.map fun found => (found.1, found.2.nameless),
        (((openFirst target).quiet (host, link)).state.1.nameless,
          ((openFirst target).quiet (host, link)).state.2),
        ((openFirst target).quiet (host, link)).trace⟩ := by
  have hlist : host.nameless.bus.listError = host.bus.listError := rfl
  have hfind : host.nameless.bus.find? target = _ := Bus.find?_nameless host.bus target
  rw [quiet_openFirst, quiet_openFirst, hlist, hfind]
  cases host.bus.listError with
  | some text => rfl
  | none =>
    cases host.bus.find? target with
    | none => rfl
    | some found =>
      obtain ⟨⟨id, openError, descriptor, script⟩, place⟩ := found
      cases openError with
      | some text => rfl
      | none => rfl

/-- Connecting does not depend on descriptive strings. -/
theorem quiet_connect_nameless (how : Dial) :
    (connect how).quiet (host.nameless, link) = ((connect how).quiet (host, link)).nameless := by
  have hfailed {e : ConnectError} {es : List BusEvent}
      (h : (openFirst how.target).quiet (host, link) = ⟨.error e, (host, link), es⟩) :
      (connect how).quiet (host.nameless, link) =
        ((connect how).quiet (host, link)).nameless := by
    have hnameless : (openFirst how.target).quiet (host.nameless, link) =
        ⟨.error e, (host.nameless, link), es⟩ := by
      rw [quiet_openFirst_nameless, h]
      rfl
    rw [quiet_connect_of_openFirst_error _ _ h, quiet_connect_of_openFirst_error _ _ hnameless]
    rfl
  obtain ⟨_, h⟩ | ⟨_, _, h⟩ | ⟨device, place, hlist, hfirst, hopen⟩ :=
    openFirst_cases host link how.target
  · exact hfailed h
  · exact hfailed h
  · have hnameless : host.nameless.bus.IsFirst how.target place device.nameless := by
      have hfind : host.nameless.bus.find? how.target = _ := Bus.find?_nameless _ _
      rw [← Bus.find?_eq_some_iff, hfind, Bus.find?_eq_some_iff.mpr hfirst]
      rfl
    have hgreeting : greeting host.nameless place how = (greeting host place how).nameless :=
      quiet_exchange_nameless (taken host place how.readTimeout).1
        (taken host place how.readTimeout).2 how.ping
    rw [quiet_connect_of_opened _ link hlist hfirst hopen,
      quiet_connect_of_opened host.nameless link hlist hnameless hopen, hgreeting,
      settled_nameless]
    rfl

/-- Hosts that differ in the descriptive strings of their devices only are connected alike. -/
theorem connect_of_nameless_eq {host host' : Host} (h : host'.nameless = host.nameless)
    (how : Dial) :
    (connect how (host', link)).result = (connect how (host, link)).result ∧
      (connect how (host', link)).state.1.nameless =
        (connect how (host, link)).state.1.nameless ∧
      (connect how (host', link)).state.2 = (connect how (host, link)).state.2 ∧
      events (connect how (host', link)).trace = events (connect how (host, link)).trace := by
  -- both are what happens on the host without any strings
  have hsame : ((connect how).quiet (host', link)).nameless =
      ((connect how).quiet (host, link)).nameless := by
    rw [← quiet_connect_nameless, ← quiet_connect_nameless, h]
  have hresult := congrArg Outcome.result hsame
  have hstate := congrArg Outcome.state hsame
  have hhost := congrArg Prod.fst hstate
  have hlink := congrArg Prod.snd hstate
  have htrace := congrArg Outcome.trace hsame
  exact ⟨hresult, hhost, hlink, htrace⟩

/-! ## The law of describing -/

/-- The law of describing, for every state of the host and of the link and every way to connect.

Connecting with a description and without it has the same result and leaves the host and the link in
the same state, and on the bus the same happens but for the readings of descriptive strings. Without
a description there are none; with it the three strings of the device are read once each, right
after it is opened, and if none is opened nothing is read. So sessions in which no connection
describes the device are those in which any do, step by step, without these readings. What the
strings say, and whether they can be read at all, makes no difference. -/
theorem describing_law (how : Dial) :
    (connect how.wordy (host, link)).result = (connect how.terse (host, link)).result ∧
    (connect how.wordy (host, link)).state = (connect how.terse (host, link)).state ∧
    undescribed (events (connect how.wordy (host, link)).trace) =
      events (connect how.terse (host, link)).trace ∧
    (∀ e ∈ events (connect how.terse (host, link)).trace, e.isDescription = false) ∧
    ((events (connect how.wordy (host, link)).trace =
          events (connect how.terse (host, link)).trace ∧
        ∀ g, .opened g ∉ events (connect how.terse (host, link)).trace) ∨
      ∃ g rest,
        events (connect how.terse (host, link)).trace = .listed :: .opened g :: rest ∧
        events (connect how.wordy (host, link)).trace =
          .listed :: .opened g :: .described g .manufacturer :: .described g .product ::
            .described g .serial :: rest) ∧
    (∀ (steps : List BusStep) (s : BusStep.State),
      (Session.run BusStep.perform (steps.map BusStep.terse) s).map Outcome.seen =
        (Session.run BusStep.perform steps s).map fun o => o.seen.undescribed) ∧
    ∀ host' : Host, host'.nameless = host.nameless →
      (connect how (host', link)).result = (connect how (host, link)).result ∧
      (connect how (host', link)).state.1.nameless =
        (connect how (host, link)).state.1.nameless ∧
      (connect how (host', link)).state.2 = (connect how (host, link)).state.2 ∧
      events (connect how (host', link)).trace = events (connect how (host, link)).trace := by
  have hterse : (connect how.terse).quiet (host, link) = _ :=
    quiet_connect_terse how.wordy (host, link)
  refine ⟨(congrArg Outcome.result hterse).symm, (congrArg Outcome.state hterse).symm,
    (congrArg Outcome.trace hterse).symm, ?_, ?_, BusStep.run_terse,
    fun host' h => connect_of_nameless_eq link h how⟩
  · intro e he
    have hundescribed : e ∈ undescribed (events (connect how.wordy (host, link)).trace) := by
      rwa [← Traced.quiet_trace, hterse] at he
    simpa using (List.mem_filter.mp hundescribed).2
  · obtain ⟨_, es, h, -, hopened⟩ | ⟨g, _, _, rest, h, -⟩ := connect_described host link how
    · have hwordy : events (connect how.wordy (host, link)).trace = es :=
        congrArg Outcome.trace (h true)
      have hes : events (connect how.terse (host, link)).trace = es :=
        congrArg Outcome.trace (h false)
      rw [hwordy, hes]
      exact .inl ⟨rfl, hopened⟩
    · exact .inr ⟨g, rest, congrArg Outcome.trace (h false), congrArg Outcome.trace (h true)⟩

end Link

end BatteryWatch
