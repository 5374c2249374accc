import BatteryWatch.Proofs.Operation
import BatteryWatch.Proofs.StatusLayout
import BatteryWatch.Proofs.WireFormat

/-!
# What a device asks of its transport

A device adds nothing to its transport and hides nothing of it. To count the calls that are made to
a transport it is replaced by one that is overheard (`Transport.overheard`): before it does what it
does, every call is left in the trace, together with the state in which the call finds the
transport. `Device.Passes` says that an action on a device is one call and otherwise what the
transport makes of it, `Device.Silent` that it makes none. `Device.delegation_law` says which holds
of which action, after any actions on any transport, and which calls a whole run makes.
-/

namespace BatteryWatch

variable {κ ω τ α : Type}

/-! ## Overheard transports -/

/-- What an overheard transport leaves in the trace: the calls made to it and its own events. -/
inductive Overheard (κ τ : Type) where
  /-- A call, and the transport to which it is made. -/
  | call (transport : τ) (c : Call)
  | event (e : κ)

/-- The call that is overheard, if it is one. -/
def Overheard.call? : Overheard κ τ → Option (τ × Call)
  | .call transport c => some (transport, c)
  | .event _ => none

/-- The calls that are overheard in a trace, each with the transport to which it is made. -/
def calls (trace : List (Entry (Overheard κ τ))) : List (τ × Call) :=
  (events trace).filterMap Overheard.call?

namespace Transport

/-- Leaves a call in the trace and then does what the transport does. -/
def hear (c : Call) (x : Traced (Entry κ) (ω × τ) α) :
    Traced (Entry (Overheard κ τ)) (ω × τ) α := do
  Traced.emit (.event (.call (← Traced.get).2 c))
  Traced.relabel (Entry.map .event) x

/-- The same transport, overheard. Ending it is no call. -/
def overheard (T : Transport κ ω τ) : Transport (Overheard κ τ) ω τ where
  connect how := hear (.connect how) (T.connect how)
  disconnect := hear .disconnect T.disconnect
  exchange packet := hear (.exchange packet) (T.exchange packet)
  discard := Traced.relabel (Entry.map .event) T.discard

end Transport

/-- No call is overheard among the events of a transport. -/
theorem calls_map_event (trace : List (Entry κ)) :
    calls (trace.map (Entry.map (Overheard.event (τ := τ)))) = [] := by
  rw [calls, events_map_map, List.filterMap_map]
  exact List.filterMap_eq_nil_iff.mpr fun _ _ => rfl

namespace Device

/-! ## Setting up a device -/

/-- What can be set before a device is used. -/
inductive Setting where
  | target (id : DeviceId)
  | readTimeout (d : Duration)

/-- The numbers that are set, if they are. -/
def Setting.target? : Setting → Option DeviceId
  | .target id => some id
  | .readTimeout _ => none

/-- The time that is set, if it is. -/
def Setting.readTimeout? : Setting → Option Duration
  | .target _ => none
  | .readTimeout d => some d

/-- The device after one setting. -/
def set (device : Device τ) : Setting → Device τ
  | .target id => device.withTarget id
  | .readTimeout d => device.withReadTimeout d

/-- The device after some settings, the first made first. -/
def configure (device : Device τ) (settings : List Setting) : Device τ := settings.foldl set device

/-- The last setting of the numbers counts. -/
theorem configure_target (device : Device τ) (settings : List Setting) :
    (device.configure settings).target =
      (settings.filterMap Setting.target?).getLast?.getD device.target := by
  induction settings generalizing device with
  | nil => rfl
  | cons setting settings ih =>
    change ((device.set setting).configure settings).target = _
    rw [ih]
    cases setting with
    | target id => simp [set, withTarget, Setting.target?, List.getLast?_cons]
    | readTimeout d => simp [set, withReadTimeout, Setting.target?]

/-- The last setting of the time counts. -/
theorem configure_readTimeout (device : Device τ) (settings : List Setting) :
    (device.configure settings).readTimeout =
      (settings.filterMap Setting.readTimeout?).getLast?.getD device.readTimeout := by
  induction settings generalizing device with
  | nil => rfl
  | cons setting settings ih =>
    change ((device.set setting).configure settings).readTimeout = _
    rw [ih]
    cases setting with
    | target id => simp [set, withTarget, Setting.readTimeout?]
    | readTimeout d => simp [set, withReadTimeout, Setting.readTimeout?, List.getLast?_cons]

/-! ## Using a device -/

/-- What can be done with a device. -/
inductive Action (τ : Type) where
  | connect (verbose : Bool) (nonce : Nonce)
  | disconnect
  /-- Asks for the battery status with the given changes and keeps the raw answer. -/
  | queryBattery (startCharging stopCharging usbScreenPower batteryScreenPower : Bool)
    (chargeVoltage : UInt16) (stopForceCharge : Bool)
  /-- Asks for the battery status and reads the answer. -/
  | readBattery (request : BatteryRequest)
  | send (request : Request)
  /-- Reads the text in an answer. -/
  | readText (answer : Packet)
  /-- Asks for the numbers of the device to look for. -/
  | identify
  /-- Exchanges the transport for another one. -/
  | replace (transport : τ)

namespace Action

/-- Acts on a device. -/
def perform (T : Transport κ ω τ) : Action τ → Traced (Entry κ) (ω × Device τ) Reply
  | .connect verbose nonce => .connection <$> Device.connect T verbose nonce
  | .disconnect => (fun _ => .done) <$> Device.disconnect T
  | .queryBattery start stop usb battery voltage stopForce =>
    .answer <$> Device.queryBattery T start stop usb battery voltage stopForce
  | .readBattery request => .status <$> Device.readBattery T request
  | .send request => .answer <$> Device.send T request
  | .readText answer => return .text answer.text
  | .identify => return .identity (← Traced.get).2.target
  | .replace transport => (fun _ => .done) <$> Device.replaceTransport T transport

/-- The call to the transport that an action on a device with given settings stands for, if it
stands for one. -/
def call? (target : DeviceId) (readTimeout : Duration) : Action τ → Option Call
  | .connect verbose nonce => some (.connect ⟨verbose, target, readTimeout, Ping.packet ⟨nonce⟩⟩)
  | .disconnect => some .disconnect
  | .queryBattery start stop usb battery voltage stopForce =>
    some (.exchange (BatteryRequest.packet ⟨start, stop, usb, battery, voltage, stopForce⟩))
  | .readBattery request => some (.exchange request.packet)
  | .send request => some (.exchange request.packet.value)
  | .readText _ => none
  | .identify => none
  | .replace _ => none

end Action

variable (T : Transport κ ω τ)

/-- Overhearing the transport changes nothing of an action but what is heard. -/
def Unaffected (action : Action τ) (s : ω × Device τ) : Prop :=
  (action.perform T.overheard s).result = (action.perform T s).result ∧
    (action.perform T.overheard s).state = (action.perform T s).state

/-- An action that is one call to the transport held: it makes this call and no other, its reply is
made of the result of the call, it leaves the state that the call leaves, with the settings of the
device as they were, and it causes what the call causes. -/
structure Passes (action : Action τ) (s : ω × Device τ) (c : Call)
    (x : Traced (Entry κ) (ω × τ) α) (reply : α → Reply) : Prop where
  called : calls (action.perform T.overheard s).trace = [(s.2.transport, c)]
  unaffected : Unaffected T action s
  replied : (action.perform T s).result = reply (x (s.1, s.2.transport)).result
  left : (action.perform T s).state =
    ((x (s.1, s.2.transport)).state.1,
      { s.2 with transport := (x (s.1, s.2.transport)).state.2 })
  caused : events (action.perform T s).trace = events (x (s.1, s.2.transport)).trace

/-- An action that makes no call to any transport: it gives a reply, leaves a state and causes
something. -/
structure Silent (action : Action τ) (s : ω × Device τ) (reply : Reply) (left : ω × Device τ)
    (caused : List κ) : Prop where
  called : calls (action.perform T.overheard s).trace = []
  unaffected : Unaffected T action s
  replied : (action.perform T s).result = reply
  left : (action.perform T s).state = left
  caused : events (action.perform T s).trace = caused

variable {T}

/-- An action that is one call on any transport is that call, overheard or not. -/
theorem Passes.of_quiet {action : Action τ} {s : ω × Device τ} {c : Call} {reply : α → Reply}
    (x : ∀ κ' : Type, Transport κ' ω τ → Traced (Entry κ') (ω × τ) α)
    (heard : x _ T.overheard = Transport.hear c (x κ T))
    (hquiet : ∀ κ' (T' : Transport κ' ω τ),
      (action.perform T').quiet s = (reply <$> (onTransport (x κ' T')).quiet) s) :
    Passes T action s c (x κ T) reply := by
  have hplain := hquiet κ T
  have hoverheard := hquiet _ T.overheard
  rw [Traced.map_apply] at hplain hoverheard
  obtain ⟨hresult, hstate, hevents⟩ := Traced.of_quiet_eq hplain
  rw [heard] at hoverheard
  obtain ⟨hresult', hstate', hcalls⟩ := Traced.of_quiet_eq hoverheard
  refine ⟨?_, ⟨hresult'.trans hresult.symm, hstate'.trans hstate.symm⟩, hresult, hstate, hevents⟩
  have htrace : ((onTransport (Transport.hear c (x κ T))).quiet s).trace =
      .call s.2.transport c ::
        events ((x κ T (s.1, s.2.transport)).trace.map (Entry.map Overheard.event)) := rfl
  rw [calls, hcalls, htrace, List.filterMap_cons]
  change (s.2.transport, c) :: calls _ = _
  rw [calls_map_event]

/-! ## Every action -/

variable (T) (s : ω × Device τ)

/-- Connecting passes the settings on. -/
theorem passes_connect (verbose : Bool) (nonce : Nonce) :
    Passes T (.connect verbose nonce) s
      (.connect ⟨verbose, s.2.target, s.2.readTimeout, Ping.packet ⟨nonce⟩⟩)
      (T.connect ⟨verbose, s.2.target, s.2.readTimeout, Ping.packet ⟨nonce⟩⟩) .connection := by
  refine .of_quiet (fun _ T' =>
    T'.connect ⟨verbose, s.2.target, s.2.readTimeout, Ping.packet ⟨nonce⟩⟩) rfl ?_
  intro κ' T'
  rw [Action.perform, Traced.quiet_map, Traced.map_apply, Traced.map_apply, quiet_connect]

/-- Disconnecting is passed on. -/
theorem passes_disconnect : Passes T .disconnect s .disconnect T.disconnect fun _ => .done := by
  refine .of_quiet (fun _ T' => T'.disconnect) rfl ?_
  intro κ' T'
  rw [Action.perform, Traced.quiet_map, Device.disconnect]

/-- Sending a request passes its packet on. -/
theorem passes_send (request : Request) :
    Passes T (.send request) s (.exchange request.packet.value)
      (T.exchange request.packet.value) .answer := by
  refine .of_quiet (fun _ T' => T'.exchange request.packet.value) rfl ?_
  intro κ' T'
  rw [Action.perform, Traced.quiet_map, Traced.map_apply, Traced.map_apply, quiet_send]

/-- Asking for the battery status with six values passes the request on that has them. -/
theorem passes_queryBattery (r : BatteryRequest) :
    Passes T (.queryBattery r.startCharging r.stopCharging r.usbScreenPower r.batteryScreenPower
      r.chargeVoltage r.stopForceCharge) s (.exchange r.packet) (T.exchange r.packet) .answer := by
  refine .of_quiet (fun _ T' => T'.exchange r.packet) rfl ?_
  intro κ' T'
  rw [Action.perform, Traced.quiet_map, Traced.map_apply, Traced.map_apply, queryBattery_eq,
    quiet_send, BatteryRequest.request_packet]

/-- The reply of a reading: the status in the answer, or why there is none. -/
theorem status_statusOf :
    (fun answer => Reply.status (statusOf answer)) = fun
      | .error e => .status (.error (.answer e))
      | .ok answer =>
        match BatteryStatus.ofBytes answer.payload with
        | .ok status => .status (.ok status)
        | .error e => .status (.error (.malformed e)) := by
  funext answer
  cases answer with
  | error e => rfl
  | ok answer =>
    cases hread : BatteryStatus.ofBytes answer.payload with
    | error e =>
      simp only [statusOf, hread]
      rfl
    | ok status =>
      simp only [statusOf, hread]
      rfl

/-- Reading the battery passes the request on and reads the answer. -/
theorem passes_readBattery (request : BatteryRequest) :
    Passes T (.readBattery request) s (.exchange request.packet)
      (T.exchange request.packet) fun answer => .status (statusOf answer) := by
  refine .of_quiet (fun _ T' => T'.exchange request.packet) rfl ?_
  intro κ' T'
  rw [Action.perform, Traced.quiet_map, Traced.map_apply, Traced.map_apply, quiet_readBattery,
    Traced.map_apply]

/-- Reading a text leaves everything alone. -/
theorem silent_readText (answer : Packet) :
    Silent T (.readText answer) s (.text answer.text) s [] :=
  ⟨rfl, ⟨rfl, rfl⟩, rfl, rfl, rfl⟩

/-- Asking for the numbers of the device leaves everything alone. -/
theorem silent_identify : Silent T .identify s (.identity s.2.target) s [] :=
  ⟨rfl, ⟨rfl, rfl⟩, rfl, rfl, rfl⟩

/-- Exchanging the transport ends the one held before, and keeps the settings. -/
theorem silent_replace (transport : τ) :
    Silent T (.replace transport) s .done
      ((T.discard (s.1, s.2.transport)).state.1, { s.2 with transport })
      (events (T.discard (s.1, s.2.transport)).trace) := by
  obtain ⟨world, device⟩ := s
  have htrace {κ' : Type} (T' : Transport κ' ω τ) :
      (Action.perform T' (.replace transport) (world, device)).trace =
        (T'.discard (world, device.transport)).trace := by
    simp [Action.perform, replaceTransport]
  refine ⟨?_, ⟨rfl, rfl⟩, rfl, rfl, congrArg events (htrace T)⟩
  rw [htrace]
  exact calls_map_event _

/-! ## Whole runs -/

/-- An action makes the call it stands for, to the transport held, and no other. -/
theorem calls_perform (action : Action τ) :
    calls (action.perform T.overheard s).trace =
      ((action.call? s.2.target s.2.readTimeout).map (s.2.transport, ·)).toList := by
  cases action with
  | connect verbose nonce => exact (passes_connect T s verbose nonce).called
  | disconnect => exact (passes_disconnect T s).called
  | queryBattery start stop usb battery voltage stopForce =>
    exact (passes_queryBattery T s ⟨start, stop, usb, battery, voltage, stopForce⟩).called
  | readBattery request => exact (passes_readBattery T s request).called
  | send request => exact (passes_send T s request).called
  | readText answer => exact (silent_readText T s answer).called
  | identify => exact (silent_identify T s).called
  | replace transport => exact (silent_replace T s transport).called

/-- Overhearing a transport changes no reply and no state. -/
theorem unaffected_perform (action : Action τ) : Unaffected T action s := by
  cases action with
  | connect verbose nonce => exact (passes_connect T s verbose nonce).unaffected
  | disconnect => exact (passes_disconnect T s).unaffected
  | queryBattery start stop usb battery voltage stopForce =>
    exact (passes_queryBattery T s ⟨start, stop, usb, battery, voltage, stopForce⟩).unaffected
  | readBattery request => exact (passes_readBattery T s request).unaffected
  | send request => exact (passes_send T s request).unaffected
  | readText answer => exact (silent_readText T s answer).unaffected
  | identify => exact (silent_identify T s).unaffected
  | replace transport => exact (silent_replace T s transport).unaffected

/-- No action changes the settings of the device. -/
theorem perform_settings (action : Action τ) :
    (action.perform T s).state.2.target = s.2.target ∧
      (action.perform T s).state.2.readTimeout = s.2.readTimeout := by
  cases action with
  | connect verbose nonce =>
    rw [(passes_connect T s verbose nonce).left]
    exact ⟨rfl, rfl⟩
  | disconnect =>
    rw [(passes_disconnect T s).left]
    exact ⟨rfl, rfl⟩
  | queryBattery start stop usb battery voltage stopForce =>
    rw [(passes_queryBattery T s ⟨start, stop, usb, battery, voltage, stopForce⟩).left]
    exact ⟨rfl, rfl⟩
  | readBattery request =>
    rw [(passes_readBattery T s request).left]
    exact ⟨rfl, rfl⟩
  | send request =>
    rw [(passes_send T s request).left]
    exact ⟨rfl, rfl⟩
  | readText answer => exact ⟨rfl, rfl⟩
  | identify => exact ⟨rfl, rfl⟩
  | replace transport => exact ⟨rfl, rfl⟩

/-- No run changes the settings of the device. -/
theorem finalState_settings (actions : List (Action τ)) :
    (Session.finalState (Action.perform T) actions s).2.target = s.2.target ∧
      (Session.finalState (Action.perform T) actions s).2.readTimeout = s.2.readTimeout := by
  induction actions generalizing s with
  | nil => exact ⟨rfl, rfl⟩
  | cons action actions ih =>
    obtain ⟨htarget, htimeout⟩ := ih (action.perform T s).state
    obtain ⟨htarget', htimeout'⟩ := perform_settings T s action
    exact ⟨htarget.trans htarget', htimeout.trans htimeout'⟩

/-- Overhearing the transport changes nothing of a run but what is heard, and what is heard are the
calls that the actions stand for, one after the other. -/
theorem run_overheard (actions : List (Action τ)) :
    (Session.run (Action.perform T.overheard) actions s).map (·.result) =
        (Session.run (Action.perform T) actions s).map (·.result) ∧
      Session.finalState (Action.perform T.overheard) actions s =
        Session.finalState (Action.perform T) actions s ∧
      ((Session.run (Action.perform T.overheard) actions s).flatMap fun o =>
        (calls o.trace).map Prod.snd) =
        actions.filterMap (Action.call? s.2.target s.2.readTimeout) := by
  induction actions generalizing s with
  | nil => exact ⟨rfl, rfl, rfl⟩
  | cons action actions ih =>
    obtain ⟨hresult, hstate⟩ := unaffected_perform T s action
    obtain ⟨htarget, htimeout⟩ := perform_settings T s action
    obtain ⟨hresults, hfinal, hcalls⟩ := ih (action.perform T s).state
    rw [htarget, htimeout] at hcalls
    refine ⟨?_, ?_, ?_⟩
    · rw [Session.run, Session.run, List.map_cons, List.map_cons, hresult, hstate, hresults]
    · change Session.finalState (Action.perform T.overheard) actions
        (action.perform T.overheard s).state = _
      rw [hstate, hfinal]
      rfl
    · rw [Session.run, List.flatMap_cons, hstate, hcalls, calls_perform, List.filterMap_cons]
      cases action.call? s.2.target s.2.readTimeout <;> rfl

/-- A device adds nothing to its transport and hides nothing of it, whatever the transport, the
settings and the actions before.

A run makes exactly the calls that its actions stand for, in their order, and no others, whatever
they are answered with. Connecting, disconnecting and the three ways to send make one call, to the
transport held at that moment; the other actions make none. The settings stay as they were made,
the last of each kind counting, with the stock values for those never made: connecting passes them
on with a ping that carries the nonce. Results of the transport are replied as they are, but for the
battery status, which is read from the answer or fails because the transport did or because the
answer is too short. -/
theorem delegation_law (world : ω) (transport : τ) (settings : List Setting)
    (actions : List (Action τ)) :
    let start := (world, (stock transport).configure settings)
    let target := (settings.filterMap Setting.target?).getLast?.getD ⟨0x1209, 0x4321⟩
    let readTimeout := (settings.filterMap Setting.readTimeout?).getLast?.getD (.ofMillis 4000)
    let reached := Session.finalState (Action.perform T) actions start
    ((Session.run (Action.perform T.overheard) actions start).flatMap fun o =>
      (calls o.trace).map Prod.snd) = actions.filterMap (Action.call? target readTimeout) ∧
    (Session.run (Action.perform T.overheard) actions start).map (·.result) =
      (Session.run (Action.perform T) actions start).map (·.result) ∧
    Session.finalState (Action.perform T.overheard) actions start = reached ∧
    reached.2.target = target ∧ reached.2.readTimeout = readTimeout ∧
    (∀ verbose nonce,
      let ping := Ping.packet ⟨nonce⟩
      ping.command = 0x0001 ∧ ping.payload = [nonce.b₀, nonce.b₁, nonce.b₂, nonce.b₃] ∧
      Passes T (.connect verbose nonce) reached (.connect ⟨verbose, target, readTimeout, ping⟩)
        (T.connect ⟨verbose, target, readTimeout, ping⟩) .connection) ∧
    Passes T .disconnect reached .disconnect T.disconnect (fun _ => .done) ∧
    (∀ request : Request,
      let packet := request.packet.value
      packet.command = request.command.code ∧ packet.payload = request.payload.take 65535 ∧
      Passes T (.send request) reached (.exchange packet) (T.exchange packet) .answer) ∧
    (∀ request : BatteryRequest,
      let packet := request.packet
      packet.command = 0x800C ∧ packet.payload = request.payload ∧
      Passes T (.queryBattery request.startCharging request.stopCharging request.usbScreenPower
        request.batteryScreenPower request.chargeVoltage request.stopForceCharge) reached
        (.exchange packet) (T.exchange packet) .answer ∧
      Passes T (.readBattery request) reached (.exchange packet) (T.exchange packet) fun
        | .error e => .status (.error (.answer e))
        | .ok answer =>
          match BatteryStatus.ofBytes answer.payload with
          | .ok status => .status (.ok status)
          | .error e => .status (.error (.malformed e))) ∧
    (∀ payload e, BatteryStatus.ofBytes payload = .error e ↔
      payload.length < 20 ∧ e = .tooShort 20 payload.length) ∧
    (∀ answer, Silent T (.readText answer) reached (.text answer.text) reached []) ∧
    Silent T .identify reached (.identity target) reached [] ∧
    (∀ other, Silent T (.replace other) reached .done
      ((T.discard (reached.1, reached.2.transport)).state.1, { reached.2 with transport := other })
      (events (T.discard (reached.1, reached.2.transport)).trace)) := by
  intro start target readTimeout reached
  obtain ⟨htarget, htimeout⟩ := finalState_settings T start actions
  have hstart : start.2.target = target ∧ start.2.readTimeout = readTimeout :=
    ⟨configure_target _ settings, configure_readTimeout _ settings⟩
  rw [hstart.1] at htarget
  rw [hstart.2] at htimeout
  obtain ⟨hresults, hfinal, hcalls⟩ := run_overheard T start actions
  rw [hstart.1, hstart.2] at hcalls
  refine ⟨hcalls, hresults, hfinal, htarget, htimeout, ?_, passes_disconnect T reached, ?_, ?_,
    fun _ _ => BatteryStatus.ofBytes_eq_error_iff, silent_readText T reached, ?_,
    silent_replace T reached⟩
  · intro verbose nonce ping
    have hconnect := passes_connect T reached verbose nonce
    rw [htarget, htimeout] at hconnect
    exact ⟨rfl, rfl, hconnect⟩
  · intro request packet
    obtain ⟨hcommand, hpayload⟩ :=
      Packet.truncating_value request.command.code (some request.payload)
    exact ⟨hcommand, hpayload, passes_send T reached request⟩
  · intro request packet
    have hread := passes_readBattery T reached request
    rw [status_statusOf] at hread
    exact ⟨rfl, rfl, passes_queryBattery T reached request, hread⟩
  · have hidentify := silent_identify T reached
    rwa [htarget] at hidentify

end Device

end BatteryWatch
