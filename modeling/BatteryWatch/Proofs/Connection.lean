import BatteryWatch.Proofs.RoundTrip

/-!
# Connecting

Connecting looks for a device, opens it, holds it in place of the one held before and greets it with
a ping. `Link.quiet_connect_of_opened` says what happens once the device is open, in terms of the
round trip of the ping on the new device (`Link.greeting`), and `Link.connect_law` is the complete
law: three ways to fail that change nothing, one to succeed, and one to fail that leaves no device
held.
-/

namespace BatteryWatch

/-! ## Looking for a device -/

/-- The device at a place is the first in the list with the given numbers. -/
structure Bus.IsFirst (bus : Bus) (target : DeviceId) (place : Nat) (device : BusDevice) :
    Prop where
  listed : bus.devices[place]? = some device
  matching : device.id = target
  earliest : ∀ earlier < place, ∀ d, bus.devices[earlier]? = some d → d.id ≠ target

/-- Looking for a device finds the first one with the given numbers and its place. -/
theorem Bus.find?_eq_some_iff {bus : Bus} {target : DeviceId} {device : BusDevice} {place : Nat} :
    bus.find? target = some (device, place) ↔ bus.IsFirst target place device := by
  unfold Bus.find?
  rw [List.find?_eq_some_iff_getElem]
  constructor
  · rintro ⟨hmatch, i, hi, hentry, hearlier⟩
    rw [List.getElem_zipIdx, Nat.zero_add, Prod.mk.injEq] at hentry
    obtain ⟨hdevice, rfl⟩ := hentry
    rw [List.length_zipIdx] at hi
    refine ⟨List.getElem?_eq_some_iff.mpr ⟨hi, hdevice⟩, eq_of_beq hmatch, ?_⟩
    intro earlier hlt d hd
    obtain ⟨hj, rfl⟩ := List.getElem?_eq_some_iff.mp hd
    have := hearlier earlier hlt
    rw [List.getElem_zipIdx] at this
    simpa using this
  · rintro ⟨hlisted, hmatch, hearlier⟩
    obtain ⟨hi, rfl⟩ := List.getElem?_eq_some_iff.mp hlisted
    refine ⟨beq_iff_eq.mpr hmatch, place, by rwa [List.length_zipIdx], ?_, ?_⟩
    · rw [List.getElem_zipIdx, Nat.zero_add]
    · intro j hj
      rw [List.getElem_zipIdx]
      simpa using hearlier j hj _ (List.getElem?_eq_getElem (by omega))

/-- Nothing is found exactly if no device has the given numbers. -/
theorem Bus.find?_eq_none_iff {bus : Bus} {target : DeviceId} :
    bus.find? target = none ↔ ∀ d ∈ bus.devices, d.id ≠ target := by
  unfold Bus.find?
  rw [List.find?_eq_none]
  constructor
  · intro h d hd
    obtain ⟨i, hi, rfl⟩ := List.mem_iff_getElem.mp hd
    have hmem : (bus.devices[i], i) ∈ bus.devices.zipIdx := by
      rw [List.mk_mem_zipIdx_iff_getElem?]
      exact List.getElem?_eq_getElem hi
    simpa using h _ hmem
  · rintro h ⟨d, i⟩ hmem
    rw [List.mk_mem_zipIdx_iff_getElem?] at hmem
    simpa using h d (List.mem_of_getElem? hmem)

namespace Link

/-! ## The parts of connecting -/

variable (host : Host) (link : Link)

/-- Opening finds out whether there are devices, which is the first that matches, and whether it
can be opened; only a successful opening changes anything. -/
theorem quiet_openFirst (target : DeviceId) :
    (openFirst target).quiet (host, link) =
      match host.bus.listError with
      | some text => ⟨.error (.link (.unavailable text)), (host, link), [.listed]⟩
      | none =>
        match host.bus.find? target with
        | none => ⟨.error (.notFound target), (host, link), [.listed]⟩
        | some (device, place) =>
          match device.openError with
          | some text => ⟨.error (.openFailed text), (host, link), [.listed, .openFailed place]⟩
          | none => ⟨.ok (⟨⟨host.opened, place⟩, none⟩, device),
              ({ host with opened := host.opened + 1 }, link),
              [.listed, .opened ⟨host.opened, place⟩]⟩ := by
  unfold openFirst note setHost
  cases hlist : host.bus.listError with
  | some text => simp [hlist]
  | none =>
    cases hfind : host.bus.find? target with
    | none => simp [hlist, hfind]
    | some found =>
      obtain ⟨device, place⟩ := found
      cases hopen : device.openError with
      | some text => simp [hlist, hfind, hopen]
      | none => simp [hlist, hfind, hopen]

/-- Describing a device reads its three strings and changes nothing. -/
theorem quiet_describe (handle : Handle) (device : BusDevice) :
    (describe handle device).quiet (host, link) =
      ⟨(), (host, link), [.described handle.id .manufacturer, .described handle.id .product,
        .described handle.id .serial]⟩ := by
  unfold describe readDescriptor note
  simp

/-- The closing of the device held, if there is one. -/
def closing (link : Link) : List BusEvent := (link.held.map Handle.id).toList.map .closed

/-- What holds of every closing of a device holds of that of the device held. -/
theorem forall_mem_closing {P : BusEvent → Prop} (hclosed : ∀ g, P (.closed g)) (link : Link) :
    ∀ e ∈ link.closing, P e := by
  intro e he
  obtain ⟨g, -, rfl⟩ := List.mem_map.mp he
  exact hclosed g

/-- Releasing closes the device held and keeps the time to wait. -/
theorem quiet_release :
    release.quiet (host, link) = ⟨(), (host, { link with held := none }), link.closing⟩ := by
  unfold release heldDevice note setHeld closing
  obtain ⟨held, readTimeout⟩ := link
  cases held <;> simp

/-- Giving up the device held is releasing it. -/
theorem quiet_disconnect (s : Host × Link) :
    disconnect.quiet s = ⟨(), (s.1, { s.2 with held := none }), s.2.closing⟩ := by
  unfold disconnect heldDevice
  obtain ⟨host, held, readTimeout⟩ := s
  cases held with
  | none => simp [closing]
  | some handle => simp [quiet_release]

/-- Holding a new device closes the one held before. -/
theorem quiet_hold (handle : Handle) (readTimeout : Duration) :
    (hold handle readTimeout).quiet (host, link) =
      ⟨(), (host, ⟨some handle, readTimeout⟩), link.closing⟩ := by
  unfold hold
  simp [quiet_release]

/-- Why a ping is not accepted as echoed, given what it was answered with, if it is not. -/
def objection (ping : Packet) : Except AnswerError Packet → Option String
  | .error e => some e.message
  | .ok received => if received.payload = ping.payload then none else some Answer.mismatch

/-- There is no objection exactly if the ping came back with its payload. -/
theorem objection_eq_none_iff {ping : Packet} {answer : Except AnswerError Packet} :
    objection ping answer = none ↔
      ∃ received, answer = .ok received ∧ received.payload = ping.payload := by
  cases answer with
  | error e => simp [objection]
  | ok received => simp [objection]

/-- How a handshake ends, given the round trip of its ping: with an objection the device is given
up again. -/
def settled (ping : Packet) (trip : Outcome BusEvent (Host × Link) (Except AnswerError Packet)) :
    Outcome BusEvent (Host × Link) (Except ConnectError Unit) :=
  match objection ping trip.result with
  | none => ⟨.ok (), trip.state, trip.trace⟩
  | some text => ⟨.error (.handshakeFailed text),
      (trip.state.1, { trip.state.2 with held := none }), trip.trace ++ trip.state.2.closing⟩

/-- A settled handshake is its round trip, after which the device is closed if there is an
objection. -/
theorem settled_trace (ping : Packet)
    (trip : Outcome BusEvent (Host × Link) (Except AnswerError Packet)) :
    (settled ping trip).trace =
      trip.trace ++ if (objection ping trip.result).isSome then trip.state.2.closing else [] := by
  unfold settled
  cases objection ping trip.result with
  | none => exact (List.append_nil _).symm
  | some text => rfl

/-- What holds of all that happens in a round trip and of every closing holds of all that happens
when the handshake is settled. -/
theorem forall_mem_settled {P : BusEvent → Prop} {ping : Packet}
    {trip : Outcome BusEvent (Host × Link) (Except AnswerError Packet)}
    (htrip : ∀ e ∈ trip.trace, P e) (hclosed : ∀ g, P (.closed g)) :
    ∀ e ∈ (settled ping trip).trace, P e := by
  rw [settled_trace, List.forall_mem_append]
  refine ⟨htrip, ?_⟩
  split
  · exact forall_mem_closing hclosed _
  · exact List.forall_mem_nil P

/-- Settling a handshake changes nothing on the bus. -/
theorem settled_state_fst (ping : Packet)
    (trip : Outcome BusEvent (Host × Link) (Except AnswerError Packet)) :
    (settled ping trip).state.1 = trip.state.1 := by
  unfold settled
  cases objection ping trip.result <;> rfl

/-- A handshake is the round trip of its ping and its settlement. -/
theorem quiet_shakeHands (ping : Packet) :
    (shakeHands ping).quiet (host, link) = settled ping ((exchange ping).quiet (host, link)) := by
  unfold shakeHands settled
  rw [Traced.quiet_bind, Traced.bind_apply]
  cases hresult : ((exchange ping).quiet (host, link)).result with
  | error e =>
    simp [objection, quiet_disconnect]
  | ok received =>
    -- the command was compared before, so that only the payload is left to be compared
    have hcommand : received.command = ping.command := by
      obtain ⟨_, _, -, -, -, hverdict⟩ := exists_delivery_of_exchange_ok host ping hresult
      exact (Packet.verdict_eq_ok hverdict).2.1
    by_cases hpayload : received.payload = ping.payload
    · simp [Answer.checkEcho, objection, hcommand, hpayload]
    · simp [Answer.checkEcho, objection, hcommand, hpayload, quiet_disconnect]

/-! ## Connecting as a whole -/

/-- The host and the link once a device is opened and held. -/
def taken (host : Host) (place : Nat) (readTimeout : Duration) : Host × Link :=
  ({ host with opened := host.opened + 1 }, ⟨some ⟨⟨host.opened, place⟩, none⟩, readTimeout⟩)

/-- The round trip of the ping on the new device. -/
def greeting (host : Host) (place : Nat) (how : Dial) :
    Outcome BusEvent (Host × Link) (Except AnswerError Packet) :=
  (exchange how.ping).quiet (taken host place how.readTimeout)

/-- What happens on the bus before the ping is sent: the device is opened, described if wanted, and
the one held before is closed. -/
def opening (host : Host) (link : Link) (place : Nat) (how : Dial) : List BusEvent :=
  [.listed, .opened ⟨host.opened, place⟩] ++
  (if how.verbose then [.described ⟨host.opened, place⟩ .manufacturer,
    .described ⟨host.opened, place⟩ .product, .described ⟨host.opened, place⟩ .serial] else []) ++
  link.closing

/-- What holds of listings, of openings, of readings of descriptive strings and of closings holds of
all that happens before the ping is sent. -/
theorem forall_mem_opening {P : BusEvent → Prop} (hlisted : P .listed)
    (hopened : ∀ g, P (.opened g)) (hdescribed : ∀ g kind, P (.described g kind))
    (hclosed : ∀ g, P (.closed g)) (place : Nat) (how : Dial) :
    ∀ e ∈ opening host link place how, P e := by
  rw [opening, List.forall_mem_append, List.forall_mem_append]
  refine ⟨⟨?_, ?_⟩, forall_mem_closing hclosed link⟩
  · simp [hlisted, hopened]
  · split
    · simp [hdescribed]
    · exact List.forall_mem_nil P

/-- The greeting leaves the new device held with the new time to wait. -/
theorem greeting_keeps (place : Nat) (how : Dial) :
    (greeting host place how).state.2.held.map Handle.id = some ⟨host.opened, place⟩ ∧
      (greeting host place how).state.2.readTimeout = how.readTimeout ∧
      (greeting host place how).state.1.opened = host.opened + 1 :=
  exchange_keeps _ how.ping _

/-- Connecting to a device that can be opened holds it in place of the one before and ends with the
handshake. -/
theorem quiet_connect_of_opened {how : Dial} {device : BusDevice} {place : Nat}
    (hlist : host.bus.listError = none) (hfirst : host.bus.IsFirst how.target place device)
    (hopen : device.openError = none) :
    (connect how).quiet (host, link) =
      ⟨(settled how.ping (greeting host place how)).result,
        (settled how.ping (greeting host place how)).state,
        opening host link place how ++ (settled how.ping (greeting host place how)).trace⟩ := by
  unfold connect greeting
  rw [← quiet_shakeHands]
  have hfind := Bus.find?_eq_some_iff.mpr hfirst
  cases hverbose : how.verbose with
  | false => simp [quiet_openFirst, hlist, hfind, hopen, quiet_hold, opening, taken, hverbose]
  | true =>
    simp [quiet_openFirst, hlist, hfind, hopen, quiet_hold, quiet_describe, opening, taken,
      hverbose]

/-- Connecting ends like the opening of the device when that fails. -/
theorem quiet_connect_of_openFirst_error {how : Dial} {e : ConnectError} {es : List BusEvent}
    (h : (openFirst how.target).quiet (host, link) = ⟨.error e, (host, link), es⟩) :
    (connect how).quiet (host, link) = ⟨.error e, (host, link), es⟩ := by
  unfold connect
  simp [h]

/-- All that opening can do: it finds no device, or one that cannot be opened, and changes nothing,
or the first device that matches can be opened. -/
theorem openFirst_cases (target : DeviceId) :
    (∃ e, (openFirst target).quiet (host, link) = ⟨.error e, (host, link), [.listed]⟩) ∨
    (∃ e place,
      (openFirst target).quiet (host, link) =
        ⟨.error e, (host, link), [.listed, .openFailed place]⟩) ∨
    (∃ device place, host.bus.listError = none ∧ host.bus.IsFirst target place device ∧
      device.openError = none) := by
  rw [quiet_openFirst]
  cases hlist : host.bus.listError with
  | some text => exact .inl ⟨_, rfl⟩
  | none =>
    cases hfind : host.bus.find? target with
    | none => exact .inl ⟨_, rfl⟩
    | some found =>
      obtain ⟨device, place⟩ := found
      cases hopen : device.openError with
      | some text =>
        refine .inr (.inl ⟨.openFailed text, place, ?_⟩)
        simp only [hopen]
      | none => exact .inr (.inr ⟨device, place, rfl, Bus.find?_eq_some_iff.mp hfind, hopen⟩)

/-- All that connecting can do: it fails without having opened anything and changes nothing, or it
opens a device and settles the handshake with it. -/
theorem connect_cases (how : Dial) :
    (∃ e, (connect how).quiet (host, link) = ⟨.error e, (host, link), [.listed]⟩) ∨
    (∃ e place,
      (connect how).quiet (host, link) = ⟨.error e, (host, link), [.listed, .openFailed place]⟩) ∨
    (∃ place, (connect how).quiet (host, link) =
      ⟨(settled how.ping (greeting host place how)).result,
        (settled how.ping (greeting host place how)).state,
        opening host link place how ++ (settled how.ping (greeting host place how)).trace⟩) := by
  obtain ⟨e, h⟩ | ⟨e, place, h⟩ | ⟨_, place, hlist, hfirst, hopen⟩ :=
    openFirst_cases host link how.target
  · exact .inl ⟨e, quiet_connect_of_openFirst_error host link h⟩
  · exact .inr (.inl ⟨e, place, quiet_connect_of_openFirst_error host link h⟩)
  · exact .inr (.inr ⟨place, quiet_connect_of_opened host link hlist hfirst hopen⟩)

/-- A settled handshake is successful exactly if the ping came back with its payload. -/
theorem settled_result_eq_ok_iff {ping : Packet}
    {trip : Outcome BusEvent (Host × Link) (Except AnswerError Packet)} :
    (settled ping trip).result = .ok () ↔
      ∃ received, trip.result = .ok received ∧ received.payload = ping.payload := by
  rw [← objection_eq_none_iff]
  unfold settled
  cases objection ping trip.result with
  | none => simp
  | some text => simp

/-- Once the device is open, the ping decides: the new device is held if the ping comes back with
its payload, and closed again if not. -/
theorem connect_of_opened {how : Dial} {device : BusDevice} {place : Nat}
    (hlist : host.bus.listError = none) (hfirst : host.bus.IsFirst how.target place device)
    (hopen : device.openError = none) :
    ((connect how (host, link)).result = .ok () ↔
      ∃ received, (greeting host place how).result = .ok received ∧
        received.payload = how.ping.payload) ∧
    ((connect how (host, link)).result = .ok () →
      (connect how).quiet (host, link) = ⟨.ok (), (greeting host place how).state,
        opening host link place how ++ (greeting host place how).trace⟩) ∧
    ((connect how (host, link)).result ≠ .ok () →
      ∃ text, objection how.ping (greeting host place how).result = some text ∧
        (connect how).quiet (host, link) =
          ⟨.error (.handshakeFailed text),
            ((greeting host place how).state.1, ⟨none, how.readTimeout⟩),
            opening host link place how ++ (greeting host place how).trace ++
              [.closed ⟨host.opened, place⟩]⟩) := by
  have hconnect := quiet_connect_of_opened host link hlist hfirst hopen
  have hresult : (connect how (host, link)).result =
      (settled how.ping (greeting host place how)).result := congrArg Outcome.result hconnect
  rw [hresult, hconnect]
  refine ⟨settled_result_eq_ok_iff, ?_, ?_⟩
  · intro hok
    have hnone := objection_eq_none_iff.mpr (settled_result_eq_ok_iff.mp hok)
    rw [settled, hnone]
  · intro hfailed
    cases hobjection : objection how.ping (greeting host place how).result with
    | none =>
      have hok := settled_result_eq_ok_iff.mpr (objection_eq_none_iff.mp hobjection)
      exact absurd hok hfailed
    | some text =>
      obtain ⟨hheld, htimeout, -⟩ := greeting_keeps host place how
      refine ⟨text, rfl, ?_⟩
      simp only [settled, hobjection, closing, hheld, htimeout, List.append_assoc]
      rfl

/-- The law of connecting, for every state of the host and of the link and every way to connect.

If the devices cannot be listed, none has the wanted numbers, or the first that has them cannot be
opened, then connecting fails with that reason and changes nothing: the device held before stays
held, with its time to wait, and no later match is tried. Otherwise the device held before is
closed, and connecting succeeds exactly if the ping comes back with its payload, which leaves the
new device held with the new time to wait; without that the handshake has failed, the new device is
closed again and none is held. -/
theorem connect_law (how : Dial) :
    (∀ text, host.bus.listError = some text →
      (connect how).quiet (host, link) =
        ⟨.error (.link (.unavailable text)), (host, link), [.listed]⟩) ∧
    (host.bus.listError = none → (∀ d ∈ host.bus.devices, d.id ≠ how.target) →
      (connect how).quiet (host, link) =
        ⟨.error (.notFound how.target), (host, link), [.listed]⟩) ∧
    (host.bus.listError = none → (∃ d ∈ host.bus.devices, d.id = how.target) →
      ∃ place device, host.bus.IsFirst how.target place device ∧
        (∀ text, device.openError = some text →
          (connect how).quiet (host, link) =
            ⟨.error (.openFailed text), (host, link), [.listed, .openFailed place]⟩) ∧
        (device.openError = none →
          ((connect how (host, link)).result = .ok () ↔
            ∃ received, (greeting host place how).result = .ok received ∧
              received.payload = how.ping.payload) ∧
          ((connect how (host, link)).result = .ok () →
            (connect how (host, link)).state.2.held.map Handle.id = some ⟨host.opened, place⟩ ∧
            (connect how (host, link)).state.2.readTimeout = how.readTimeout ∧
            events (connect how (host, link)).trace =
              opening host link place how ++ (greeting host place how).trace) ∧
          ((connect how (host, link)).result ≠ .ok () →
            (∃ text, objection how.ping (greeting host place how).result = some text ∧
              (connect how (host, link)).result = .error (.handshakeFailed text)) ∧
            (connect how (host, link)).state.2 = ⟨none, how.readTimeout⟩ ∧
            events (connect how (host, link)).trace =
              opening host link place how ++ (greeting host place how).trace ++
                [.closed ⟨host.opened, place⟩]))) := by
  refine ⟨?_, ?_, ?_⟩
  · intro text hlist
    apply quiet_connect_of_openFirst_error
    simp [quiet_openFirst, hlist]
  · intro hlist hmissing
    apply quiet_connect_of_openFirst_error
    simp [quiet_openFirst, hlist, Bus.find?_eq_none_iff.mpr hmissing]
  · rintro hlist ⟨d, hd, hmatch⟩
    cases hfind : host.bus.find? how.target with
    | none => exact absurd hmatch (Bus.find?_eq_none_iff.mp hfind d hd)
    | some found =>
      obtain ⟨device, place⟩ := found
      have hfirst := Bus.find?_eq_some_iff.mp hfind
      refine ⟨place, device, hfirst, ?_, ?_⟩
      · intro text hopen
        apply quiet_connect_of_openFirst_error
        simp [quiet_openFirst, hlist, hfind, hopen]
      · intro hopen
        obtain ⟨hiff, hok, hfailed⟩ := connect_of_opened host link hlist hfirst hopen
        obtain ⟨hheld, htimeout, -⟩ := greeting_keeps host place how
        refine ⟨hiff, ?_, ?_⟩
        · intro h
          obtain ⟨-, hstate, htrace⟩ := Traced.of_quiet_eq (hok h)
          rw [hstate]
          exact ⟨hheld, htimeout, htrace⟩
        · intro h
          obtain ⟨text, hobjection, hquiet⟩ := hfailed h
          obtain ⟨hresult, hstate, htrace⟩ := Traced.of_quiet_eq hquiet
          rw [hstate]
          exact ⟨⟨text, hobjection, hresult⟩, rfl, htrace⟩

end Link

end BatteryWatch
