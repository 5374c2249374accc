import BatteryWatch.Proofs.Handshake
import BatteryWatch.Proofs.StatusReading
import BatteryWatch.Proofs.Watching.Planned

/-!
# Watching over the bus

What is written to the devices when a device is connected to, watched and given up. A packet that
fits is written once to the device held (`Link.writes_exchange`); connecting writes the ping to the
device that it opens and nothing else (`Device.writes_connect`), and a chain of polls writes one
request each to the device held and neither opens nor closes a handle (`Link.polls_on_handle`).
-/

namespace BatteryWatch

/-! ## Writes -/

/-- The report that is written in an event, with the handle to which it is written. -/
def BusEvent.write? : BusEvent → Option (HandleId × List UInt8)
  | .wrote handle bytes => some (handle, bytes)
  | _ => none

/-- The reports that are written in some events, each with the handle to which it is written. -/
def writes (es : List BusEvent) : List (HandleId × List UInt8) := es.filterMap BusEvent.write?

/-- A report is among the writes exactly if it is written in one of the events. -/
theorem mem_writes {g : HandleId} {report : List UInt8} {es : List BusEvent} :
    (g, report) ∈ writes es ↔ .wrote g report ∈ es := by
  rw [writes, List.mem_filterMap]
  constructor
  · rintro ⟨e, he, hwrite⟩
    cases e with
    | wrote g' report' =>
      cases hwrite
      exact he
    | _ => cases hwrite
  · intro h
    exact ⟨_, h, rfl⟩

/-- The writes of some events and then of others. -/
theorem writes_append (es later : List BusEvent) :
    writes (es ++ later) = writes es ++ writes later :=
  List.filterMap_append

namespace Link

/-- Closing a device writes nothing. -/
theorem writes_closing (link : Link) : writes link.closing = [] := by
  unfold closing
  cases link.held with
  | none => rfl
  | some handle => rfl

/-- A packet that fits is written once, to the device held. -/
theorem writes_exchange {p : Packet} (hp : Report.Fits p) {s : Host × Link} {handle : HandleId}
    (hheld : s.2.held.map Handle.id = some handle) :
    writes ((exchange p).quiet s).trace = [(handle, Report.ofPacket p)] := by
  obtain ⟨host, held, readTimeout⟩ := s
  obtain ⟨handle, rfl, rfl⟩ := Option.map_eq_some_iff.mp hheld
  rw [quiet_exchange_of_fits host handle readTimeout p hp]
  cases behaviour host handle.id p <;> rfl

variable (host : Host) (link : Link)

/-- Before its ping is sent, a connection writes nothing. -/
theorem writes_opening (place : Nat) (how : Dial) : writes (opening host link place how) = [] := by
  rw [opening, writes_append, writes_append, writes_closing]
  cases how.verbose <;> rfl

/-- The greeting writes the ping to the new device. -/
theorem writes_greeting {how : Dial} (hping : Report.Fits how.ping) (place : Nat) :
    writes (greeting host place how).trace =
      [(⟨host.opened, place⟩, Report.ofPacket how.ping)] :=
  writes_exchange hping rfl

/-- A connection writes nothing or the ping to the device that it opens. -/
theorem writes_connect {how : Dial} (hping : Report.Fits how.ping) :
    writes ((connect how).quiet (host, link)).trace = [] ∨
      ∃ place, writes ((connect how).quiet (host, link)).trace =
        [(⟨host.opened, place⟩, Report.ofPacket how.ping)] := by
  obtain ⟨_, h⟩ | ⟨_, _, h⟩ | ⟨place, h⟩ := connect_cases host link how
  · rw [h]
    exact .inl rfl
  · rw [h]
    exact .inl rfl
  · right
    refine ⟨place, ?_⟩
    rw [h, writes_append, writes_opening, settled_trace, writes_append,
      writes_greeting host hping place]
    split
    · rw [writes_closing]
      rfl
    · rfl

/-- A connection that is established is the opening of a device and its greeting. -/
theorem quiet_connect_of_ok {how : Dial} (hok : (connect how (host, link)).result = .ok ()) :
    ∃ place, (connect how).quiet (host, link) =
      ⟨.ok (), (greeting host place how).state,
        opening host link place how ++ (greeting host place how).trace⟩ := by
  rw [← Traced.quiet_result] at hok
  obtain ⟨_, h⟩ | ⟨_, _, h⟩ | ⟨place, h⟩ := connect_cases host link how
  · rw [h] at hok
    cases hok
  · rw [h] at hok
    cases hok
  · rw [h] at hok
    have hnone := objection_eq_none_iff.mpr (settled_result_eq_ok_iff.mp hok)
    refine ⟨place, ?_⟩
    rw [h, settled, hnone]

/-- The exchange of a poll without its log. -/
theorem quiet_exchange_of_exchanged {p : Monitor.Poll BusEvent} {s next : Host × Link}
    (h : transport.exchange p.request.packet s = ⟨p.answer, next, p.trace⟩) :
    (exchange p.request.packet).quiet s = ⟨p.answer, next, events p.trace⟩ := by
  change exchange p.request.packet s = _ at h
  rw [Traced.quiet, h]

/-- A chain of polls keeps the device held, writes the request of each poll to it, and neither opens
nor closes a handle. -/
theorem polls_on_handle {first last : Host × Link} {polls : List (Monitor.Poll BusEvent)}
    (h : Monitor.Chain transport first polls last) {handle : HandleId}
    (hheld : first.2.held.map Handle.id = some handle) :
    last.2.held.map Handle.id = some handle ∧
      writes (polls.flatMap fun p => events p.trace) =
        polls.map (fun p => (handle, Report.ofPacket p.request.packet)) ∧
      ∀ e ∈ polls.flatMap (fun p => events p.trace), e.KeepsHandles := by
  induction h with
  | nil s => exact ⟨hheld, rfl, by simp⟩
  | @cons s next _ p polls exchanged _ ih =>
    have hquiet := quiet_exchange_of_exchanged exchanged
    have hnext : next.2.held.map Handle.id = some handle := by
      have hkeeps := (exchange_keeps s.1 p.request.packet s.2).1
      rw [← Traced.quiet_state, hquiet] at hkeeps
      exact hkeeps.trans hheld
    have hwrites := writes_exchange p.request.fits_packet hheld
    have hkeeps := keepsHandles_exchange p.request.packet s
    rw [hquiet] at hwrites hkeeps
    obtain ⟨hlast, hrest, hclosed⟩ := ih hnext
    rw [List.flatMap_cons, writes_append, hrest, List.forall_mem_append]
    exact ⟨hlast, congrArg (· ++ _) hwrites, hkeeps, hclosed⟩

end Link

namespace Device

variable (host : Host) (device : Device Link) (verbose : Bool) (nonce : Nonce)

/-- Connecting a device writes nothing or the ping to the device that is opened. -/
theorem writes_connect :
    let es := events (connect Link.transport verbose nonce (host, device)).trace
    writes es = [] ∨
      ∃ handle, writes es = [(handle, Report.ofPacket (Ping.packet ⟨nonce⟩))] := by
  intro es
  have hes : es = _ := (connect_parts host device verbose nonce).2.2
  rw [hes]
  have hping : Report.Fits (device.dial verbose nonce).ping := Ping.fits_packet ⟨nonce⟩
  obtain h | ⟨place, h⟩ := Link.writes_connect host device.transport hping
  · exact .inl h
  · exact .inr ⟨_, h⟩

/-- A device that held nothing and is connected holds a handle to which the ping was written, and
nothing was closed. -/
theorem connected_on_handle (hfresh : device.transport.held = none)
    (hok : (connect Link.transport verbose nonce (host, device)).result = .ok ()) :
    let o := connect Link.transport verbose nonce (host, device)
    ∃ handle, o.state.2.transport.held.map Handle.id = some handle ∧
      writes (events o.trace) = [(handle, Report.ofPacket (Ping.packet ⟨nonce⟩))] ∧
      ∀ g, .closed g ∉ events o.trace := by
  intro o
  obtain ⟨hresult, hstate, htrace⟩ := connect_parts host device verbose nonce
  have hlink : (Link.connect (device.dial verbose nonce) (host, device.transport)).result =
      .ok () :=
    hresult.symm.trans hok
  obtain ⟨place, h⟩ := Link.quiet_connect_of_ok host device.transport hlink
  rw [h] at hstate htrace
  obtain ⟨hheld, -, -⟩ := Link.greeting_keeps host place (device.dial verbose nonce)
  refine ⟨⟨host.opened, place⟩, ?_, ?_, ?_⟩
  · change (connect Link.transport verbose nonce (host, device)).state.2.transport.held.map _ = _
    rw [hstate]
    exact hheld
  · change writes (events (connect Link.transport verbose nonce (host, device)).trace) = _
    rw [htrace, writes_append, Link.writes_opening,
      Link.writes_greeting host (Ping.fits_packet ⟨nonce⟩) place]
    rfl
  · intro g hclosed
    change _ ∈ events (connect Link.transport verbose nonce (host, device)).trace at hclosed
    rw [htrace, List.mem_append] at hclosed
    rcases hclosed with hopening | hgreeting
    · simp [Link.opening, Link.closing, hfresh] at hopening
    · exact Link.keepsHandles_exchange _ _ _ hgreeting

end Device

end BatteryWatch
