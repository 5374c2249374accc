import BatteryWatch.Program
import BatteryWatch.Proofs.Connection
import BatteryWatch.Proofs.Log.Transfers
import BatteryWatch.Proofs.Watching.Run

/-!
# Steps that tell what they do

A step tells what it does if its records narrate its events on the bus (`Outcome.Tells`). Steps that
tell are composed (`Traced.tells_bind`), so that each step of the program is shown to tell from its
parts: a round trip (`Link.tells_exchange`), connecting, a poll, any number of polls
(`Monitor.tells_follow`) and a whole session (`Program.tells_session`).
-/

namespace BatteryWatch

/-! ## Steps that tell -/

variable {κ τ α β : Type}

/-- What a step leaves behind tells of what it did on the bus, given which of its events are on the
bus. -/
def Outcome.Tells (link? : κ → Option BusEvent) (bus : Bus)
    (o : Outcome (Entry κ) (Host × τ) α) : Prop :=
  Narrates bus (records o.trace) ((events o.trace).filterMap link?) o.state.1.bus

/-- An entry that has nothing to do with transfers. -/
def Entry.IsStill : Entry BusEvent → Prop
  | .record r => r.IsAside
  | .event e => e.isIdle = true

/-- Without transfers there is nothing to tell. -/
theorem Outcome.tells_of_still {bus : Bus} {o : Outcome (Entry BusEvent) (Host × τ) α}
    (hstill : ∀ entry ∈ o.trace, entry.IsStill) (hbus : o.state.1.bus = bus) :
    o.Tells some bus := by
  obtain ⟨result, state, trace⟩ := o
  obtain rfl : state.1.bus = bus := hbus
  change Narrates _ (records trace) ((events trace).filterMap some) _
  rw [List.filterMap_some]
  induction trace with
  | nil => exact .nil _
  | cons entry trace ih =>
    obtain ⟨hentry, hrest⟩ := List.forall_mem_cons.mp hstill
    cases entry with
    | record r => exact .aside hentry (ih hrest)
    | event e => exact .idle hentry (ih hrest)

namespace Traced

variable {link? : κ → Option BusEvent} {s : Host × τ}

/-- To do nothing is to have nothing to tell. -/
theorem tells_pure (a : α) (s : Host × τ) :
    ((pure a : Traced (Entry κ) (Host × τ) α) s).Tells link? s.1.bus :=
  .nil _

/-- One step and then another tell if both do. -/
theorem tells_bind {x : Traced (Entry κ) (Host × τ) α} {f : α → Traced (Entry κ) (Host × τ) β}
    (hx : (x s).Tells link? s.1.bus)
    (hf : (f (x s).result (x s).state).Tells link? (x s).state.1.bus) :
    ((x >>= f) s).Tells link? s.1.bus := by
  unfold Outcome.Tells
  rw [bind_trace, records_append, events_append, List.filterMap_append]
  exact hx.append hf

/-- What is said beside the transfers may be said at any time. -/
theorem tells_log {level : Log.Level} {source : Log.Source} {text : String}
    (h : Log.Record.IsAside ⟨level, source, text⟩) (s : Host × τ) :
    ((log level source text : Traced (Entry κ) (Host × τ) Unit) s).Tells link? s.1.bus :=
  .aside h (.nil _)

/-- What happens elsewhere is not told. -/
theorem tells_emit {e : κ} (h : link? e = none) (s : Host × τ) :
    ((emit (.event e) : Traced (Entry κ) (Host × τ) Unit) s).Tells link? s.1.bus := by
  unfold Outcome.Tells
  rw [emit_apply, events_cons_event, List.filterMap_cons_none h]
  exact .nil _

/-- A step that tells does so under other labels as well. -/
theorem tells_relabel {κ' : Type} {link?' : κ' → Option BusEvent} {label : κ → κ'}
    (hlabel : ∀ e, link?' (label e) = link? e) {x : Traced (Entry κ) (Host × τ) α}
    (hx : (x s).Tells link? s.1.bus) :
    (relabel (Entry.map label) x s).Tells link?' s.1.bus := by
  have hevents : (events ((x s).trace.map (Entry.map label))).filterMap link?' =
      (events (x s).trace).filterMap link? := by
    rw [events_map_map, List.filterMap_map]
    exact congrArg (List.filterMap · _) (funext hlabel)
  unfold Outcome.Tells
  rw [relabel_apply, records_map_map, hevents]
  exact hx

/-- Replaying a value tells if nothing but asides were logged while it was made. -/
theorem tells_replay {x : Logged α} (h : ∀ r ∈ x.records, r.IsAside) (s : Host × τ) :
    ((x.replay : Traced (Entry κ) (Host × τ) α) s).Tells link? s.1.bus := by
  change Narrates _ (records (x.records.map Entry.record ++ []))
    ((events (x.records.map Entry.record ++ [])).filterMap link?) _
  rw [List.append_nil, records_map_record, events_map_record]
  exact .asides h _

end Traced

namespace Link

open Traced

/-- Opening a device transfers nothing. -/
theorem tells_openFirst (target : DeviceId) (s : Host × Link) :
    (openFirst target s).Tells some s.1.bus := by
  obtain ⟨host, link⟩ := s
  have hfound (device : BusDevice) :
      Log.Record.IsAside ⟨.debug, .link, "Found device: " ++ listing device.id⟩ := by
    refine ⟨Nat.le_refl _, ?_⟩
    simp [Log.Record.isTransfer, List.isPrefixOf]
  have hstill : (∀ entry ∈ (openFirst target (host, link)).trace, entry.IsStill) ∧
      (openFirst target (host, link)).state.1.bus = host.bus := by
    unfold openFirst note setHost
    cases hlist : host.bus.listError with
    | some text => simp [hlist, Entry.IsStill, BusEvent.isIdle]
    | none =>
      cases hfind : host.bus.find? target with
      | none => simp [hlist, hfind, Entry.IsStill, BusEvent.isIdle]
      | some found =>
        obtain ⟨device, place⟩ := found
        cases hopen : device.openError with
        | some text => simp [hlist, hfind, hopen, hfound, Entry.IsStill, BusEvent.isIdle]
        | none => simp [hlist, hfind, hopen, hfound, Entry.IsStill, BusEvent.isIdle]
  exact Outcome.tells_of_still hstill.1 hstill.2

/-- Describing a device transfers nothing. -/
theorem tells_describe (handle : Handle) (device : BusDevice) (s : Host × Link) :
    (describe handle device s).Tells some s.1.bus := by
  have hdescribed (text : String) : Log.Record.IsAside ⟨.info, .link, text⟩ :=
    Log.Record.isAside_of_rank_lt (by decide)
  refine Outcome.tells_of_still ?_ rfl
  unfold describe readDescriptor note
  simp [hdescribed, Entry.IsStill, BusEvent.isIdle]

/-- Giving up a device transfers nothing. -/
theorem tells_release (s : Host × Link) : (release s).Tells some s.1.bus := by
  obtain ⟨host, held, readTimeout⟩ := s
  cases held with
  | none => exact .nil _
  | some handle => exact .idle rfl (.nil _)

/-- Giving up a device with a word about it transfers nothing. -/
theorem tells_disconnect (s : Host × Link) : (disconnect s).Tells some s.1.bus := by
  obtain ⟨host, held, readTimeout⟩ := s
  cases held with
  | none => exact .nil _
  | some handle =>
    have haside : Log.Record.IsAside ⟨.info, .link, "Device disconnected"⟩ :=
      Log.Record.isAside_of_rank_lt (by decide)
    exact .idle rfl (.aside haside (.nil _))

/-- Holding a device in place of another transfers nothing. -/
theorem tells_hold (handle : Handle) (readTimeout : Duration) (s : Host × Link) :
    (hold handle readTimeout s).Tells some s.1.bus :=
  tells_bind (tells_release s) (.nil _)

variable (host : Host) (handle : Handle) (readTimeout : Duration) (p : Packet)

/-- Writing a packet that fits is told. -/
theorem records_sendReport_of_fits (hp : Report.Fits p) :
    records (sendReport p (host, ⟨some handle, readTimeout⟩)).trace =
      [(Transfer.sent (Report.ofPacket p)).record] := by
  unfold sendReport heldDevice write note setHost setHeld
  cases hd : (host.bus.reaction handle.id.place).delivery (Report.ofPacket p) with
  | error text => simp [hp, hd, Transfer.record]
  | ok delivery => simp [hp, hd, Transfer.record]

/-- Reading is told if anything is read. -/
theorem records_readReport (delivery : Delivery) :
    records (readReport
        (host, ⟨some { handle with pending := some delivery }, readTimeout⟩)).trace =
      (delivery.transfer? 64).toList.map Transfer.record := by
  unfold readReport heldDevice read note setHeld
  cases delivery with
  | failure text => simp [Delivery.transfer?]
  | bytes bytes =>
    cases hbytes : bytes.take 64 with
    | nil => simp [Report.size, hbytes, Delivery.transfer?]
    | cons b rest => simp [Report.size, hbytes, Delivery.transfer?, Transfer.record]

/-- A round trip with a packet that fits tells of what is written and of what is read, and perhaps
that the answer is none. -/
theorem records_exchange_of_fits (hp : Report.Fits p) :
    ∃ complaints, (∀ r ∈ complaints, r.IsAside) ∧
      records (exchange p (host, ⟨some handle, readTimeout⟩)).trace =
        (Transfer.sent (Report.ofPacket p) ::
          ((behaviour host handle.id p).toOption.bind (Delivery.transfer? 64)).toList).map
            Transfer.record ++ complaints := by
  obtain ⟨hresult, hstate, -⟩ :=
    Traced.of_quiet_eq (quiet_sendReport_of_fits host handle readTimeout p hp)
  unfold exchange
  rw [Traced.bind_trace, records_append, records_sendReport_of_fits host handle readTimeout p hp,
    hresult, hstate]
  cases hb : behaviour host handle.id p with
  | error text => exact ⟨[], List.forall_mem_nil _, rfl⟩
  | ok delivery =>
    dsimp only [Except.map, mapError_ok, Except.toOption]
    rw [Traced.bind_trace, records_append, records_readReport]
    generalize (readReport _).state = next
    cases (readReport _).result with
    | error e => exact ⟨[], List.forall_mem_nil _, by simp⟩
    | ok received =>
      cases received with
      | none => exact ⟨[], List.forall_mem_nil _, by simp⟩
      | some answer =>
        cases hcheck : Answer.check p answer with
        | ok _ => exact ⟨[], List.forall_mem_nil _, by simp [hcheck]⟩
        | error e =>
          refine ⟨[⟨.warn, .link, "Command " ++ Hex.word p.command ++ " not acknowledged: " ++
            e.message⟩], ?_, by simp [hcheck]⟩
          rw [List.forall_mem_singleton]
          exact Log.Record.isAside_of_rank_lt (by decide)

/-- A round trip tells of what is written and of what is read. -/
theorem tells_exchange (s : Host × Link) : (exchange p s).Tells some s.1.bus := by
  obtain ⟨host, held, readTimeout⟩ := s
  have hevents : (events (exchange p (host, ⟨held, readTimeout⟩)).trace).filterMap some =
      ((exchange p).quiet (host, ⟨held, readTimeout⟩)).trace := List.filterMap_some
  have hstate : (exchange p (host, ⟨held, readTimeout⟩)).state =
      ((exchange p).quiet (host, ⟨held, readTimeout⟩)).state := rfl
  unfold Outcome.Tells
  rw [hevents, hstate]
  cases held with
  | none =>
    rw [quiet_exchange_of_unheld]
    exact .nil _
  | some handle =>
    by_cases hp : Report.Fits p
    · obtain ⟨complaints, hasides, hrecords⟩ :=
        records_exchange_of_fits host handle readTimeout p hp
      have htrip := (Narrates.traffic host.bus handle.id readTimeout p).append
        (.asides hasides (host.bus.advance handle.id.place))
      rw [List.append_nil] at htrip
      rw [hrecords, quiet_exchange_of_fits host handle readTimeout p hp]
      exact htrip
    · rw [quiet_exchange_of_not_fits host handle readTimeout p hp]
      have hrecords : records (exchange p (host, ⟨some handle, readTimeout⟩)).trace = [] := by
        unfold exchange sendReport heldDevice
        simp [hp]
      rw [hrecords]
      exact .nil _

/-- Checking whether an answer is the ping transfers nothing. -/
theorem isAside_of_mem_checkEcho (ping answer : Packet) :
    ∀ r ∈ (Answer.checkEcho ping answer).records, r.IsAside := by
  unfold Answer.checkEcho
  split
  · rw [List.forall_mem_singleton]
    exact Log.Record.isAside_of_rank_lt (by decide)
  · exact List.forall_mem_nil _

/-- A handshake tells of its ping and of the answer. -/
theorem tells_shakeHands (ping : Packet) (s : Host × Link) :
    (shakeHands ping s).Tells some s.1.bus := by
  refine tells_bind (tells_exchange ping s) ?_
  cases (exchange ping s).result with
  | error e => exact tells_bind (tells_disconnect _) (tells_pure _ _)
  | ok answer =>
    refine tells_bind (tells_replay (isAside_of_mem_checkEcho ping answer) _) ?_
    cases (Answer.checkEcho ping answer).replay _ |>.result with
    | error e => exact tells_bind (tells_disconnect _) (tells_pure _ _)
    | ok _ =>
      exact tells_bind (tells_log (Log.Record.isAside_of_rank_lt (by decide)) _) (tells_pure _ _)

/-- Connecting tells of its ping and of the answer. -/
theorem tells_connect (how : Dial) (s : Host × Link) : (connect how s).Tells some s.1.bus := by
  refine tells_bind (tells_log (Log.Record.isAside_of_rank_lt (by decide)) s) ?_
  refine tells_bind (tells_openFirst how.target _) ?_
  cases (openFirst how.target _).result with
  | error e => exact tells_pure _ _
  | ok opened =>
    obtain ⟨handle, device⟩ := opened
    have hgreeting (s : Host × Link) :
        ((do hold handle how.readTimeout; shakeHands how.ping) s).Tells some s.1.bus :=
      tells_bind (tells_hold handle how.readTimeout s) (tells_shakeHands how.ping _)
    cases how.verbose with
    | true => exact tells_bind (tells_describe handle device _) (hgreeting _)
    | false => exact hgreeting _

end Link

namespace Device

open Traced

/-- Connecting a device tells of the ping and of the answer. -/
theorem tells_connect (verbose : Bool) (nonce : Nonce) (s : Host × Device Link) :
    (connect Link.transport verbose nonce s).Tells some s.1.bus := by
  refine tells_bind (tells_log (Log.Record.isAside_of_source_ne (by decide)) s) ?_
  exact Link.tells_connect _ (s.1, s.2.transport)

/-- Giving up a device transfers nothing. -/
theorem tells_disconnect (s : Host × Device Link) :
    (disconnect Link.transport s).Tells some s.1.bus :=
  Link.tells_disconnect (s.1, s.2.transport)

/-- Reading the battery tells of the request and of the answer. -/
theorem tells_readBattery (request : BatteryRequest) (s : Host × Device Link) :
    (readBattery Link.transport request s).Tells some s.1.bus := by
  obtain ⟨host, device⟩ := s
  rw [readBattery_apply]
  exact .aside (Log.Record.isAside_of_source_ne (by decide))
    (Link.tells_exchange request.packet (host, device.transport))

end Device

namespace Monitor

open Traced

variable (plan : Plan) (output : Output)

/-- Writing a line transfers nothing. -/
theorem tells_writeLine (p : Progress) (status : BatteryStatus) (s : Host × Device Link) :
    (writeLine plan output p status s).Tells Event.link? s.1.bus := by
  unfold writeLine
  cases output.fault p.successes with
  | some text => exact tells_pure _ s
  | none => exact tells_bind (tells_emit rfl s) (tells_pure _ _)

/-- A poll tells of its request and of the answer. -/
theorem tells_poll (p : Progress) (s : Host × Device Link) :
    (poll Link.transport plan output p s).Tells Event.link? s.1.bus := by
  refine tells_bind (tells_log (Log.Record.isAside_of_source_ne (by decide)) s) ?_
  refine tells_bind (tells_relabel (fun _ => rfl) (Device.tells_readBattery _ _)) ?_
  cases (relabel _ _ _).result with
  | ok status => exact tells_bind (tells_writeLine plan output p status _) (tells_pure _ _)
  | error e =>
    exact tells_bind (tells_log (Log.Record.isAside_of_rank_lt (by decide)) _) (tells_pure _ _)

/-- Watching tells of all requests and of their answers, for any number of polls. -/
theorem tells_follow (limit : Nat) (p : Progress) (s : Host × Device Link) :
    (follow Link.transport plan output limit p s).Tells Event.link? s.1.bus := by
  induction limit generalizing p s with
  | zero => exact tells_pure _ s
  | succ limit ih =>
    refine tells_bind (tells_poll plan output p s) ?_
    cases (poll Link.transport plan output p s).result with
    | error e => exact tells_pure _ _
    | ok p' =>
      cases hdone : plan.isDone p' with
      | true =>
        simp only [hdone]
        exact tells_pure _ _
      | false =>
        simp only [hdone]
        exact tells_bind (tells_emit rfl _) (ih p' _)

end Monitor

namespace Program

open Traced

/-- A session tells of everything that is transferred on the bus. -/
theorem tells_session (s : Surroundings) (options : CommandLine.Options) (interval : Duration)
    (start : Host × Device Link) :
    (session s options interval start).Tells Monitor.Event.link? start.1.bus := by
  refine tells_bind (tells_relabel (fun _ => rfl) (Device.tells_connect _ _ _)) ?_
  cases (relabel _ _ _).result with
  | error e => exact tells_pure _ _
  | ok _ =>
    refine tells_bind (tells_log (Log.Record.isAside_of_rank_lt (by decide)) _) ?_
    refine tells_bind (Monitor.tells_follow _ _ _ _ _) ?_
    cases (Monitor.run Link.transport _ _ _ _).result with
    | none => exact tells_pure _ _
    | some result =>
      refine tells_bind (tells_relabel (fun _ => rfl) (Device.tells_disconnect _)) ?_
      exact tells_pure _ _

end Program

end BatteryWatch
