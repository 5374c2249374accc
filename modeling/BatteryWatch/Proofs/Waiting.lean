import BatteryWatch.Proofs.Reports
import BatteryWatch.Proofs.WholeRun

/-!
# Waiting for answers

How long a device is waited for. A link that holds a device waits as the connection said that opened
it: connecting sets the time to wait once a device is open and not before, so that an attempt that
opens nothing leaves the old device with the old time (`Link.readsAs_connect`). Over a session the
time to wait is remembered step by step (`BusStep.remember`, `BusStep.latestWait`), and in a whole
run of the program it is that of the settings (`Program.readsAs_run`). `BusStep.waiting_law` says
what every read of sessions and of runs asks for.
-/

namespace BatteryWatch

/-! ## Reads -/

/-- Whether an event is the opening of a device. -/
def BusEvent.isOpening : BusEvent → Bool
  | .opened _ => true
  | _ => false

/-- A read asks for a whole report and waits for it for the given time, if there is one; any other
event is all right. -/
def BusEvent.ReadsAs (wait : Option Duration) : BusEvent → Prop
  | .read _ size timeout =>
    ∃ d, wait = some d ∧ size = 64 ∧ timeout.toInt = (min d.millis 2147483647 : Nat)
  | _ => True

/-- The time to wait after some events: that of the connection they belong to if they open a device,
and the one before if they do not. -/
def remembered (es : List BusEvent) (set before : Option Duration) : Option Duration :=
  if es.any BusEvent.isOpening then set else before

/-- The time to wait stays if nothing is opened. -/
theorem remembered_of_unopened {es : List BusEvent} (h : ∀ e ∈ es, e.isOpening = false)
    (set before : Option Duration) : remembered es set before = before := by
  have hany : es.any BusEvent.isOpening = false := List.any_eq_false.mpr (by simpa using h)
  rw [remembered, hany]
  rfl

/-- The time to wait that a call sets if it opens a device. -/
def Call.wait? : Call → Option Duration
  | .connect how => some how.readTimeout
  | _ => none

namespace Link

/-- A link that holds a device waits for it for the given time. -/
def ReadsAs (link : Link) (wait : Option Duration) : Prop :=
  link.held = none ∨ wait = some link.readTimeout

/-! ## Calls of the link -/

/-- Closing a device reads nothing. -/
theorem readsAs_closing (link : Link) (wait : Option Duration) :
    ∀ e ∈ link.closing, e.ReadsAs wait :=
  forall_mem_closing (fun _ => trivial) link

/-- A round trip opens no device. -/
theorem isOpening_of_mem_exchange {p : Packet} {s : Host × Link} {e : BusEvent}
    (he : e ∈ ((exchange p).quiet s).trace) : e.isOpening = false := by
  obtain ⟨_, -, -, rfl | rfl⟩ := exists_held_of_mem_exchange he
  · rfl
  · rfl

/-- A round trip waits as the link does, which goes on to wait like that. -/
theorem readsAs_exchange (p : Packet) {s : Host × Link} {wait : Option Duration}
    (h : s.2.ReadsAs wait) :
    ((exchange p).quiet s).state.2.ReadsAs wait ∧
      ∀ e ∈ ((exchange p).quiet s).trace, e.ReadsAs wait := by
  obtain ⟨hheld, htimeout, -⟩ := exchange_keeps s.1 p s.2
  constructor
  · rcases h with hnone | hwait
    · rw [hnone] at hheld
      exact .inl (Option.map_eq_none_iff.mp hheld)
    · exact .inr (hwait.trans (congrArg some htimeout.symm))
  · intro e he
    obtain ⟨handle, hheld, -, rfl | rfl⟩ := exists_held_of_mem_exchange he
    · trivial
    · rcases h with hnone | hwait
      · rw [hnone] at hheld
        cases hheld
      · exact ⟨s.2.readTimeout, hwait, rfl, toInt_timeoutMillis s.2.readTimeout⟩

/-- Settling a handshake waits as its round trip does. -/
theorem readsAs_settled (ping : Packet) {s : Host × Link} {wait : Option Duration}
    (h : s.2.ReadsAs wait) :
    (settled ping ((exchange ping).quiet s)).state.2.ReadsAs wait ∧
      ∀ e ∈ (settled ping ((exchange ping).quiet s)).trace, e.ReadsAs wait := by
  obtain ⟨hlink, htrip⟩ := readsAs_exchange ping h
  refine ⟨?_, forall_mem_settled htrip fun _ => trivial⟩
  unfold settled
  cases objection ping ((exchange ping).quiet s).result with
  | none => exact hlink
  | some text => exact .inl rfl

/-- Connecting waits as it is told once it has opened a device, and is no reason to wait for longer
or shorter as long as it has opened none. -/
theorem readsAs_connect (how : Dial) {s : Host × Link} {wait : Option Duration}
    (h : s.2.ReadsAs wait) :
    let o := (connect how).quiet s
    let after := remembered o.trace (some how.readTimeout) wait
    o.state.2.ReadsAs after ∧ ∀ e ∈ o.trace, e.ReadsAs after := by
  obtain ⟨_, hconnect⟩ | ⟨_, _, hconnect⟩ | ⟨place, hconnect⟩ := connect_cases s.1 s.2 how
  · rw [hconnect]
    exact ⟨h, by simp [BusEvent.ReadsAs]⟩
  · rw [hconnect]
    exact ⟨h, by simp [BusEvent.ReadsAs]⟩
  · rw [hconnect]
    -- the new device is held with the new time before the ping is sent
    have htaken : (taken s.1 place how.readTimeout).2.ReadsAs (some how.readTimeout) := .inr rfl
    obtain ⟨hlink, hsettled⟩ := readsAs_settled how.ping htaken
    refine ⟨hlink, List.forall_mem_append.mpr ⟨?_, hsettled⟩⟩
    exact forall_mem_opening s.1 s.2 trivial (fun _ => trivial) (fun _ _ => trivial)
      (fun _ => trivial) place how

/-- Every call waits as the latest connection said that opened a device, itself included. -/
theorem readsAs_make (c : Call) {s : Host × Link} {wait : Option Duration} (h : s.2.ReadsAs wait) :
    let o := (transport.make c).quiet s
    let after := remembered o.trace c.wait? wait
    o.state.2.ReadsAs after ∧ ∀ e ∈ o.trace, e.ReadsAs after := by
  cases c with
  | connect how =>
    rw [Transport.make, Traced.quiet_map, Traced.map_apply]
    exact readsAs_connect how h
  | disconnect =>
    have hquiet : (transport.make .disconnect).quiet s = _ := quiet_disconnect s
    rw [hquiet]
    exact ⟨.inl rfl, readsAs_closing s.2 _⟩
  | exchange packet =>
    rw [Transport.make, Traced.quiet_map, Traced.map_apply]
    intro o after
    have hafter : after = wait :=
      remembered_of_unopened (fun e he => isOpening_of_mem_exchange he) none wait
    rw [hafter]
    exact readsAs_exchange packet h

end Link

/-! ## Sessions -/

namespace BusStep

/-- The time to wait that a step sets if it opens a device. -/
def wait? (device : Device Link) : BusStep → Option Duration
  | .operate o => (o.call device).bind Call.wait?
  | .replace => none
  | .plug _ => none

/-- The time to wait after a step: that of the step if it opens a device, none if it exchanges the
link, and otherwise the one before. -/
def remember (s : State) (wait : Option Duration) : BusStep → Option Duration
  | .replace => none
  | step => remembered (events (step.perform s).trace) (step.wait? s.2) wait

/-- The time to wait after some steps, which is that of the latest connection on the link that
opened a device, given the one before these steps. -/
def latestWait : List BusStep → State → Option Duration → Option Duration
  | [], _, wait => wait
  | step :: rest, s, wait => latestWait rest (step.perform s).state (step.remember s wait)

/-- One more step is remembered after the others. -/
theorem latestWait_concat (steps : List BusStep) (step : BusStep) (s : State)
    (wait : Option Duration) :
    latestWait (steps ++ [step]) s wait =
      step.remember (Session.finalState perform steps s) (latestWait steps s wait) := by
  induction steps generalizing s wait with
  | nil => rfl
  | cons first steps ih => exact ih (first.perform s).state (first.remember s wait)

/-- Every step waits as remembered. -/
theorem readsAs_perform (step : BusStep) {s : State} {wait : Option Duration}
    (h : s.2.transport.ReadsAs wait) :
    (step.perform s).state.2.transport.ReadsAs (step.remember s wait) ∧
      ∀ e ∈ events (step.perform s).trace, e.ReadsAs (step.remember s wait) := by
  obtain ⟨host, device⟩ := s
  cases step with
  | operate o =>
    rw [remember, wait?, perform, Operation.perform_state, Operation.events_perform,
      Operation.effect]
    · cases o.call device with
      | none => exact ⟨h, by simp⟩
      | some c => exact Link.readsAs_make c (s := (host, device.transport)) h
    · rintro ⟨⟩
  | replace =>
    rw [← Traced.quiet_state, ← Traced.quiet_trace, quiet_perform_replace]
    exact ⟨.inl rfl, Link.readsAs_closing device.transport _⟩
  | plug bus => exact ⟨h, by simp [perform]⟩

/-- Sessions wait as remembered. -/
theorem readsAs_finalState (steps : List BusStep) {s : State} {wait : Option Duration}
    (h : s.2.transport.ReadsAs wait) :
    (Session.finalState perform steps s).2.transport.ReadsAs (latestWait steps s wait) := by
  induction steps generalizing s wait with
  | nil => exact h
  | cons step steps ih => exact ih (readsAs_perform step h).1

end BusStep

/-! ## Whole runs -/

/-- A chain of polls waits as the link does, which goes on to wait like that. -/
theorem Link.readsAs_chain {first last : Host × Link} {polls : List (Monitor.Poll BusEvent)}
    (h : Monitor.Chain transport first polls last) {wait : Option Duration}
    (hfirst : first.2.ReadsAs wait) :
    last.2.ReadsAs wait ∧ ∀ e ∈ polls.flatMap (fun p => events p.trace), e.ReadsAs wait := by
  induction h with
  | nil s => exact ⟨hfirst, by simp⟩
  | @cons s next _ p polls exchanged _ ih =>
    obtain ⟨hnext, htrip⟩ := readsAs_exchange p.request.packet hfirst
    rw [quiet_exchange_of_exchanged exchanged] at hnext htrip
    obtain ⟨hlast, hrest⟩ := ih hnext
    rw [List.flatMap_cons, List.forall_mem_append]
    exact ⟨hlast, htrip, hrest⟩

/-- A device that holds nothing yet connects and waits as it is set to. -/
theorem Device.readsAs_connect (host : Host) (device : Device Link) (verbose : Bool) (nonce : Nonce)
    (hfresh : device.transport.held = none) :
    let o := connect Link.transport verbose nonce (host, device)
    o.state.2.transport.ReadsAs (some device.readTimeout) ∧
      ∀ e ∈ events o.trace, e.ReadsAs (some device.readTimeout) := by
  intro o
  obtain ⟨-, hstate, htrace⟩ := connect_parts host device verbose nonce
  have hfirst : device.transport.ReadsAs (some device.readTimeout) := .inl hfresh
  obtain ⟨hlink, hevents⟩ :=
    Link.readsAs_connect (device.dial verbose nonce) (s := (host, device.transport)) hfirst
  -- whether a device is opened or not, the time to wait is that of the device
  have hafter (es : List BusEvent) :
      remembered es (some (device.dial verbose nonce).readTimeout) (some device.readTimeout) =
        some device.readTimeout := ite_self _
  rw [hafter] at hlink hevents
  change (connect Link.transport verbose nonce (host, device)).state.2.transport.ReadsAs _ ∧
    ∀ e ∈ events (connect Link.transport verbose nonce (host, device)).trace, _
  rw [hstate, htrace]
  exact ⟨hlink, hevents⟩

namespace Program

variable (s : Surroundings) (options : CommandLine.Options) (settings : Settings)
  (interval : Duration)

/-- Connecting in a run waits as the settings say. -/
theorem readsAs_dialled :
    (dialled s options settings).state.2.transport.ReadsAs (some settings.readTimeout) ∧
      ∀ e ∈ events (dialled s options settings).trace, e.ReadsAs (some settings.readTimeout) :=
  Device.readsAs_connect _ (device settings) options.verbose s.nonce rfl

/-- Watching in a run waits as the settings say. -/
theorem readsAs_watched :
    ∀ e ∈ (Monitor.sight (watched s options settings interval).trace).links,
      e.ReadsAs (some settings.readTimeout) := by
  obtain ⟨polls, hchain, -, -, hending⟩ := Monitor.run_ending Link.transport
    (plan options interval) ⟨s.clock, fun _ => none⟩ s.patience (dialled s options settings).state.1
    (dialled s options settings).state.2
  have hlinks : (Monitor.sight (watched s options settings interval).trace).links = _ :=
    hending.seen.1
  rw [hlinks]
  exact (Link.readsAs_chain hchain (readsAs_dialled s options settings).1).2

/-- A session waits as the settings say, the handshake included. -/
theorem readsAs_conducted :
    ∀ e ∈ (Monitor.sight (conducted s options settings interval).trace).links,
      e.ReadsAs (some settings.readTimeout) := by
  intro e he
  obtain ⟨-, hdialled⟩ := readsAs_dialled s options settings
  cases hresult : (dialled s options settings).result with
  | error reason =>
    rw [session_of_refused s options settings interval hresult, Monitor.sight_map_link] at he
    exact hdialled e he
  | ok _ =>
    rcases mem_of_mem_connected s options settings interval hresult he with h | h | h
    · exact hdialled e h
    · exact readsAs_watched s options settings interval e h
    · exact Link.readsAs_closing _ _ e h

/-- A run whose command line is understood waits as its settings say. -/
theorem readsAs_runOptions {e : BusEvent} (he : e ∈ (runOptions s options).bus) :
    ∃ settings, Settings.load s.read options.configFile = .ok settings ∧
      e.ReadsAs (some settings.readTimeout) := by
  cases hload : Settings.load s.read options.configFile with
  | error reason =>
    rw [runOptions_of_unloaded s options hload] at he
    cases he
  | ok settings =>
    refine ⟨settings, rfl, ?_⟩
    cases hchosen : chosenInterval options settings with
    | error reason =>
      rw [(runOptions_of_invalid s options settings hload hchosen).1] at he
      cases he
    | ok interval =>
      rw [runOptions_of_loaded s options settings hload, hchosen, bus_watch] at he
      exact readsAs_conducted s options settings interval e he

/-- A run waits as its settings say. -/
theorem readsAs_run {e : BusEvent} (he : e ∈ (run s).bus) :
    ∃ options settings, CommandLine.parse s.arguments = .ok options ∧
      Settings.load s.read options.configFile = .ok settings ∧
      e.ReadsAs (some settings.readTimeout) := by
  unfold run at he
  cases hparse : CommandLine.parse s.arguments with
  | error stop =>
    rw [hparse] at he
    cases stop with
    | help =>
      obtain ⟨_, hline, hbus⟩ := List.mem_filterMap.mp he
      obtain ⟨_, -, rfl⟩ := List.mem_map.mp hline
      cases hbus
    | version => cases he
    | error reason => cases he
  | ok options =>
    rw [hparse] at he
    obtain ⟨settings, hload, hreads⟩ := readsAs_runOptions s options he
    exact ⟨options, settings, rfl, hload, hreads⟩

end Program

/-! ## The law of waiting -/

/-- The law of waiting, in every session on every bus and in every run of the program.

Let `steps` be the steps of a session so far. In any further one, every read asks for 64 bytes and
waits as long as the latest connection said that opened a device on the present link, in whole
milliseconds and at most 2147483647 of them; the time to wait is a signed number of 32 bits, and it
is never negative. An attempt to connect that opens nothing does not count. The end of a session
reads nothing. In a run of the program, whether it connects or not and whether it ends or not, every
read waits as the settings say. -/
theorem BusStep.waiting_law (bus : Bus) (target : DeviceId) (readTimeout : Duration)
    (steps : List BusStep) :
    let start := initial bus target readTimeout
    let reached := Session.finalState perform steps start
    (∀ (step : BusStep) handle size (timeout : Int32),
      .read handle size timeout ∈ events (step.perform reached).trace →
      ∃ wait, latestWait (steps ++ [step]) start none = some wait ∧ size = 64 ∧
        timeout.toInt = (min wait.millis 2147483647 : Nat) ∧ 0 ≤ timeout.toInt) ∧
    (∀ handle size timeout, .read handle size timeout ∉ events (finish reached).trace) ∧
    (∀ (s : Program.Surroundings) handle size (timeout : Int32),
      .read handle size timeout ∈ (Program.run s).bus →
      ∃ options settings, CommandLine.parse s.arguments = .ok options ∧
        Settings.load s.read options.configFile = .ok settings ∧ size = 64 ∧
        timeout.toInt = (min settings.readTimeoutMillis.toNat 2147483647 : Nat) ∧
        0 ≤ timeout.toInt) := by
  intro start reached
  have hsigned {timeout : Int32} {n : Nat} (h : timeout.toInt = n) : 0 ≤ timeout.toInt := by
    rw [h]
    exact Int.natCast_nonneg n
  refine ⟨?_, ?_, ?_⟩
  · intro step handle size timeout hread
    have hstart : start.2.transport.ReadsAs none := .inl rfl
    obtain ⟨wait, hwait, hsize, htimeout⟩ :=
      (readsAs_perform step (readsAs_finalState steps hstart)).2 _ hread
    rw [← latestWait_concat] at hwait
    exact ⟨wait, hwait, hsize, htimeout, hsigned htimeout⟩
  · intro handle size timeout hread
    rw [events_finish] at hread
    obtain ⟨_, hnone, -⟩ := Link.readsAs_closing _ none _ hread
    cases hnone
  · intro s handle size timeout hread
    obtain ⟨options, settings, hparse, hload, wait, hwait, hsize, htimeout⟩ :=
      Program.readsAs_run s hread
    obtain rfl := Option.some.inj hwait
    rw [Settings.readTimeout, Duration.millis_ofMillis] at htimeout
    exact ⟨options, settings, hparse, hload, hsize, htimeout, hsigned htimeout⟩

/-- A connection that finds no device changes nothing of how long the one held is waited for. -/
example :
    let dial (millis : Nat) : BusStep :=
      .operate (.dial ⟨false, .stock, .ofMillis millis, Ping.packet ⟨⟨1, 2, 3, 4⟩⟩⟩)
    let bus : Bus := ⟨none, [⟨.stock, none, fun _ => .absent, [.echo none]⟩]⟩
    let query : Operation := .queryBattery false false false false 0 false
    let steps := [dial 3000000000, .plug .empty, dial 5, .operate query]
    (BusStep.history steps (BusStep.initial bus .stock Device.stockTimeout)).filterMap
        (fun | .read _ _ timeout => some timeout.toInt | _ => none) =
      [2147483647, 2147483647] := by
  decide +kernel

end BatteryWatch
