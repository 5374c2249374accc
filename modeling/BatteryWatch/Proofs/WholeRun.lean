import BatteryWatch.Program
import BatteryWatch.Proofs.Watching.OnBus

/-!
# Whole runs

What a run of the program does on the bus, what it writes and how it ends. A run loads its settings,
chooses its interval, connects (`Program.dialled`), watches (`Program.watched`) and disconnects;
`Program.session_of_refused` and `Program.session_of_connected` put these parts together, and
`Program.bus_watch` and `Program.lines_watch` say what is seen of them. `Program.watching_law` is
the law of all runs with a planned number of polls.
-/

namespace BatteryWatch.Program

/-! ## What is seen of a run -/

/-- The event on the bus that an event is, if it is one. -/
def Event.bus? : Event → Option BusEvent
  | .bus e => some e
  | _ => none

/-- The line on the standard output that an event is, if it is one. -/
def Event.line? : Event → Option String
  | .out line => some line
  | _ => none

namespace Run

/-- What a run causes on the bus. -/
def bus (r : Run) : List BusEvent := r.trace.filterMap Event.bus?

/-- The lines that a run writes to the standard output. -/
def lines (r : Run) : List String := r.trace.filterMap Event.line?

/-- A run fails with a message: its exit code is one, and the last thing it does is to report the
message on the standard error output. -/
structure FailsWith (r : Run) (message : String) : Prop where
  exitCode : r.exitCode = some 1
  reported : ∃ earlier, r.trace = earlier ++ [.err ("Error: " ++ message ++ "\n")]

end Run

/-- Failing is reported. -/
theorem failsWith_failed (trace : List Event) (e : Failure) :
    (failed trace e).FailsWith e.message := ⟨rfl, trace, rfl⟩

/-- The warnings about the filter, as they are written. -/
def warned (texts : List String) : List Event := texts.map fun text => .err (text ++ "\n")

/-- Whatever sees nothing of the standard error output sees nothing of warnings. -/
theorem filterMap_warned {β : Type} {see : Event → Option β} (herr : ∀ text, see (.err text) = none)
    (texts : List String) : (warned texts).filterMap see = [] := by
  rw [warned, List.filterMap_map]
  exact List.filterMap_eq_nil_iff.mpr fun text _ => herr _

/-- Whatever sees nothing of the standard error output sees of a session what it sees of its
events. -/
theorem filterMap_render {β : Type} {see : Event → Option β}
    {seen : Monitor.Event BusEvent → Option β} (herr : ∀ text, see (.err text) = none)
    (filter : Log.Filter) (stamp : String)
    (hevent : ∀ e, (render filter stamp (.event e)).filterMap see = (seen e).toList)
    (trace : List (Entry (Monitor.Event BusEvent))) :
    (trace.flatMap (render filter stamp)).filterMap see = (events trace).filterMap seen := by
  induction trace with
  | nil => rfl
  | cons entry trace ih =>
    rw [List.flatMap_cons, List.filterMap_append, ih]
    cases entry with
    | record r =>
      have hrecord : (render filter stamp (.record r)).filterMap see = [] := by
        change (if filter.allows r then [Event.err (logLine stamp r)] else []).filterMap see = []
        split
        · simp [herr]
        · rfl
      rw [hrecord]
      rfl
    | event e =>
      rw [hevent, events_cons_event, List.filterMap_cons]
      cases seen e <;> rfl

/-! ## The parts of a session -/

variable (s : Surroundings) (options : CommandLine.Options) (settings : Settings)
  (interval : Duration)

/-- Connecting to the device of a run. -/
def dialled : Outcome (Entry BusEvent) (Host × Device Link) (Except ConnectError Unit) :=
  Device.connect Link.transport options.verbose s.nonce (Host.ofBus s.bus, device settings)

/-- Watching the device of a run from where connecting to it ended. -/
def watched :
    Outcome (Entry (Monitor.Event BusEvent)) (Host × Device Link)
      (Option (Except Monitor.Failure Unit)) :=
  Monitor.run Link.transport (plan options interval) ⟨s.clock, fun _ => none⟩ s.patience
    (dialled s options settings).state

/-- The session of a run. -/
def conducted :
    Outcome (Entry (Monitor.Event BusEvent)) (Host × Device Link)
      (Option (Except Failure Unit)) :=
  session s options interval (Host.ofBus s.bus, device settings)

/-- A session that cannot connect is nothing but the attempt. -/
theorem session_of_refused {e : ConnectError}
    (h : (dialled s options settings).result = .error e) :
    conducted s options settings interval =
      ⟨some (.error (.connect e)), (dialled s options settings).state,
        (dialled s options settings).trace.map (Entry.map .link)⟩ := by
  unfold dialled at h ⊢
  unfold conducted session
  simp [h]

/-- A session that connects and comes to an end watches the device and then gives it up, however
watching ends. -/
theorem session_of_connected (hok : (dialled s options settings).result = .ok ())
    {result : Except Monitor.Failure Unit}
    (hended : (watched s options settings interval).result = some result) :
    let o := watched s options settings interval
    let last := Device.disconnect Link.transport o.state
    conducted s options settings interval =
      ⟨some (result.mapError .monitor), last.state,
        (dialled s options settings).trace.map (Entry.map .link) ++
          .record ⟨.info, .program, "Connected"⟩ ::
            (o.trace ++ last.trace.map (Entry.map .link))⟩ := by
  unfold watched dialled at *
  unfold conducted session
  simp [hok, hended]

/-- Of a session that connects and comes to an end the connecting, the watching and the closing of
the device held are seen on the bus, and the lines of the watching. -/
theorem seen_of_connected (hok : (dialled s options settings).result = .ok ())
    {result : Except Monitor.Failure Unit}
    (hended : (watched s options settings interval).result = some result) :
    let o := watched s options settings interval
    (Monitor.sight (conducted s options settings interval).trace).links =
        events (dialled s options settings).trace ++ (Monitor.sight o.trace).links ++
          o.state.2.transport.closing ∧
      Monitor.lines (conducted s options settings interval).trace = Monitor.lines o.trace := by
  intro o
  have hclosing : events (Device.disconnect Link.transport o.state).trace =
      o.state.2.transport.closing := by
    change (Link.disconnect.quiet (o.state.1, o.state.2.transport)).trace = _
    rw [Link.quiet_disconnect]
  rw [session_of_connected s options settings interval hok hended]
  constructor
  · rw [Monitor.sight_append, Monitor.sight_map_link, List.append_assoc, ← hclosing]
    -- the record between connecting and watching is not seen
    change _ ++ (Monitor.sight (_ ++ _)).links = _
    rw [Monitor.sight_append, Monitor.sight_map_link]
  · rw [Monitor.lines_append, Monitor.lines_map_link]
    change Monitor.lines (_ ++ _) = _
    rw [Monitor.lines_append, Monitor.lines_map_link, List.append_nil]

/-- A session that connects and does not end watches the device and does nothing after that. -/
theorem session_of_unended (hok : (dialled s options settings).result = .ok ())
    (hunended : (watched s options settings interval).result = none) :
    conducted s options settings interval =
      ⟨none, (watched s options settings interval).state,
        (dialled s options settings).trace.map (Entry.map .link) ++
          .record ⟨.info, .program, "Connected"⟩ ::
            (watched s options settings interval).trace⟩ := by
  unfold watched dialled at *
  unfold conducted session
  simp [hok, hunended]

/-- What a session that connects does on the bus, whether it ends or not, belongs to its connecting
or to its watching or is the closing of the device held. -/
theorem mem_of_mem_connected (hok : (dialled s options settings).result = .ok ()) {e : BusEvent}
    (he : e ∈ (Monitor.sight (conducted s options settings interval).trace).links) :
    e ∈ events (dialled s options settings).trace ∨
      e ∈ (Monitor.sight (watched s options settings interval).trace).links ∨
      e ∈ (watched s options settings interval).state.2.transport.closing := by
  cases hresult : (watched s options settings interval).result with
  | none =>
    rw [session_of_unended s options settings interval hok hresult, Monitor.sight_append,
      Monitor.sight_map_link] at he
    rcases List.mem_append.mp he with hdialled | hwatched
    · exact .inl hdialled
    · exact .inr (.inl hwatched)
  | some result =>
    rw [(seen_of_connected s options settings interval hok hresult).1, List.append_assoc] at he
    rcases List.mem_append.mp he with hdialled | hlater
    · exact .inl hdialled
    · exact .inr (List.mem_append.mp hlater)

/-- A run that connects holds a handle to which the ping was written, and closed none. -/
theorem dialled_on_handle (hok : (dialled s options settings).result = .ok ()) :
    ∃ handle, (dialled s options settings).state.2.transport.held.map Handle.id = some handle ∧
      writes (events (dialled s options settings).trace) =
        [(handle, Report.ofPacket (Ping.packet ⟨s.nonce⟩))] ∧
      ∀ g, .closed g ∉ events (dialled s options settings).trace :=
  Device.connected_on_handle _ (device settings) options.verbose s.nonce rfl hok

/-! ## From sessions to runs -/

variable (filter : Log.Filter) (texts : List String)

/-- The run of a session that succeeds or fails, after some warnings. -/
theorem watch_of_ended {result : Except Failure Unit}
    (h : (conducted s options settings interval).result = some result) :
    let trace := warned texts ++
      (conducted s options settings interval).trace.flatMap (render filter s.stamp)
    watch s options settings interval filter (warned texts) =
      match result with
      | .ok () => ⟨some 0, trace⟩
      | .error e => failed trace e := by
  unfold conducted at *
  unfold watch
  simp only [h]
  cases result <;> rfl

/-- The run of a session that does not end is the session, after some warnings. -/
theorem watch_of_unended (h : (conducted s options settings interval).result = none) :
    watch s options settings interval filter (warned texts) =
      ⟨none, warned texts ++
        (conducted s options settings interval).trace.flatMap (render filter s.stamp)⟩ := by
  unfold conducted at *
  unfold watch
  simp only [h]

/-- Whatever sees nothing of the standard error output sees of a run what it sees of its session. -/
theorem filterMap_watch {β : Type} {see : Event → Option β}
    {seen : Monitor.Event BusEvent → Option β} (herr : ∀ text, see (.err text) = none)
    (hevent : ∀ e, (render filter s.stamp (.event e)).filterMap see = (seen e).toList) :
    (watch s options settings interval filter (warned texts)).trace.filterMap see =
      (events (conducted s options settings interval).trace).filterMap seen := by
  have hrender := filterMap_render herr filter s.stamp hevent
  cases hresult : (conducted s options settings interval).result with
  | none =>
    rw [watch_of_unended s options settings interval filter texts hresult]
    simp [filterMap_warned herr, hrender]
  | some result =>
    rw [watch_of_ended s options settings interval filter texts hresult]
    cases result with
    | ok _ => simp [filterMap_warned herr, hrender]
    | error e => simp [failed, filterMap_warned herr, hrender, herr]

/-- A run does on the bus what its session does. -/
theorem bus_watch :
    (watch s options settings interval filter (warned texts)).bus =
      (Monitor.sight (conducted s options settings interval).trace).links := by
  have herr (text : String) : Event.bus? (.err text) = none := rfl
  have hevent (e : Monitor.Event BusEvent) :
      (render filter s.stamp (.event e)).filterMap Event.bus? = (Monitor.Event.link? e).toList := by
    cases e <;> rfl
  exact filterMap_watch s options settings interval filter texts herr hevent

/-- A run writes the lines of its session. -/
theorem lines_watch :
    (watch s options settings interval filter (warned texts)).lines =
      Monitor.lines (conducted s options settings interval).trace := by
  have herr (text : String) : Event.line? (.err text) = none := rfl
  have hevent (e : Monitor.Event BusEvent) :
      (render filter s.stamp (.event e)).filterMap Event.line? =
        (Monitor.Event.line? e).toList := by
    cases e <;> rfl
  exact filterMap_watch s options settings interval filter texts herr hevent

/-- The run of a session that fails, fails like it. -/
theorem failsWith_watch {e : Failure}
    (h : (conducted s options settings interval).result = some (.error e)) :
    (watch s options settings interval filter (warned texts)).FailsWith e.message := by
  rw [watch_of_ended s options settings interval filter texts h]
  exact failsWith_failed _ e

/-! ## Runs that connect and runs that do not -/

/-- A run that cannot connect writes the ping at most, writes no lines and says why it failed. -/
theorem watch_of_refused {e : ConnectError}
    (h : (dialled s options settings).result = .error e) :
    let r := watch s options settings interval filter (warned texts)
    (writes r.bus = [] ∨
        ∃ handle, writes r.bus = [(handle, Report.ofPacket (Ping.packet ⟨s.nonce⟩))]) ∧
      r.lines = [] ∧ r.FailsWith ("Failed to connect to Mooltipass: " ++ e.message) := by
  intro r
  have hsession := session_of_refused s options settings interval h
  have hended : (conducted s options settings interval).result = some (.error (.connect e)) :=
    congrArg Outcome.result hsession
  have hbus : r.bus = events (dialled s options settings).trace := by
    rw [bus_watch s options settings interval filter texts, hsession,
      Monitor.sight_map_link]
  have hlines : r.lines = [] := by
    rw [lines_watch s options settings interval filter texts, hsession,
      Monitor.lines_map_link]
  rw [hbus]
  exact ⟨Device.writes_connect _ (device settings) options.verbose s.nonce, hlines,
    failsWith_watch s options settings interval filter texts hended⟩

/-- A run that watched a device: the ping and the request of every poll were written to it, in this
order, it was closed at last, and no other was ever closed. -/
structure Run.Watches (r : Run) (nonce : Nonce) (handle : HandleId)
    (polls : List (Monitor.Poll BusEvent)) : Prop where
  written : writes r.bus =
    (handle, Report.ofPacket (Ping.packet ⟨nonce⟩)) ::
      polls.map fun p => (handle, Report.ofPacket p.request.packet)
  closed : ∃ before, r.bus = before ++ [.closed handle] ∧ ∀ g, .closed g ∉ before

/-- The report after the ping carries the flags and the voltage of the command line, if the first
request is that of the command line: the command and the size of the payload, the flags as zero or
one around the voltage with its low byte first, and zeros. -/
theorem Run.Watches.first_report {r : Run} {nonce : Nonce} {handle : HandleId}
    {first : Monitor.Poll BusEvent} {later : List (Monitor.Poll BusEvent)}
    (h : r.Watches nonce handle (first :: later)) (hfirst : first.request = options.firstRequest) :
    ∃ ping report rest, writes r.bus = (handle, ping) :: (handle, report) :: rest ∧
      report.map UInt8.toNat =
        [0x00, 0x0C, 0x80, 7, 0, options.startCharging.toNat, options.stopCharging.toNat,
          options.usbScreenPower.toNat, options.batteryScreenPower.toNat,
          options.chargeVoltage.toNat % 256, options.chargeVoltage.toNat / 256,
          options.stopForceCharge.toNat] ++ List.replicate 53 0 := by
  refine ⟨_, _, _, h.written, ?_⟩
  rw [hfirst, options.firstRequest.report_eq, options.firstRequest_eq]

/-- A run that connects watches as planned. -/
theorem watch_of_connected (hplanned : (plan options interval).count ≠ 0)
    (hok : (dialled s options settings).result = .ok ()) :
    let r := watch s options settings interval filter (warned texts)
    let start := ((dialled s options settings).state.1,
      (dialled s options settings).state.2.transport)
    ∃ handle polls last, Monitor.Planned Link.transport (plan options interval) start polls last ∧
      r.Watches s.nonce handle polls ∧
      r.lines = Monitor.linesOf (plan options interval) ⟨s.clock, fun _ => none⟩ 0 polls ∧
      (polls.any Monitor.Poll.succeeds = true → r.exitCode = some 0) ∧
      (polls.any Monitor.Poll.succeeds = false →
        r.FailsWith (Monitor.Failure.noStatus (plan options interval).count).message) := by
  intro r start
  obtain ⟨polls, hpolls, hresult, hlinks, hlines⟩ := Monitor.run_planned Link.transport
    (plan options interval) ⟨s.clock, fun _ => none⟩ s.patience (dialled s options settings).state.1
    (dialled s options settings).state.2 hplanned fun _ => rfl
  obtain ⟨handle, hheld, hping, hunclosed⟩ := dialled_on_handle s options settings hok
  obtain ⟨hlast, hrequests, hkeeps⟩ := Link.polls_on_handle hpolls.chained hheld
  have hended : (watched s options settings interval).result = some _ := hresult
  have hconducted : (conducted s options settings interval).result = some _ :=
    congrArg Outcome.result (session_of_connected s options settings interval hok hended)
  obtain ⟨hseen, hwritten⟩ := seen_of_connected s options settings interval hok hended
  have hclosing : (watched s options settings interval).state.2.transport.closing =
      [.closed handle] :=
    congrArg (fun held : Option HandleId => held.toList.map BusEvent.closed) hlast
  have hbus : r.bus = (events (dialled s options settings).trace ++
      polls.flatMap fun p => events p.trace) ++ [.closed handle] := by
    rw [bus_watch s options settings interval filter texts, hseen, hclosing]
    exact congrArg (fun es => _ ++ es ++ _) hlinks
  refine ⟨handle, polls, _, hpolls, ⟨?_, _, hbus, ?_⟩, ?_, ?_, ?_⟩
  · rw [hbus, writes_append, writes_append, hping, hrequests]
    exact List.append_nil _
  · intro g hclosed
    rcases List.mem_append.mp hclosed with hdialled | hpolled
    · exact hunclosed g hdialled
    · exact hkeeps _ hpolled
  · rw [lines_watch s options settings interval filter texts, hwritten]
    exact hlines
  · intro hany
    rw [if_pos hany] at hconducted
    exact congrArg Run.exitCode
      (watch_of_ended s options settings interval filter texts hconducted)
  · intro hnone
    have hnone : ¬polls.any Monitor.Poll.succeeds = true := by
      rw [hnone]
      exact Bool.false_ne_true
    rw [if_neg hnone] at hconducted
    exact failsWith_watch s options settings interval filter texts hconducted

/-! ## The law of whole runs -/

/-- Without settings a run does nothing but fail. -/
theorem runOptions_of_unloaded {e : Settings.LoadError}
    (h : Settings.load s.read options.configFile = .error e) :
    runOptions s options = failed [] (.settings e) := by
  unfold runOptions
  simp only [h]

/-- With settings a run sets up its filter and either fails for want of an interval or watches. -/
theorem runOptions_of_loaded (h : Settings.load s.read options.configFile = .ok settings) :
    runOptions s options =
      match chosenInterval options settings with
      | .error e =>
        failed (warned (Log.Filter.ofText (filterText s options settings)).2) (.interval e)
      | .ok interval =>
        watch s options settings interval (Log.Filter.ofText (filterText s options settings)).1
          (warned (Log.Filter.ofText (filterText s options settings)).2) := by
  unfold runOptions
  simp only [h]
  cases chosenInterval options settings <;> rfl

/-- Without an interval a run does nothing but warn about its filter and fail. -/
theorem runOptions_of_invalid {e : Settings.IntervalError}
    (hload : Settings.load s.read options.configFile = .ok settings)
    (h : chosenInterval options settings = .error e) :
    (runOptions s options).bus = [] ∧ (runOptions s options).lines = [] ∧
      (runOptions s options).FailsWith e.message := by
  rw [runOptions_of_loaded s options settings hload, h]
  refine ⟨?_, ?_, failsWith_failed _ (.interval e)⟩
  · have herr (text : String) : Event.bus? (.err text) = none := rfl
    change List.filterMap _ (_ ++ _) = _
    rw [List.filterMap_append, filterMap_warned herr]
    rfl
  · have herr (text : String) : Event.line? (.err text) = none := rfl
    change List.filterMap _ (_ ++ _) = _
    rw [List.filterMap_append, filterMap_warned herr]
    rfl

/-- With an interval on the command line, that of the settings has no influence on a run. -/
theorem runOptions_of_interval {seconds : Binary64} (hgiven : options.interval = some seconds)
    (hload : Settings.load s.read options.configFile = .ok settings)
    {read : String → Except String ByteArray} {pollInterval : Binary64}
    (hload' : Settings.load read options.configFile = .ok { settings with pollInterval }) :
    runOptions { s with read } options = runOptions s options := by
  have hchosen : chosenInterval options { settings with pollInterval } =
      chosenInterval options settings := by
    rw [chosenInterval, chosenInterval, hgiven]
  rw [runOptions_of_loaded s options settings hload,
    runOptions_of_loaded { s with read } options { settings with pollInterval } hload', hchosen]
  rfl

/-- A run that connects watches as planned. -/
theorem runOptions_of_connected (hcount : options.count ≠ 0)
    (hload : Settings.load s.read options.configFile = .ok settings)
    (hchosen : chosenInterval options settings = .ok interval)
    (hok : (dialled s options settings).result = .ok ()) :
    let r := runOptions s options
    let start := ((dialled s options settings).state.1,
      (dialled s options settings).state.2.transport)
    ∃ handle polls last, Monitor.Planned Link.transport (plan options interval) start polls last ∧
      r.Watches s.nonce handle polls ∧
      r.lines = Monitor.linesOf (plan options interval) ⟨s.clock, fun _ => none⟩ 0 polls ∧
      (polls.any Monitor.Poll.succeeds = true → r.exitCode = some 0) ∧
      (polls.any Monitor.Poll.succeeds = false →
        r.FailsWith (Monitor.Failure.noStatus (plan options interval).count).message) := by
  have hplanned : (plan options interval).count ≠ 0 := by
    intro hzero
    exact hcount (UInt64.toNat_inj.mp hzero)
  rw [runOptions_of_loaded s options settings hload, hchosen]
  exact watch_of_connected s options settings interval _ _ hplanned hok

/-- All goes well: the settings can be loaded, the interval is valid, connecting succeeds, and some
poll of the plan is acknowledged with a payload of at least 20 bytes. -/
def GoesWell : Prop :=
  ∃ settings interval polls last, Settings.load s.read options.configFile = .ok settings ∧
    chosenInterval options settings = .ok interval ∧
    (dialled s options settings).result = .ok () ∧
    Monitor.Planned Link.transport (plan options interval)
      ((dialled s options settings).state.1, (dialled s options settings).state.2.transport)
      polls last ∧
    ∃ p ∈ polls, ∃ answer, p.answer = .ok answer ∧ 20 ≤ answer.payload.length

/-- Some poll succeeds exactly if some poll is acknowledged with enough bytes. -/
theorem any_succeeds_iff {κ : Type} (polls : List (Monitor.Poll κ)) :
    polls.any Monitor.Poll.succeeds = true ↔
      ∃ p ∈ polls, ∃ answer, p.answer = .ok answer ∧ 20 ≤ answer.payload.length := by
  rw [List.any_eq_true]
  simp only [Monitor.Poll.succeeds_iff_exists_answer]

/-- A run in which all goes well ends with exit code zero. -/
theorem GoesWell.exitCode (hcount : options.count ≠ 0) (h : GoesWell s options) :
    (runOptions s options).exitCode = some 0 := by
  obtain ⟨settings, interval, polls, last, hload, hchosen, hok, hpolls, hanswered⟩ := h
  obtain ⟨_, polls', _, hpolls', -, -, hsuccess, -⟩ :=
    runOptions_of_connected s options settings interval hcount hload hchosen hok
  obtain rfl := hpolls'.unique hpolls
  exact hsuccess ((any_succeeds_iff polls').mpr hanswered)

/-- All goes well in a run or it fails. -/
theorem goesWell_or_failsWith (hcount : options.count ≠ 0) :
    GoesWell s options ∨ ∃ message, (runOptions s options).FailsWith message := by
  cases hload : Settings.load s.read options.configFile with
  | error e =>
    rw [runOptions_of_unloaded s options hload]
    exact .inr ⟨_, failsWith_failed [] (.settings e)⟩
  | ok settings =>
    cases hchosen : chosenInterval options settings with
    | error e =>
      exact .inr ⟨_, (runOptions_of_invalid s options settings hload hchosen).2.2⟩
    | ok interval =>
      cases hconnect : (dialled s options settings).result with
      | error e =>
        rw [runOptions_of_loaded s options settings hload, hchosen]
        exact .inr ⟨_, (watch_of_refused s options settings interval _ _ hconnect).2.2⟩
      | ok _ =>
        obtain ⟨_, polls, last, hpolls, -, -, -, hfails⟩ :=
          runOptions_of_connected s options settings interval hcount hload hchosen hconnect
        cases hany : polls.any Monitor.Poll.succeeds with
        | true =>
          have hanswered := (any_succeeds_iff polls).mp hany
          exact .inl ⟨settings, interval, polls, last, hload, hchosen, hconnect, hpolls, hanswered⟩
        | false => exact .inr ⟨_, hfails hany⟩

/-- The law of runs with a planned number of polls, for all surroundings.

If the settings cannot be loaded or the interval is not valid, nothing happens on the bus. If
connecting fails, the ping is the only report that may be written. Otherwise the ping is followed by
exactly the planned number of requests to the same handle, the first of which is that of the command
line and carries its flags and its voltage in their places, and the handle is closed after the last
of them, whatever came of the polls. The lines are those of the polls that succeeded, one each. The
exit code is zero exactly if all of this went well and some poll was acknowledged with a payload of
at least 20 bytes; otherwise it is one and the failure is reported. With an interval on the command
line, that of the settings has no influence. -/
theorem watching_law (hcount : options.count ≠ 0) :
    let r := runOptions s options
    let loaded := Settings.load s.read options.configFile
    (∀ e, loaded = .error e → r.bus = [] ∧ r.lines = [] ∧ r.FailsWith e.message) ∧
    (∀ settings e, loaded = .ok settings → chosenInterval options settings = .error e →
      r.bus = [] ∧ r.lines = [] ∧ r.FailsWith e.message) ∧
    (∀ settings interval, loaded = .ok settings → chosenInterval options settings = .ok interval →
      let connected := dialled s options settings
      (∀ e, connected.result = .error e →
        (writes r.bus = [] ∨
          ∃ handle, writes r.bus = [(handle, Report.ofPacket (Ping.packet ⟨s.nonce⟩))]) ∧
        r.lines = [] ∧ r.FailsWith ("Failed to connect to Mooltipass: " ++ e.message)) ∧
      (connected.result = .ok () → ∃ handle polls last,
        Monitor.Planned Link.transport (plan options interval)
          (connected.state.1, connected.state.2.transport) polls last ∧
        polls.length = options.count.toNat ∧
        (∃ first later, polls = first :: later ∧ first.request = options.firstRequest) ∧
        r.Watches s.nonce handle polls ∧
        (∃ ping report rest, writes r.bus = (handle, ping) :: (handle, report) :: rest ∧
          report.map UInt8.toNat =
            [0x00, 0x0C, 0x80, 7, 0, options.startCharging.toNat, options.stopCharging.toNat,
              options.usbScreenPower.toNat, options.batteryScreenPower.toNat,
              options.chargeVoltage.toNat % 256, options.chargeVoltage.toNat / 256,
              options.stopForceCharge.toNat] ++ List.replicate 53 0) ∧
        r.lines = Monitor.linesOf (plan options interval) ⟨s.clock, fun _ => none⟩ 0 polls ∧
        r.lines.length = polls.countP Monitor.Poll.succeeds ∧
        ((∀ number, '\n' ∉ (s.clock number).toList) → ∀ line ∈ r.lines, '\n' ∉ line.toList))) ∧
    (r.exitCode = some 0 ↔ GoesWell s options) ∧
    (r.exitCode ≠ some 0 → ∃ message, r.FailsWith message) ∧
    (∀ seconds settings read pollInterval, options.interval = some seconds →
      loaded = .ok settings →
      Settings.load read options.configFile = .ok { settings with pollInterval } →
      runOptions { s with read } options = r) := by
  intro r loaded
  refine ⟨?_, ?_, ?_, ?_, ?_, ?_⟩
  · intro e hload
    have hrun : r = failed [] (.settings e) := runOptions_of_unloaded s options hload
    rw [hrun]
    exact ⟨rfl, rfl, failsWith_failed [] (.settings e)⟩
  · intro settings e hload hchosen
    exact runOptions_of_invalid s options settings hload hchosen
  · intro settings interval hload hchosen connected
    refine ⟨?_, ?_⟩
    · intro e hrefused
      have hrun : r = _ := runOptions_of_loaded s options settings hload
      rw [hrun, hchosen]
      exact watch_of_refused s options settings interval _ _ hrefused
    · intro hok
      obtain ⟨handle, polls, last, hpolls, hwatches, hlines, -, -⟩ :=
        runOptions_of_connected s options settings interval hcount hload hchosen hok
      have hcounted : polls.length = options.count.toNat := hpolls.counted
      have hpolled : ∃ first later, polls = first :: later ∧
          first.request = options.firstRequest := by
        cases polls with
        | nil => exact absurd (UInt64.toNat_inj.mp hcounted.symm) hcount
        | cons first later => exact ⟨first, later, rfl, hpolls.requested [] first later rfl⟩
      refine ⟨handle, polls, last, hpolls, hcounted, hpolled, hwatches, ?_, hlines, ?_, ?_⟩
      · obtain ⟨first, later, rfl, hfirst⟩ := hpolled
        exact hwatches.first_report options hfirst
      · rw [hlines, Monitor.length_linesOf]
      · intro hclock
        rw [hlines]
        exact Monitor.newline_notMem_linesOf _ _ 0 polls hclock
  · constructor
    · intro hzero
      rcases goesWell_or_failsWith s options hcount with hwell | ⟨_, hfails⟩
      · exact hwell
      · have hone := hfails.exitCode
        rw [hzero] at hone
        cases hone
    · exact GoesWell.exitCode s options hcount
  · intro hnonzero
    rcases goesWell_or_failsWith s options hcount with hwell | hfails
    · exact absurd (hwell.exitCode s options hcount) hnonzero
    · exact hfails
  · intro seconds settings read pollInterval hgiven hload hload'
    exact runOptions_of_interval s options settings hgiven hload hload'

/-- Surroundings with one stock device, which echoes the ping, does not answer the first request and
refuses the second. -/
def unanswered : Surroundings where
  arguments := []
  read := fun _ => .error "no such file"
  filter := none
  nonce := ⟨1, 2, 3, 4⟩
  bus := ⟨none, [⟨.stock, none, fun _ => .absent, [.echo none, .silent, .refuseWrite "gone"]⟩]⟩
  clock := fun _ => "12:00:00"
  stamp := ""
  patience := 0

/-- The handle is closed after two polls that failed, the first of which carried the flag. -/
theorem closed_after_failures :
    (2 : UInt64) ≠ 0 ∧ ∃ handle polls,
      let r := runOptions unanswered { count := 2, startCharging := true }
      r.Watches ⟨1, 2, 3, 4⟩ handle polls ∧ polls.length = 2 ∧
      (∃ first later, polls = first :: later ∧ first.request = { startCharging := true }) ∧
      ∃ ping report rest, writes r.bus = (handle, ping) :: (handle, report) :: rest ∧
        report.map UInt8.toNat =
          [0x00, 0x0C, 0x80, 7, 0, 1, 0, 0, 0, 0, 0, 0] ++ List.replicate 53 0 := by
  have hcount : (2 : UInt64) ≠ 0 := by decide
  have hopens : unanswered.bus.Opens .stock 0 :=
    ⟨rfl, _, ⟨rfl, rfl, fun earlier hearlier => absurd hearlier (Nat.not_lt_zero earlier)⟩, rfl⟩
  have hok : (dialled unanswered { count := 2, startCharging := true } Settings.stock).result =
      .ok () :=
    Device.connect_of_echo _ (device Settings.stock) false ⟨1, 2, 3, 4⟩ hopens rfl
  have hinterval : chosenInterval { count := 2, startCharging := true } Settings.stock =
      .ok ⟨5, 0, by decide⟩ := by rfl
  obtain ⟨-, -, hconnected, -⟩ :=
    watching_law unanswered { count := 2, startCharging := true } hcount
  obtain ⟨handle, polls, -, -, hlength, hfirst, hwatches, hreport, -⟩ :=
    (hconnected Settings.stock _ rfl hinterval).2 hok
  exact ⟨hcount, handle, polls, hwatches, hlength, hfirst, hreport⟩

end BatteryWatch.Program
