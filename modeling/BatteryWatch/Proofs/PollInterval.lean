import BatteryWatch.Proofs.Answer
import BatteryWatch.Proofs.Seconds
import BatteryWatch.Proofs.WholeRun

/-!
# The time between polls

Which numbers of seconds between polls are accepted, and what becomes of them. The number that
applies is that of the command line, or else that of the settings (`Program.appliedSeconds`); both
are converted in the same way. A run waits for nothing but the duration of that number
(`Program.waits_watch`), and a number that is refused ends the run before anything happens on the
bus. `Program.interval_law` is the law of both sources and of all runs.
-/

namespace BatteryWatch

namespace Settings

/-- A number of seconds is converted to the same durations wherever it comes from. -/
theorem interval_eq_ok_iff {what : String} {x : Binary64} {d : Duration} :
    interval what x = .ok d ↔ Duration.ofSeconds x = .ok d :=
  mapError_eq_ok_iff

/-- A number of seconds that is no duration is reported with where it comes from. -/
theorem exists_interval_eq_error (what : String) {x : Binary64} (h : ¬x.IsSpan) :
    ∃ cause, interval what x = .error ⟨what, x, cause⟩ := by
  rcases Duration.ofSeconds_cases x with ⟨hspan, -⟩ | ⟨-, cause, hcause⟩
  · exact absurd hspan h
  · refine ⟨cause, ?_⟩
    rw [interval, hcause]
    rfl

end Settings

namespace Monitor

variable {κ ω τ : Type}

/-- Watching waits for nothing but the planned time. -/
theorem Ending.eq_of_mem_sleeps {plan : Plan} {output : Output} {patience : Nat}
    {polls : List (Poll κ)} {result : Option (Except Failure Unit)} {trace : List (Entry (Event κ))}
    (h : Ending plan output (if plan.count = 0 then patience else plan.count) [] polls result trace)
    {d : Duration} (hd : d ∈ (sight trace).sleeps) : d = plan.interval := by
  rcases h.seen.2 with hcompleted | hinterrupted
  · rw [hcompleted.sleeps] at hd
    exact List.eq_of_mem_replicate hd
  · obtain ⟨earlier, _, _, -, -, -, -, -, hsleeps, -⟩ := hinterrupted.last
    rw [hsleeps] at hd
    exact List.eq_of_mem_replicate hd

end Monitor

namespace Program

/-! ## The waits of a run -/

/-- The time that an event waits, if it does. -/
def Event.sleep? : Event → Option Duration
  | .sleep interval => some interval
  | _ => none

/-- The times that a run waits between its polls. -/
def Run.waits (r : Run) : List Duration := r.trace.filterMap Event.sleep?

variable (s : Surroundings) (options : CommandLine.Options) (settings : Settings)
  (interval : Duration)

/-- Watching in a run waits for nothing but the given time. -/
theorem eq_of_mem_watched {d : Duration}
    (hd : d ∈ (Monitor.sight (watched s options settings interval).trace).sleeps) :
    d = interval := by
  obtain ⟨_, -, -, -, hending⟩ := Monitor.run_ending Link.transport
    (plan options interval) ⟨s.clock, fun _ => none⟩ s.patience (dialled s options settings).state.1
    (dialled s options settings).state.2
  exact hending.eq_of_mem_sleeps hd

/-- A session waits for nothing but the given time. -/
theorem eq_of_mem_conducted {d : Duration}
    (hd : d ∈ (Monitor.sight (conducted s options settings interval).trace).sleeps) :
    d = interval := by
  -- connecting does not wait, nor does the record after it
  have hconnected {rest : List (Entry (Monitor.Event BusEvent))}
      (h : d ∈ (Monitor.sight ((dialled s options settings).trace.map (Entry.map .link) ++
        .record ⟨.info, .program, "Connected"⟩ :: rest)).sleeps) :
      d ∈ (Monitor.sight rest).sleeps := by
    rw [Monitor.sight_append, Monitor.sight_map_link] at h
    exact h
  cases hresult : (dialled s options settings).result with
  | error e =>
    rw [session_of_refused s options settings interval hresult, Monitor.sight_map_link] at hd
    cases hd
  | ok _ =>
    cases hended : (watched s options settings interval).result with
    | none =>
      rw [session_of_unended s options settings interval hresult hended] at hd
      exact eq_of_mem_watched s options settings interval (hconnected hd)
    | some result =>
      rw [session_of_connected s options settings interval hresult hended] at hd
      have hlater := hconnected hd
      rw [Monitor.sight_append, Monitor.sight_map_link, List.append_nil] at hlater
      exact eq_of_mem_watched s options settings interval hlater

/-- A run that watches waits for nothing but the given time. -/
theorem waits_watch (filter : Log.Filter) (texts : List String) {d : Duration}
    (hd : d ∈ (watch s options settings interval filter (warned texts)).waits) : d = interval := by
  have herr (text : String) : Event.sleep? (.err text) = none := rfl
  have hevent (e : Monitor.Event BusEvent) :
      (render filter s.stamp (.event e)).filterMap Event.sleep? =
        (Monitor.Event.sleep? e).toList := by
    cases e <;> rfl
  have hwaits : (watch s options settings interval filter (warned texts)).waits =
      (Monitor.sight (conducted s options settings interval).trace).sleeps :=
    filterMap_watch s options settings interval filter texts herr hevent
  rw [hwaits] at hd
  exact eq_of_mem_conducted s options settings interval hd

/-! ## The number that applies -/

/-- The number of seconds between polls that applies: that of the command line, or else that of the
settings. -/
def appliedSeconds : Binary64 := options.interval.getD settings.pollInterval

/-- What the number of seconds that applies is called in errors. -/
def intervalName : String := if options.interval.isSome then "interval" else "poll interval"

/-- The time between polls is converted from the number that applies. -/
theorem chosenInterval_eq :
    chosenInterval options settings =
      Settings.interval (intervalName options) (appliedSeconds options settings) := by
  unfold chosenInterval intervalName appliedSeconds
  cases options.interval <;> rfl

/-- A run with a number of seconds that is no duration does nothing but warn about its filter and
fail. -/
theorem runOptions_of_not_isSpan (hload : Settings.load s.read options.configFile = .ok settings)
    (h : ¬(appliedSeconds options settings).IsSpan) :
    let r := runOptions s options
    r.bus = [] ∧ r.lines = [] ∧ r.waits = [] ∧ ∃ cause, r.FailsWith (Settings.IntervalError.message
      ⟨intervalName options, appliedSeconds options settings, cause⟩) := by
  intro r
  obtain ⟨cause, hcause⟩ := Settings.exists_interval_eq_error (intervalName options) h
  have hchosen := (chosenInterval_eq options settings).trans hcause
  obtain ⟨hbus, hlines, hfails⟩ := runOptions_of_invalid s options settings hload hchosen
  have herr (text : String) : Event.sleep? (.err text) = none := rfl
  have hwaits : r.waits = [] := by
    change (runOptions s options).waits = []
    rw [runOptions_of_loaded s options settings hload, hchosen]
    change List.filterMap _ (_ ++ _) = _
    rw [List.filterMap_append, filterMap_warned herr]
    rfl
  exact ⟨hbus, hlines, hwaits, cause, hfails⟩

/-- A run with a number of seconds that is a duration watches with this duration. -/
theorem runOptions_of_isSpan (hload : Settings.load s.read options.configFile = .ok settings)
    (h : (appliedSeconds options settings).IsSpan) :
    let filter := Log.Filter.ofText (filterText s options settings)
    ∃ d, d.Measures (appliedSeconds options settings) ∧
      runOptions s options = watch s options settings d filter.1 (warned filter.2) := by
  intro filter
  obtain ⟨d, hd⟩ := (Duration.converts_ofSeconds.accepted _).mpr h
  have hchosen : chosenInterval options settings = .ok d := by
    rw [chosenInterval_eq]
    exact Settings.interval_eq_ok_iff.mpr hd
  refine ⟨d, ((Duration.converts_ofSeconds.measured _ d).mp hd).2, ?_⟩
  rw [runOptions_of_loaded s options settings hload, hchosen]

/-- The law of the time between polls, for all bits of the number in the settings and of the number
on the command line, and for all surroundings.

Either number is accepted exactly if it is defined, not below zero and below `2 ^ 64`; the duration
is then the number rounded to the nearest nanosecond, a tie going to the even one, and the larger of
two numbers is not the shorter duration. The same bits are the same duration in both places, and
the number of the settings applies if the command line has none. If the number that applies is not
accepted, the run fails before anything happens on the bus; if it is, the run watches with its
duration and waits for nothing else. -/
theorem interval_law :
    Duration.Converts (fun x => { settings with pollInterval := x }.pollDuration) ∧
    Duration.Converts (fun x => chosenInterval { options with interval := some x } settings) ∧
    (∀ x d, chosenInterval { options with interval := some x } settings = .ok d ↔
      { settings with pollInterval := x }.pollDuration = .ok d) ∧
    (options.interval = none → chosenInterval options settings = settings.pollDuration) ∧
    (CommandLine.parse s.arguments = .ok options →
      Settings.load s.read options.configFile = .ok settings →
      let x := appliedSeconds options settings
      let filter := Log.Filter.ofText (filterText s options settings)
      let r := run s
      (¬x.IsSpan → r.bus = [] ∧ r.lines = [] ∧ r.waits = [] ∧
        ∃ cause, r.FailsWith (Settings.IntervalError.message ⟨intervalName options, x, cause⟩)) ∧
      (x.IsSpan → ∃ d, d.Measures x ∧
        r = watch s options settings d filter.1 (warned filter.2) ∧
        ∀ wait ∈ r.waits, wait = d)) := by
  refine ⟨?_, ?_, ?_, ?_, ?_⟩
  · exact Duration.converts_ofSeconds.congr fun x d => Settings.interval_eq_ok_iff
  · exact Duration.converts_ofSeconds.congr fun x d => Settings.interval_eq_ok_iff
  · intro x d
    exact Settings.interval_eq_ok_iff.trans Settings.interval_eq_ok_iff.symm
  · intro hnone
    rw [chosenInterval, hnone]
  · intro hparse hload x filter r
    have hrun : r = runOptions s options := by
      change run s = _
      rw [run, hparse]
    rw [hrun]
    refine ⟨runOptions_of_not_isSpan s options settings hload, ?_⟩
    intro hspan
    obtain ⟨d, hmeasures, hwatch⟩ := runOptions_of_isSpan s options settings hload hspan
    refine ⟨d, hmeasures, hwatch, ?_⟩
    intro wait hwait
    rw [hwatch] at hwait
    exact waits_watch s options settings d filter.1 filter.2 hwait

/-- A run with an undefined number of seconds on the command line does nothing on the bus. -/
theorem idle_of_undefined_interval :
    let s := { unanswered with arguments := ["--interval=NaN"] }
    let options : CommandLine.Options := { interval := some Binary64.notANumber }
    CommandLine.parse s.arguments = .ok options ∧
      Settings.load s.read options.configFile = .ok .stock ∧ (run s).bus = [] := by
  intro s options
  have hparse : CommandLine.parse s.arguments = .ok options := by decide +kernel
  obtain ⟨haccepted, -, -, -, hruns⟩ := interval_law s options .stock
  have hrefused : ¬Binary64.notANumber.IsSpan := by
    rintro hspan
    obtain ⟨d, hd⟩ := (haccepted.accepted _).mpr hspan
    cases hd
  exact ⟨hparse, rfl, ((hruns hparse rfl).1 hrefused).1⟩

end Program

end BatteryWatch
