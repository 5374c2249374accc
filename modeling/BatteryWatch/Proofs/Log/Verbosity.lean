import BatteryWatch.Proofs.Log.LevelFilter
import BatteryWatch.Proofs.Log.Narration
import BatteryWatch.Proofs.WholeRun

/-!
# What a run prints of its log

A run logs the same records whatever its filter is (`Program.logged`); the filter decides which of
them are printed on the standard error output (`Program.prints_runOptions`). The filter of a verbose
run is that of the environment, if there is one, and else that of debugging records, which lets
everything through that a run logs. So all is printed exactly if the environment does not stand
against it, whatever the settings say: `Program.verbosity_law`.
-/

namespace BatteryWatch.Program

/-! ## The standard error output -/

/-- The text on the standard error output that an event is, if it is one. -/
def Event.err? : Event → Option String
  | .err text => some text
  | _ => none

namespace Run

/-- The texts that a run writes to the standard error output. -/
def errors (r : Run) : List String := r.trace.filterMap Event.err?

/-- Some texts report how a run failed: one of them if it did fail, and none if not. -/
def Reports (r : Run) (report : List String) : Prop :=
  if r.exitCode = some 1 then ∃ message, report = ["Error: " ++ message ++ "\n"] else report = []

/-- All that a run writes to the standard error output are some warnings, then the lines of some
records, in their order, and last how it failed if it did. -/
def Prints (r : Run) (stamp : String) (warnings : List String) (rs : List Log.Record) : Prop :=
  ∃ report, r.Reports report ∧
    r.errors = warnings.map (· ++ "\n") ++ (rs.map (logLine stamp) ++ report)

variable {r : Run} {stamp : String} {warnings : List String} {rs rs' : List Log.Record}

/-- Whether a run failed decides how many texts report it. -/
theorem Reports.length_eq {report report' : List String} (h : r.Reports report)
    (h' : r.Reports report') : report.length = report'.length := by
  unfold Reports at h h'
  split at h
  case isTrue hfailed =>
    rw [if_pos hfailed] at h'
    obtain ⟨_, rfl⟩ := h
    obtain ⟨_, rfl⟩ := h'
    rfl
  case isFalse hfailed =>
    rw [if_neg hfailed] at h'
    rw [h, h']

/-- A run prints the same lines whichever records they are taken for. -/
theorem Prints.lines_eq (h : r.Prints stamp warnings rs) (h' : r.Prints stamp warnings rs') :
    rs.map (logLine stamp) = rs'.map (logLine stamp) := by
  obtain ⟨report, hreport, herrors⟩ := h
  obtain ⟨report', hreport', herrors'⟩ := h'
  have hsame := List.append_cancel_left (herrors.symm.trans herrors')
  exact List.append_inj_left' hsame (hreport.length_eq hreport')

/-- A run that prints those of some records that pass prints all of them exactly if they all
pass. -/
theorem Prints.all_iff {passes : Log.Record → Bool}
    (h : r.Prints stamp warnings (rs.filter passes)) :
    r.Prints stamp warnings rs ↔ ∀ record ∈ rs, passes record = true := by
  constructor
  · intro hall
    have hlength := congrArg List.length (h.lines_eq hall)
    rw [List.length_map, List.length_map] at hlength
    exact List.length_filter_eq_length_iff.mp hlength
  · intro hpass
    rwa [List.filter_eq_self.mpr hpass] at h

end Run

variable (s : Surroundings) (options : CommandLine.Options) (settings : Settings)
  (interval : Duration)

/-- Of a session those records are printed that the filter lets through. -/
theorem errors_render (filter : Log.Filter) (stamp : String)
    (trace : List (Entry (Monitor.Event BusEvent))) :
    (trace.flatMap (render filter stamp)).filterMap Event.err? =
      ((records trace).filter filter.allows).map (logLine stamp) := by
  induction trace with
  | nil => rfl
  | cons entry trace ih =>
    rw [List.flatMap_cons, List.filterMap_append, ih]
    cases entry with
    | record r =>
      rw [records_cons_record, render]
      cases hallows : filter.allows r with
      | true => simp [hallows, Event.err?]
      | false => simp [hallows]
    | event e => cases e <;> rfl

/-- Warnings are printed as they are. -/
theorem errors_warned (texts : List String) :
    (warned texts).filterMap Event.err? = texts.map (· ++ "\n") := by
  induction texts with
  | nil => rfl
  | cons text texts ih => exact congrArg (_ :: ·) ih

/-- A run that watches prints warnings and those records of its session that the filter lets
through. -/
theorem prints_watch (filter : Log.Filter) (texts : List String) :
    (watch s options settings interval filter (warned texts)).Prints s.stamp texts
      ((records (conducted s options settings interval).trace).filter filter.allows) := by
  have hsession := errors_render filter s.stamp (conducted s options settings interval).trace
  cases hresult : (conducted s options settings interval).result with
  | none =>
    rw [watch_of_unended s options settings interval filter texts hresult]
    refine ⟨[], rfl, ?_⟩
    simp [Run.errors, errors_warned, hsession]
  | some result =>
    rw [watch_of_ended s options settings interval filter texts hresult]
    cases result with
    | ok _ =>
      refine ⟨[], rfl, ?_⟩
      simp [Run.errors, errors_warned, hsession]
    | error e =>
      refine ⟨["Error: " ++ e.message ++ "\n"], ⟨e.message, rfl⟩, ?_⟩
      simp [Run.errors, failed, errors_warned, hsession, Event.err?]

/-! ## The records of a run -/

/-- The records that a run logs once its filter is set up: those of its session, if it gets that
far. -/
def logged : List Log.Record :=
  match chosenInterval options settings with
  | .error _ => []
  | .ok interval => records (conducted s options settings interval).trace

/-- A run that loads its settings prints warnings about its filter and those of its records that the
filter lets through. -/
theorem prints_runOptions (hload : Settings.load s.read options.configFile = .ok settings) :
    let filter := Log.Filter.ofText (filterText s options settings)
    (runOptions s options).Prints s.stamp filter.2
      ((logged s options settings).filter filter.1.allows) := by
  intro filter
  rw [runOptions_of_loaded s options settings hload, logged]
  cases chosenInterval options settings with
  | error e =>
    refine ⟨["Error: " ++ e.message ++ "\n"], ⟨e.message, rfl⟩, ?_⟩
    change List.filterMap _ (_ ++ _) = _
    rw [List.filterMap_append, errors_warned]
    rfl
  | ok interval => exact prints_watch s options settings interval filter.1 filter.2

/-- What a run logs are debugging records and graver ones. -/
theorem rank_le_of_mem_logged : ∀ record ∈ logged s options settings,
    record.level.rank ≤ Log.Level.debug.rank := by
  rw [logged]
  cases chosenInterval options settings with
  | error e => exact List.forall_mem_nil _
  | ok interval =>
    exact (tells_session s options interval (Host.ofBus s.bus, device settings)).levels

/-- A run logs every transfer on the bus, in order, and no other. -/
theorem transfers_logged (hload : Settings.load s.read options.configFile = .ok settings) :
    (logged s options settings).filter Log.Record.isTransfer =
      (s.bus.transfers (runOptions s options).bus).map Transfer.record := by
  cases hchosen : chosenInterval options settings with
  | error e =>
    rw [(runOptions_of_invalid s options settings hload hchosen).1, logged, hchosen]
    rfl
  | ok interval =>
    rw [runOptions_of_loaded s options settings hload, logged, hchosen, bus_watch]
    exact (tells_session s options interval (Host.ofBus s.bus, device settings)).told none

/-- A run logs every report that it writes. -/
theorem sent_mem_logged (hload : Settings.load s.read options.configFile = .ok settings)
    {g : HandleId} {report : List UInt8} (h : .wrote g report ∈ (runOptions s options).bus) :
    (Transfer.sent report).record ∈ logged s options settings := by
  have hsent : (Transfer.sent report).record ∈
      (s.bus.transfers (runOptions s options).bus).map Transfer.record :=
    List.mem_map_of_mem (Listener.sent_mem_transfers h ⟨s.bus, none⟩)
  rw [← transfers_logged s options settings hload] at hsent
  exact (List.mem_filter.mp hsent).1

/-- The first thing that a run logs is that it connects. -/
theorem logged_of_chosen (h : chosenInterval options settings = .ok interval) :
    ∃ later, logged s options settings =
      ⟨.debug, .device, "Connecting with " ++ (Ping.packet ⟨s.nonce⟩).display⟩ :: later := by
  rw [logged, h]
  exact ⟨_, rfl⟩

/-! ## Verbose runs -/

/-- The filter of a verbose run is that of the environment or else that of debugging records. -/
theorem filterText_of_verbose (hverbose : options.verbose = true) :
    filterText s options settings = s.filter.getD "debug" := by
  rw [filterText, hverbose]
  rfl

/-- The log level of the settings has no influence on a verbose run. -/
theorem runOptions_of_logLevel (hverbose : options.verbose = true)
    (hload : Settings.load s.read options.configFile = .ok settings)
    {read : String → Except String ByteArray} {logLevel : String}
    (hload' : Settings.load read options.configFile = .ok { settings with logLevel }) :
    runOptions { s with read } options = runOptions s options := by
  have hchosen : chosenInterval options { settings with logLevel } =
      chosenInterval options settings := by
    unfold chosenInterval
    cases options.interval <;> rfl
  rw [runOptions_of_loaded s options settings hload,
    runOptions_of_loaded { s with read } options { settings with logLevel } hload', hchosen,
    filterText_of_verbose _ _ _ hverbose, filterText_of_verbose _ _ _ hverbose]
  rfl

/-- A verbose run whose filter is that of a rank prints the records up to this rank, and no
warnings. -/
theorem prints_of_upTo (hverbose : options.verbose = true)
    (hload : Settings.load s.read options.configFile = .ok settings) {rank : Nat}
    (hfilter : Log.Filter.ofText (s.filter.getD "debug") = (.upTo rank, [])) :
    (runOptions s options).Prints s.stamp []
      ((logged s options settings).filter fun record => record.level.rank ≤ rank) := by
  have hallows : (Log.Filter.upTo rank).allows = fun record => decide (record.level.rank ≤ rank) :=
    funext (Log.Filter.allows_upTo rank)
  have hprints := prints_runOptions s options settings hload
  rw [filterText_of_verbose _ _ _ hverbose, hfilter] at hprints
  rw [← hallows]
  exact hprints

/-- The law of verbose runs, for all surroundings and all settings that can be loaded.

Whatever the filter, a run logs only debugging records and graver ones, among them exactly one for
each transfer on the bus, in their order, and at first, if it has an interval, that it connects. Of
these records it prints those that its filter lets through, after the warnings about the filter, so
that all are printed exactly if the filter lets all of them through. Without a filter in the
environment all are printed, and there is nothing to warn about. A filter in the environment
overrules this: one that names a level leaves out what is less grave, and a blank one all but the
errors. The log level of the settings has no influence. -/
theorem verbosity_law (hverbose : options.verbose = true)
    (hparse : CommandLine.parse s.arguments = .ok options)
    (hload : Settings.load s.read options.configFile = .ok settings) :
    let r := run s
    let rs := logged s options settings
    let filter := Log.Filter.ofText (s.filter.getD "debug")
    (∀ record ∈ rs, record.level.rank ≤ Log.Level.debug.rank) ∧
    rs.filter Log.Record.isTransfer = (s.bus.transfers r.bus).map Transfer.record ∧
    (∀ interval, chosenInterval options settings = .ok interval → ∃ later,
      rs = ⟨.debug, .device, "Connecting with " ++ (Ping.packet ⟨s.nonce⟩).display⟩ :: later) ∧
    r.Prints s.stamp filter.2 (rs.filter filter.1.allows) ∧
    (r.Prints s.stamp filter.2 rs ↔ ∀ record ∈ rs, filter.1.allows record = true) ∧
    (s.filter = none → r.Prints s.stamp [] rs) ∧
    (∀ text rank, s.filter = some text → Log.rankOfName? text = some rank →
      r.Prints s.stamp [] (rs.filter fun record => record.level.rank ≤ rank)) ∧
    (∀ text, s.filter = some text → (∀ c ∈ text.toList, Text.isWhitespace c = true) →
      r.Prints s.stamp [] (rs.filter fun record => record.level.rank ≤ Log.Level.error.rank)) ∧
    ∀ read logLevel, Settings.load read options.configFile = .ok { settings with logLevel } →
      run { s with read } = r := by
  have hrun (read : String → Except String ByteArray) :
      run { s with read } = runOptions { s with read } options := by
    unfold run
    simp only [hparse]
  intro r rs filter
  have hr : r = runOptions s options := hrun s.read
  have hprints : r.Prints s.stamp filter.2 (rs.filter filter.1.allows) := by
    have hfilter : Log.Filter.ofText (filterText s options settings) = filter :=
      congrArg Log.Filter.ofText (filterText_of_verbose s options settings hverbose)
    rw [hr, ← hfilter]
    exact prints_runOptions s options settings hload
  have hupTo {text : String} {rank : Nat} (htext : s.filter.getD "debug" = text)
      (h : Log.Filter.ofText text = (.upTo rank, [])) :
      r.Prints s.stamp [] (rs.filter fun record => record.level.rank ≤ rank) := by
    rw [hr]
    exact prints_of_upTo s options settings hverbose hload (htext ▸ h)
  have hlevels := rank_le_of_mem_logged s options settings
  refine ⟨hlevels, ?_, fun interval => logged_of_chosen s options settings interval, hprints,
    hprints.all_iff, ?_, ?_, ?_, ?_⟩
  · rw [hr]
    exact transfers_logged s options settings hload
  · intro hnone
    have hdebug : Log.rankOfName? "debug" = some Log.Level.debug.rank := by decide +kernel
    have hall := hupTo (hnone ▸ rfl) (Log.Filter.ofText_of_levelName hdebug)
    rwa [List.filter_eq_self.mpr fun record h => decide_eq_true (hlevels record h)] at hall
  · intro text rank hsome hname
    exact hupTo (hsome ▸ rfl) (Log.Filter.ofText_of_levelName hname)
  · intro text hsome hblank
    exact hupTo (hsome ▸ rfl) (Log.Filter.ofText_of_blank hblank)
  · intro read logLevel hload'
    rw [hrun, hr]
    exact runOptions_of_logLevel s options settings hverbose hload hload'

/-- A verbose run that sends a ping prints that it does; if the environment asks for errors alone,
it logs that as well but does not print all that it logs. -/
theorem printed_unless_overruled :
    let s := { unanswered with arguments := ["--verbose"] }
    let overruled := { s with filter := some "error" }
    let options : CommandLine.Options := { verbose := true }
    let ping := Transfer.sent (Report.ofPacket (Ping.packet ⟨s.nonce⟩))
    CommandLine.parse s.arguments = .ok options ∧
      Settings.load s.read options.configFile = .ok .stock ∧
      ping.record ∈ logged s options .stock ∧
      (run s).Prints s.stamp [] (logged s options .stock) ∧
      ping.record ∈ logged overruled options .stock ∧
      ¬(run overruled).Prints s.stamp [] (logged overruled options .stock) := by
  intro s overruled options ping
  have hparse : CommandLine.parse s.arguments = .ok options := by decide +kernel
  have hload : Settings.load s.read options.configFile = .ok .stock := rfl
  have hping : ping.record ∈ logged s options .stock := by
    have hopens : s.bus.Opens .stock 0 :=
      ⟨rfl, _, ⟨rfl, rfl, fun earlier hearlier => absurd hearlier (Nat.not_lt_zero earlier)⟩, rfl⟩
    have hok : (dialled s options .stock).result = .ok () :=
      Device.connect_of_echo _ (device .stock) true s.nonce hopens rfl
    obtain ⟨handle, polls, _, -, hwatches, -⟩ :=
      runOptions_of_connected s options .stock _ (by decide) hload rfl hok
    have hwritten : (handle, Report.ofPacket (Ping.packet ⟨s.nonce⟩)) ∈
        writes (runOptions s options).bus := hwatches.written ▸ List.mem_cons_self
    exact sent_mem_logged s options .stock hload (mem_writes.mp hwritten)
  obtain ⟨-, -, -, -, -, hall, -⟩ := verbosity_law s options .stock rfl hparse hload
  obtain ⟨-, -, hconnecting, -, hiff, -⟩ := verbosity_law overruled options .stock rfl hparse hload
  obtain ⟨later, hfirst⟩ := hconnecting _ rfl
  have hfilter : Log.Filter.ofText "error" = (.upTo Log.Level.error.rank, []) :=
    Log.Filter.ofText_of_levelName (by decide +kernel)
  refine ⟨hparse, hload, hping, hall rfl, hping, ?_⟩
  intro hprints
  change (run overruled).Prints s.stamp (Log.Filter.ofText "error").2 _ ↔
    ∀ record ∈ _, (Log.Filter.ofText "error").1.allows record = true at hiff
  rw [hfilter, hfirst] at hiff
  rw [hfirst] at hprints
  -- the record of connecting is none of an error
  have hallowed := hiff.mp hprints _ List.mem_cons_self
  rw [Log.Filter.allows_upTo] at hallowed
  exact absurd hallowed (by decide)

end BatteryWatch.Program
