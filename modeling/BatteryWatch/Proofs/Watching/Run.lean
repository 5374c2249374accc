import BatteryWatch.Proofs.Watching.Poll

/-!
# Watching the battery

Watching is a chain of polls, each of which starts where the one before it ended (`Monitor.Chain`),
and these polls decide everything else. `Monitor.follow_law` says how watching ends after some polls
and gives its whole trace; it goes by induction on the number of polls that may still be made, over
any polls made before. `Monitor.run_law` is the complete law of a run in terms of what is seen of it
from outside: the events of the transport, the text that is written and the waits.
-/

namespace BatteryWatch.Monitor

variable {κ ω τ : Type}

/-! ## Chains of polls -/

/-- The exchanges of some polls, each in the state that the one before it left. -/
inductive Chain (T : Transport κ ω τ) : ω × τ → List (Poll κ) → ω × τ → Prop
  | nil (s : ω × τ) : Chain T s [] s
  | cons {s next last : ω × τ} {p : Poll κ} {polls : List (Poll κ)}
      (exchanged : T.exchange p.request.packet s = ⟨p.answer, next, p.trace⟩)
      (rest : Chain T next polls last) : Chain T s (p :: polls) last

/-- Every poll is in a relation to all polls before it. -/
def Throughout (R : List (Poll κ) → Poll κ → Prop) (before polls : List (Poll κ)) : Prop :=
  ∀ earlier p later, polls = earlier ++ p :: later → R (before ++ earlier) p

namespace Throughout

variable {R : List (Poll κ) → Poll κ → Prop} {before polls : List (Poll κ)}

/-- No poll is in any relation. -/
theorem nil : Throughout R before [] := by
  intro earlier p later h
  cases earlier <;> cases h

/-- What holds of the first poll and of the polls after it holds throughout. -/
theorem cons {p : Poll κ} (hfirst : R before p) (hrest : Throughout R (before ++ [p]) polls) :
    Throughout R before (p :: polls) := by
  intro earlier q later h
  cases earlier with
  | nil =>
    obtain ⟨rfl, rfl⟩ := List.cons.inj h
    rwa [List.append_nil]
  | cons first earlier =>
    obtain ⟨rfl, hpolls⟩ := List.cons.inj h
    rw [List.append_cons]
    exact hrest earlier q later hpolls

end Throughout

/-- What some polls leave in the trace that are all waited after. -/
def watched (plan : Plan) (output : Output) (start : Nat) (polls : List (Poll κ)) :
    List (Entry (Event κ)) :=
  (polls.zipIdx start).flatMap fun (p, number) =>
    p.entries plan output number ++ [.event (.sleep plan.interval)]

/-- A poll that is waited after comes before the polls that follow. -/
theorem watched_cons (plan : Plan) (output : Output) (start : Nat) (p : Poll κ)
    (polls : List (Poll κ)) :
    watched plan output start (p :: polls) =
      p.entries plan output start ++
        .event (.sleep plan.interval) :: watched plan output (start + 1) polls := by
  simp [watched]

/-- How watching can end after the polls `before` if at most `limit` more are made: the polls that
are made, the result and the trace. -/
inductive Ending (plan : Plan) (output : Output) (limit : Nat) (before polls : List (Poll κ)) :
    Option (Except Failure Unit) → List (Entry (Event κ)) → Prop
  /-- With no number planned, watching goes on. -/
  | unended (endless : plan.count = 0) (made : polls.length = limit)
      (writable : Throughout (output.faultAt · · = none) before polls) :
      Ending plan output limit before polls none (watched plan output before.length polls)
  /-- The planned number is reached. -/
  | completed (earlier : List (Poll κ)) (last : Poll κ) (made : polls = earlier ++ [last])
      (reached : before.length + polls.length = plan.count)
      (writable : Throughout (output.faultAt · · = none) before polls) :
      Ending plan output limit before polls (some (Progress.after (before ++ polls)).verdict)
        (watched plan output before.length earlier ++
          last.entries plan output (before.length + earlier.length))
  /-- A line cannot be written. -/
  | interrupted (earlier : List (Poll κ)) (last : Poll κ) (text : String)
      (made : polls = earlier ++ [last]) (within : polls.length ≤ limit)
      (writable : Throughout (output.faultAt · · = none) before earlier)
      (fault : output.faultAt (before ++ earlier) last = some text) :
      Ending plan output limit before polls (some (.error (.output text)))
        (watched plan output before.length earlier ++
          last.asked (before.length + earlier.length))

/-- A poll whose line is written, if it has one, puts off the end by one. -/
theorem Ending.cons {plan : Plan} {output : Output} {limit : Nat} {before polls : List (Poll κ)}
    {p : Poll κ} {result : Option (Except Failure Unit)} {trace : List (Entry (Event κ))}
    (hwritable : output.faultAt before p = none)
    (h : Ending plan output limit (before ++ [p]) polls result trace) :
    Ending plan output (limit + 1) before (p :: polls) result
      (p.entries plan output before.length ++ .event (.sleep plan.interval) :: trace) := by
  have hlength : (before ++ [p]).length = before.length + 1 := List.length_append
  -- what the last poll leaves is found at the same place of the longer chain
  have hshift (earlier : List (Poll κ)) (atEnd : Nat → List (Entry (Event κ))) :
      p.entries plan output before.length ++ .event (.sleep plan.interval) ::
          (watched plan output (before ++ [p]).length earlier ++
            atEnd ((before ++ [p]).length + earlier.length)) =
        watched plan output before.length (p :: earlier) ++
          atEnd (before.length + (p :: earlier).length) := by
    rw [hlength, watched_cons, List.append_assoc, List.cons_append, List.length_cons,
      Nat.add_right_comm, Nat.add_assoc before.length]
  cases h with
  | unended endless made writable =>
    rw [hlength, ← watched_cons]
    exact .unended endless (congrArg (· + 1) made) (.cons hwritable writable)
  | completed earlier last made reached writable =>
    subst made
    rw [hshift earlier (last.entries plan output), ← List.append_cons]
    refine .completed (p :: earlier) last rfl ?_ (.cons hwritable writable)
    rw [List.length_cons, Nat.add_comm _ 1, ← Nat.add_assoc, ← hlength, reached]
  | interrupted earlier last text made within writable fault =>
    subst made
    rw [hshift earlier last.asked]
    refine .interrupted (p :: earlier) last text rfl (Nat.succ_le_succ within)
      (.cons hwritable writable) ?_
    rwa [List.append_cons]

/-- Watching on is one poll and, unless that ends it, a wait and watching from there. -/
theorem follow_succ (T : Transport κ ω τ) (plan : Plan) (output : Output) (limit : Nat)
    (p : Progress) (s : ω × Device τ) :
    follow T plan output (limit + 1) p s =
      match (poll T plan output p s).result with
      | .error e =>
        ⟨some (.error e), (poll T plan output p s).state, (poll T plan output p s).trace⟩
      | .ok p' =>
        if plan.isDone p' then
          ⟨some p'.verdict, (poll T plan output p s).state, (poll T plan output p s).trace⟩
        else
          let rest := follow T plan output limit p' (poll T plan output p s).state
          ⟨rest.result, rest.state,
            (poll T plan output p s).trace ++ .event (.sleep plan.interval) :: rest.trace⟩ := by
  rw [follow, Traced.bind_apply]
  cases (poll T plan output p s).result with
  | error e => simp
  | ok p' => cases hdone : plan.isDone p' <;> simp [hdone]

/-- The law of watching: the polls that are made are a chain, each asks for what the polls before it
call for, and they determine how watching ends. -/
theorem follow_law (T : Transport κ ω τ) (plan : Plan) (output : Output) (limit : Nat)
    (before : List (Poll κ)) (world : ω) (device : Device τ)
    (hlimit : plan.count ≠ 0 → 0 < limit ∧ before.length + limit = plan.count) :
    let o := follow T plan output limit (.after before) (world, device)
    ∃ polls, Chain T (world, device.transport) polls (o.state.1, o.state.2.transport) ∧
      o.state.2 = { device with transport := o.state.2.transport } ∧
      Throughout (fun earlier p => p.request = plan.requestAfter earlier) before polls ∧
      Ending plan output limit before polls o.result o.trace := by
  induction limit generalizing before world device with
  | zero =>
    have hendless : plan.count = 0 := by
      by_cases hcount : plan.count = 0
      · exact hcount
      · exact absurd (hlimit hcount).1 (Nat.lt_irrefl 0)
    exact ⟨[], .nil _, rfl, .nil, .unended hendless rfl .nil⟩
  | succ limit ih =>
    intro o
    let p := Poll.ask T (plan.requestAfter before) (world, device.transport)
    let next := (T.exchange p.request.packet (world, device.transport)).state
    have hexchanged :
        T.exchange p.request.packet (world, device.transport) = ⟨p.answer, next, p.trace⟩ := rfl
    have hasks : p.request = plan.requestAfter before := rfl
    have hpoll : poll T plan output (.after before) (world, device) = _ :=
      poll_apply T plan output before world device
    have hfollow : o = _ := follow_succ T plan output limit (.after before) (world, device)
    cases hfault : output.faultAt before p with
    | some text =>
      -- the line of this poll cannot be written
      simp only [hpoll, p, hfault] at hfollow
      rw [hfollow]
      refine ⟨[p], .cons hexchanged (.nil _), rfl, .cons hasks .nil, ?_⟩
      exact .interrupted [] p text rfl (by simp) .nil (by rwa [List.append_nil])
    | none =>
      simp only [hpoll, p, hfault] at hfollow
      have hlength : (before ++ [p]).length = before.length + 1 := List.length_append
      have hpolls : (Progress.after (before ++ [p])).polls = before.length + 1 := hlength
      by_cases hdone : plan.isDone (.after (before ++ [p])) = true
      · -- this poll is the last one planned
        rw [if_pos hdone] at hfollow
        rw [hfollow]
        refine ⟨[p], .cons hexchanged (.nil _), rfl, .cons hasks .nil, ?_⟩
        refine .completed [] p rfl ?_ (.cons hfault .nil)
        obtain ⟨hplanned, henough⟩ := (plan.isDone_iff _).mp hdone
        obtain ⟨-, hcount⟩ := hlimit hplanned
        change before.length + 1 = plan.count
        omega
      · rw [if_neg hdone] at hfollow
        have hlimit' (hplanned : plan.count ≠ 0) :
            0 < limit ∧ (before ++ [p]).length + limit = plan.count := by
          have hmore : ¬plan.count ≤ (Progress.after (before ++ [p])).polls :=
            fun henough => hdone ((plan.isDone_iff _).mpr ⟨hplanned, henough⟩)
          obtain ⟨-, hcount⟩ := hlimit hplanned
          omega
        obtain ⟨polls, hchain, hdevice, hrequests, hending⟩ :=
          ih (before ++ [p]) next.1 { device with transport := next.2 } hlimit'
        rw [hfollow]
        exact ⟨p :: polls, .cons hexchanged hchain, hdevice, .cons hasks hrequests,
          .cons hfault hending⟩

/-- With more patience more of the same is watched. -/
theorem follow_prefix (T : Transport κ ω τ) (plan : Plan) (output : Output) (limit more : Nat)
    (p : Progress) (s : ω × Device τ) :
    (follow T plan output limit p s).trace <+: (follow T plan output (limit + more) p s).trace := by
  induction limit generalizing p s with
  | zero => exact List.nil_prefix
  | succ limit ih =>
    rw [Nat.succ_add, follow_succ, follow_succ]
    cases (poll T plan output p s).result with
    | error e => exact List.prefix_rfl
    | ok p' =>
      by_cases hdone : plan.isDone p' = true
      · simp only [if_pos hdone]
        exact List.prefix_rfl
      · simp only [if_neg hdone]
        exact (List.prefix_append_right_inj _).mpr (List.cons_prefix_cons.mpr ⟨rfl, ih p' _⟩)

/-! ## What is seen of a run -/

/-- What is seen of watching from outside. -/
structure Sight (κ : Type) where
  /-- All that is written. -/
  text : String
  links : List κ
  sleeps : List Duration

/-- The text that an event writes. -/
def Event.text : Event κ → String
  | .line text => text ++ "\n"
  | .link _ => ""
  | .sleep _ => ""

/-- The event of the transport that an event is, if it is one. -/
def Event.link? : Event κ → Option κ
  | .link e => some e
  | .line _ => none
  | .sleep _ => none

/-- The time that an event waits, if it does. -/
def Event.sleep? : Event κ → Option Duration
  | .sleep interval => some interval
  | .link _ => none
  | .line _ => none

/-- What is seen of a trace. -/
def sight (trace : List (Entry (Event κ))) : Sight κ where
  text := String.join ((events trace).map Event.text)
  links := (events trace).filterMap Event.link?
  sleeps := (events trace).filterMap Event.sleep?

/-- What is seen of two traces one after the other. -/
theorem sight_append (first rest : List (Entry (Event κ))) :
    sight (first ++ rest) =
      ⟨(sight first).text ++ (sight rest).text, (sight first).links ++ (sight rest).links,
        (sight first).sleeps ++ (sight rest).sleeps⟩ := by
  simp [sight, String.join_append]

/-- An event that writes nothing adds nothing to the text. -/
theorem join_text_cons_of_silent {e : Event κ} (hsilent : e.text = "") (es : List (Event κ)) :
    String.join ((e :: es).map Event.text) = String.join (es.map Event.text) := by
  rw [List.map_cons, String.join_cons, hsilent, String.empty_append]

/-- A wait is seen as nothing else. -/
theorem sight_sleep (interval : Duration) (trace : List (Entry (Event κ))) :
    sight (.event (.sleep interval) :: trace) =
      ⟨(sight trace).text, (sight trace).links, interval :: (sight trace).sleeps⟩ :=
  congrArg (Sight.mk · _ _) (join_text_cons_of_silent rfl (events trace))

/-- An event of the transport is seen as nothing else. -/
theorem sight_link (e : κ) (trace : List (Entry (Event κ))) :
    sight (.event (.link e) :: trace) =
      ⟨(sight trace).text, e :: (sight trace).links, (sight trace).sleeps⟩ :=
  congrArg (Sight.mk · _ _) (join_text_cons_of_silent rfl (events trace))

/-- Of a trace of the transport its events are seen. -/
theorem sight_map_link (trace : List (Entry κ)) :
    sight (trace.map (Entry.map Event.link)) = ⟨"", events trace, []⟩ := by
  induction trace with
  | nil => rfl
  | cons entry trace ih =>
    cases entry with
    | record r => exact ih
    | event e =>
      rw [List.map_cons, Entry.map, sight_link, ih]
      rfl

/-- Up to its answer only the exchange of a poll is seen. -/
theorem Poll.sight_asked (p : Poll κ) (number : Nat) :
    sight (p.asked number) = ⟨"", events p.trace, []⟩ :=
  sight_map_link p.trace

/-- Of a poll its exchange is seen, and its line if it succeeds. -/
theorem Poll.sight_entries (plan : Plan) (output : Output) (p : Poll κ) (number : Nat) :
    sight (p.entries plan output number) = ⟨p.text plan output number, events p.trace, []⟩ := by
  have hreported : sight (p.reported plan output number) = ⟨p.text plan output number, [], []⟩ := by
    unfold reported text
    cases p.status with
    | error e => rfl
    | ok status => simp [sight, Event.text, Event.link?, Event.sleep?]
  rw [entries, sight_append, sight_asked, hreported]
  simp

/-- What is seen of some polls that are all waited after. -/
theorem sight_watched (plan : Plan) (output : Output) (start : Nat) (polls : List (Poll κ)) :
    sight (watched plan output start polls) =
      ⟨String.join ((polls.zipIdx start).map fun (p, number) => p.text plan output number),
        polls.flatMap fun p => events p.trace, List.replicate polls.length plan.interval⟩ := by
  induction polls generalizing start with
  | nil => rfl
  | cons p polls ih =>
    rw [watched_cons, sight_append, Poll.sight_entries, sight_sleep, ih]
    simp [List.replicate_succ]

/-! ## The law of a run -/

/-- Watching that could write all its lines: the planned number of polls is made, or as many as are
waited for if none is planned. -/
structure Completed (plan : Plan) (output : Output) (patience : Nat) (polls : List (Poll κ))
    (result : Option (Except Failure Unit)) (seen : Sight κ) : Prop where
  writable : ∀ earlier p later, polls = earlier ++ p :: later → p.succeeds = true →
    output.fault (earlier.countP Poll.succeeds) = none
  made : polls.length = if plan.count = 0 then patience else plan.count
  text : seen.text =
    String.join (polls.zipIdx.map fun (p, number) => p.text plan output number)
  sleeps : seen.sleeps =
    List.replicate (if plan.count = 0 then patience else plan.count - 1) plan.interval
  result : result =
    if plan.count = 0 then none
    else some (if polls.any Poll.succeeds then .ok () else .error (.noStatus plan.count))

/-- Watching that ended because the line of its last poll could not be written. -/
structure Interrupted (plan : Plan) (output : Output) (patience : Nat) (polls : List (Poll κ))
    (result : Option (Except Failure Unit)) (seen : Sight κ) : Prop where
  within : polls.length ≤ if plan.count = 0 then patience else plan.count
  last : ∃ earlier p reason, polls = earlier ++ [p] ∧ p.succeeds = true ∧
    (∀ before q after, earlier = before ++ q :: after → q.succeeds = true →
      output.fault (before.countP Poll.succeeds) = none) ∧
    output.fault (earlier.countP Poll.succeeds) = some reason ∧
    seen.text = String.join (earlier.zipIdx.map fun (q, number) => q.text plan output number) ∧
    seen.sleeps = List.replicate earlier.length plan.interval ∧
    result = some (.error (.output reason))

/-- Of a run the exchanges of its polls are seen, and it is complete or interrupted. -/
theorem Ending.seen {plan : Plan} {output : Output} {patience : Nat} {polls : List (Poll κ)}
    {result : Option (Except Failure Unit)} {trace : List (Entry (Event κ))}
    (h : Ending plan output (if plan.count = 0 then patience else plan.count) [] polls result
      trace) :
    (sight trace).links = (polls.flatMap fun p => events p.trace) ∧
      (Completed plan output patience polls result (sight trace) ∨
        Interrupted plan output patience polls result (sight trace)) := by
  cases h with
  | unended endless made writable =>
    rw [if_pos endless] at made
    rw [sight_watched]
    refine ⟨rfl, .inl ?_⟩
    exact {
      writable := fun earlier p later h =>
        (output.faultAt_eq_none_iff earlier p).mp (writable earlier p later h)
      made := by rw [if_pos endless, made]
      text := rfl
      sleeps := by rw [if_pos endless, made]
      result := by rw [if_pos endless] }
  | completed earlier last made reached writable =>
    subst made
    have hcount : plan.count = earlier.length + 1 := by simpa using reached.symm
    have hplanned : plan.count ≠ 0 := by omega
    rw [sight_append, sight_watched, Poll.sight_entries]
    refine ⟨by simp, .inl ?_⟩
    exact {
      writable := fun before p later h =>
        (output.faultAt_eq_none_iff before p).mp (writable before p later h)
      made := by rw [if_neg hplanned, hcount, List.length_append]; rfl
      text := by simp [List.zipIdx_append, String.join_append]
      sleeps := by rw [if_neg hplanned, hcount, List.append_nil]; rfl
      result := by
        rw [if_neg hplanned, List.nil_append, Progress.verdict_after, List.length_append, hcount]
        rfl }
  | interrupted earlier last text made within writable fault =>
    obtain ⟨hsucceeds, hfault⟩ := (output.faultAt_eq_some_iff earlier last text).mp fault
    subst made
    rw [sight_append, sight_watched, Poll.sight_asked]
    refine ⟨by simp, .inr ?_⟩
    exact {
      within := within
      last := ⟨earlier, last, text, rfl, hsucceeds,
        fun before q after h =>
          (output.faultAt_eq_none_iff before q).mp (writable before q after h),
        hfault, by simp, by simp, rfl⟩ }

/-- The law of watching for a run as a whole, which starts without any polls made. -/
theorem run_ending (T : Transport κ ω τ) (plan : Plan) (output : Output) (patience : Nat)
    (world : ω) (device : Device τ) :
    let o := run T plan output patience (world, device)
    ∃ polls, Chain T (world, device.transport) polls (o.state.1, o.state.2.transport) ∧
      o.state.2 = { device with transport := o.state.2.transport } ∧
      Throughout (fun earlier p => p.request = plan.requestAfter earlier) [] polls ∧
      Ending plan output (if plan.count = 0 then patience else plan.count) [] polls o.result
        o.trace := by
  have hlimit (hplanned : plan.count ≠ 0) :
      0 < (if plan.count = 0 then patience else plan.count) ∧
        ([] : List (Poll κ)).length + (if plan.count = 0 then patience else plan.count) =
          plan.count := by
    rw [if_neg hplanned]
    exact ⟨Nat.pos_of_ne_zero hplanned, Nat.zero_add _⟩
  exact follow_law T plan output _ [] world device hlimit

/-- The complete law of a run. The polls that are made are a chain of exchanges, which changes
nothing of the device but the transport. The planned request is sent until a poll has succeeded, the
plain one after that. The run is complete or interrupted by a line that cannot be written, and is
complete if nothing is ever wrong with the output. Its polls determine its trace with the log, and
without a planned number a run with less patience is the start of one with more. -/
theorem run_law (T : Transport κ ω τ) (plan : Plan) (output : Output) (patience : Nat) (world : ω)
    (device : Device τ) :
    let o := run T plan output patience (world, device)
    (∃ polls : List (Poll κ),
      Chain T (world, device.transport) polls (o.state.1, o.state.2.transport) ∧
      o.state.2 = { device with transport := o.state.2.transport } ∧
      (sight o.trace).links = (polls.flatMap fun p => events p.trace) ∧
      (∀ earlier p later, polls = earlier ++ p :: later →
        p.request = if earlier.any Poll.succeeds then .plain else plan.firstRequest) ∧
      (Completed plan output patience polls o.result (sight o.trace) ∨
        Interrupted plan output patience polls o.result (sight o.trace)) ∧
      ((∀ lines, output.fault lines = none) →
        Completed plan output patience polls o.result (sight o.trace)) ∧
      Ending plan output (if plan.count = 0 then patience else plan.count) [] polls o.result
        o.trace) ∧
    (plan.count = 0 → ∀ more,
      o.trace <+: (run T plan output (patience + more) (world, device)).trace) := by
  intro o
  refine ⟨?_, ?_⟩
  · obtain ⟨polls, hchain, hdevice, hrequests, hending⟩ :=
      run_ending T plan output patience world device
    obtain ⟨hlinks, houtcome⟩ := hending.seen
    refine ⟨polls, hchain, hdevice, hlinks, hrequests, houtcome, ?_, hending⟩
    intro hwritable
    rcases houtcome with hcompleted | hinterrupted
    · exact hcompleted
    · obtain ⟨earlier, _, _, -, -, -, hfault, -⟩ := hinterrupted.last
      rw [hwritable] at hfault
      cases hfault
  · intro hendless more
    have hrun (patience : Nat) :
        run T plan output patience = follow T plan output patience .start := by
      rw [run, if_pos hendless]
    change (run T plan output patience (world, device)).trace <+: _
    rw [hrun, hrun]
    exact follow_prefix T plan output patience more .start (world, device)

end BatteryWatch.Monitor
