import BatteryWatch.Proofs.StatusLine
import BatteryWatch.Proofs.Watching.Run

/-!
# A planned number of polls

Watching with a planned number of polls and an output that takes every line is that many polls and
nothing else (`Monitor.run_planned`): they decide what is written, line by line, and how watching
ends. Which polls these are depends on nothing but the plan and the state in which watching begins
(`Monitor.Planned.unique`).
-/

namespace BatteryWatch.Monitor

variable {κ ω τ : Type}

/-! ## Lines -/

/-- The line that an event writes, if it does. -/
def Event.line? : Event κ → Option String
  | .line text => some text
  | .link _ => none
  | .sleep _ => none

/-- The lines that are written in a trace. -/
def lines (trace : List (Entry (Event κ))) : List String := (events trace).filterMap Event.line?

/-- The lines of two traces one after the other. -/
theorem lines_append (first rest : List (Entry (Event κ))) :
    lines (first ++ rest) = lines first ++ lines rest := by
  rw [lines, events_append, List.filterMap_append]
  rfl

/-- The transport writes no lines. -/
theorem lines_map_link (trace : List (Entry κ)) :
    lines (trace.map (Entry.map Event.link)) = [] := by
  rw [lines, events_map_map, List.filterMap_map]
  exact List.filterMap_eq_nil_iff.mpr fun _ _ => rfl

namespace Poll

/-- A poll succeeds exactly if it is acknowledged with a payload of at least 20 bytes. -/
theorem succeeds_iff_exists_answer (p : Poll κ) :
    p.succeeds = true ↔ ∃ answer, p.answer = .ok answer ∧ 20 ≤ answer.payload.length := by
  unfold succeeds
  cases p.answer with
  | error e => simp
  | ok answer => simp

/-- The line of a poll with a given number of polls before it, if it brings a status. -/
def line? (plan : Plan) (output : Output) (p : Poll κ) (number : Nat) : Option String :=
  p.status.toOption.map fun status => status.line (output.clock number) plan.json

/-- A poll has a line exactly if it succeeds. -/
theorem isSome_line? (plan : Plan) (output : Output) (p : Poll κ) (number : Nat) :
    (p.line? plan output number).isSome = p.succeeds := by
  have hsucceeds := p.succeeds_iff
  unfold line?
  cases hstatus : p.status with
  | error e =>
    have hfailed : p.succeeds = false := by simpa [hstatus] using hsucceeds
    rw [hfailed]
    rfl
  | ok status =>
    rw [hsucceeds.mpr ⟨status, hstatus⟩]
    rfl

/-- A poll writes its line, if it has one. -/
theorem lines_entries (plan : Plan) (output : Output) (p : Poll κ) (number : Nat) :
    lines (p.entries plan output number) = (p.line? plan output number).toList := by
  have hasked : lines (p.asked number) = [] := lines_map_link p.trace
  rw [entries, lines_append, hasked, List.nil_append]
  unfold reported line?
  cases p.status with
  | error e => rfl
  | ok status => rfl

end Poll

/-- The lines of polls one after the other, the first of which has a given number of polls before
it. -/
def linesOf (plan : Plan) (output : Output) (start : Nat) (polls : List (Poll κ)) : List String :=
  (polls.zipIdx start).filterMap fun (p, number) => p.line? plan output number

/-- The lines of polls that are made after others come after theirs. -/
theorem linesOf_append (plan : Plan) (output : Output) (start : Nat)
    (polls later : List (Poll κ)) :
    linesOf plan output start (polls ++ later) =
      linesOf plan output start polls ++ linesOf plan output (start + polls.length) later := by
  rw [linesOf, List.zipIdx_append, List.filterMap_append]
  rfl

/-- The lines of one poll are its line, if it has one. -/
theorem linesOf_singleton (plan : Plan) (output : Output) (start : Nat) (p : Poll κ) :
    linesOf plan output start [p] = (p.line? plan output start).toList := by
  change [(p, start)].filterMap _ = _
  cases hline : p.line? plan output start with
  | none => simp [hline]
  | some line => simp [hline]

/-- The line of the first poll comes before the lines of the others. -/
theorem linesOf_cons (plan : Plan) (output : Output) (start : Nat) (p : Poll κ)
    (polls : List (Poll κ)) :
    linesOf plan output start (p :: polls) =
      (p.line? plan output start).toList ++ linesOf plan output (start + 1) polls := by
  rw [← linesOf_singleton]
  exact linesOf_append plan output start [p] polls

/-- There are as many lines as there are polls that succeed. -/
theorem length_linesOf (plan : Plan) (output : Output) (start : Nat) (polls : List (Poll κ)) :
    (linesOf plan output start polls).length = polls.countP Poll.succeeds := by
  induction polls generalizing start with
  | nil => rfl
  | cons p polls ih =>
    rw [linesOf_cons, List.length_append, ih, List.countP_cons, Nat.add_comm,
      ← p.isSome_line? plan output start]
    cases p.line? plan output start <;> rfl

/-- No line has a line break if no time of the clock has one. -/
theorem newline_notMem_linesOf (plan : Plan) (output : Output) (start : Nat)
    (polls : List (Poll κ)) (hclock : ∀ number, '\n' ∉ (output.clock number).toList) :
    ∀ line ∈ linesOf plan output start polls, '\n' ∉ line.toList := by
  intro line hline
  obtain ⟨⟨p, number⟩, -, hline⟩ := List.mem_filterMap.mp hline
  obtain ⟨status, -, rfl⟩ := Option.map_eq_some_iff.mp hline
  exact status.newline_notMem_line plan.json (hclock number)

/-- Polls that are all waited after write their lines. -/
theorem lines_watched (plan : Plan) (output : Output) (start : Nat) (polls : List (Poll κ)) :
    lines (watched plan output start polls) = linesOf plan output start polls := by
  induction polls generalizing start with
  | nil => rfl
  | cons p polls ih =>
    rw [watched_cons, lines_append, Poll.lines_entries, linesOf_cons, ← ih]
    rfl

/-! ## The polls of a plan -/

/-- Polls that follow a plan from one state to another: as many as planned, each in the state that
the one before it left, and each with the planned request until one has succeeded and with the
plain one after that. -/
structure Planned (T : Transport κ ω τ) (plan : Plan) (first : ω × τ) (polls : List (Poll κ))
    (last : ω × τ) : Prop where
  chained : Chain T first polls last
  counted : polls.length = plan.count
  requested : ∀ earlier p later, polls = earlier ++ p :: later →
    p.request = if earlier.any Poll.succeeds then .plain else plan.firstRequest

/-- What holds throughout holds of the first poll and throughout the others. -/
theorem Throughout.of_cons {R : List (Poll κ) → Poll κ → Prop} {before polls : List (Poll κ)}
    {p : Poll κ} (h : Throughout R before (p :: polls)) :
    R before p ∧ Throughout R (before ++ [p]) polls := by
  constructor
  · have hfirst := h [] p polls rfl
    rwa [List.append_nil] at hfirst
  · intro earlier q later hpolls
    rw [List.append_assoc]
    exact h (p :: earlier) q later (congrArg (p :: ·) hpolls)

/-- Chains of equally many polls from the same state are the same if every poll asks for what the
polls before it call for. -/
theorem Chain.unique {T : Transport κ ω τ} {plan : Plan} {first last last' : ω × τ}
    {before polls polls' : List (Poll κ)} (h : Chain T first polls last)
    (h' : Chain T first polls' last') (hlength : polls.length = polls'.length)
    (hrequests : Throughout (fun earlier p => p.request = plan.requestAfter earlier) before polls)
    (hrequests' : Throughout (fun earlier p => p.request = plan.requestAfter earlier) before
      polls') :
    polls = polls' := by
  induction h generalizing before polls' with
  | nil s => exact (List.eq_nil_of_length_eq_zero hlength.symm).symm
  | @cons _ _ _ p _ exchanged _ ih =>
    cases h' with
    | nil => cases hlength
    | @cons _ _ _ p' _ exchanged' rest' =>
      obtain ⟨hasks, hrequests⟩ := hrequests.of_cons
      obtain ⟨hasks', hrequests'⟩ := hrequests'.of_cons
      have hrequest : p.request = p'.request := hasks.trans hasks'.symm
      rw [hrequest, exchanged', Outcome.mk.injEq] at exchanged
      obtain ⟨hanswer, rfl, htrace⟩ := exchanged
      obtain rfl : p = p' := by
        cases p
        cases p'
        simp_all
      rw [ih rest' (Nat.succ.inj hlength) hrequests hrequests']

/-- Which polls follow a plan is determined by the state in which the first is made. -/
theorem Planned.unique {T : Transport κ ω τ} {plan : Plan} {first last last' : ω × τ}
    {polls polls' : List (Poll κ)} (h : Planned T plan first polls last)
    (h' : Planned T plan first polls' last') : polls = polls' := by
  have hrequests : Throughout (fun earlier p => p.request = plan.requestAfter earlier) [] polls :=
    h.requested
  exact h.chained.unique h'.chained (h.counted.trans h'.counted.symm) hrequests h'.requested

/-- Watching with a planned number of polls and an output that takes every line makes the polls of
the plan, and these decide what is seen of it. -/
theorem run_planned (T : Transport κ ω τ) (plan : Plan) (output : Output) (patience : Nat)
    (world : ω) (device : Device τ) (hplanned : plan.count ≠ 0)
    (hwritable : ∀ lines, output.fault lines = none) :
    let o := run T plan output patience (world, device)
    ∃ polls, Planned T plan (world, device.transport) polls (o.state.1, o.state.2.transport) ∧
      o.result = some (if polls.any Poll.succeeds then .ok () else .error (.noStatus plan.count)) ∧
      (sight o.trace).links = (polls.flatMap fun p => events p.trace) ∧
      lines o.trace = linesOf plan output 0 polls := by
  intro o
  obtain ⟨polls, hchain, -, hrequests, hending⟩ := run_ending T plan output patience world device
  have hlinks : (sight o.trace).links = (polls.flatMap fun p => events p.trace) := hending.seen.1
  change Chain T _ polls (o.state.1, o.state.2.transport) at hchain
  change Ending plan output _ [] polls o.result o.trace at hending
  generalize o.result = result, o.trace = trace at hending hlinks ⊢
  cases hending with
  | unended endless => exact absurd endless hplanned
  | completed earlier last made reached writable =>
    have hcounted : polls.length = plan.count := by simpa using reached
    refine ⟨polls, ⟨hchain, hcounted, hrequests⟩, ?_, hlinks, ?_⟩
    · rw [List.nil_append, Progress.verdict_after, hcounted]
    · subst made
      rw [lines_append, lines_watched, Poll.lines_entries, linesOf_append, linesOf_singleton]
      rfl
  | interrupted earlier last text made within writable fault =>
    obtain ⟨-, hfault⟩ := (output.faultAt_eq_some_iff _ _ _).mp fault
    rw [hwritable] at hfault
    cases hfault

end BatteryWatch.Monitor
