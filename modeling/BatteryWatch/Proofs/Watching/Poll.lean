import BatteryWatch.Monitor
import BatteryWatch.Proofs.Operation

/-!
# Polls

A poll is a request, the answer of the transport to it and the trace of the exchange. What a poll
does while the battery is watched depends on the polls before it only through their number and the
number of those that succeeded: `Monitor.poll_apply` gives its result, the state after it and its
trace, the log included.
-/

namespace BatteryWatch

/-- A payload holds a battery status exactly if it is long enough. -/
theorem BatteryStatus.exists_ofBytes_iff (payload : List UInt8) :
    (∃ status, ofBytes payload = .ok status) ↔ 20 ≤ payload.length := by
  unfold ofBytes
  split
  next => simp
  next hshort =>
    constructor
    · rintro ⟨_, h⟩
      cases h
    · intro hlong
      -- a payload that long has the shape that is read
      iterate 20
        obtain ⟨_, payload, rfl⟩ :=
          List.exists_cons_of_length_pos (Nat.lt_of_lt_of_le (Nat.succ_pos _) hlong)
        replace hlong := Nat.le_of_succ_le_succ hlong
      exact (hshort _ _ _ _ _ _ _ _ _ _ _ _ _ _ _ _ _ _ _ _ _ rfl).elim

variable {κ ω τ : Type}

namespace Monitor

/-! ## Polls -/

/-- A poll: what is asked for, what the transport answers and the trace of the exchange. -/
structure Poll (κ : Type) where
  request : BatteryRequest
  answer : Except AnswerError Packet
  trace : List (Entry κ)

namespace Poll

/-- The poll that asks a transport in a given state for something. -/
def ask (T : Transport κ ω τ) (request : BatteryRequest) (s : ω × τ) : Poll κ :=
  ⟨request, (T.exchange request.packet s).result, (T.exchange request.packet s).trace⟩

/-- A poll succeeds if its answer has at least the bytes of a battery status. -/
def succeeds (p : Poll κ) : Bool :=
  match p.answer with
  | .error _ => false
  | .ok answer => 20 ≤ answer.payload.length

/-- The battery status that a poll brings, if it does. -/
def status (p : Poll κ) : Except StatusError BatteryStatus := Device.statusOf p.answer

/-- A poll brings a status exactly if it succeeds. -/
theorem succeeds_iff (p : Poll κ) : p.succeeds = true ↔ ∃ status, p.status = .ok status := by
  obtain ⟨request, answer, trace⟩ := p
  cases answer with
  | error e => simp [succeeds, status, Device.statusOf]
  | ok answer =>
    have hiff := BatteryStatus.exists_ofBytes_iff answer.payload
    cases hread : BatteryStatus.ofBytes answer.payload with
    | error e =>
      have hstatus : Device.statusOf (.ok answer) = .error (.malformed e) := by
        rw [Device.statusOf, hread]
        rfl
      simpa [succeeds, status, hstatus, hread] using hiff
    | ok read =>
      have hstatus : Device.statusOf (.ok answer) = .ok read := by
        rw [Device.statusOf, hread]
        rfl
      simpa [succeeds, status, hstatus, hread] using hiff

/-- What a poll with a given number of polls before it writes: the line of its status, if it
brings one. -/
def text (plan : Plan) (output : Output) (p : Poll κ) (number : Nat) : String :=
  match p.status with
  | .ok status => status.line (output.clock number) plan.json ++ "\n"
  | .error _ => ""

/-- What a poll leaves in the trace up to its answer. -/
def asked (p : Poll κ) (number : Nat) : List (Entry (Event κ)) :=
  .record ⟨.debug, .monitor, s!"Poll {number + 1}: " ++ p.request.display⟩ ::
    .record ⟨.debug, .device, "Sending " ++ p.request.debug⟩ :: p.trace.map (Entry.map .link)

/-- What a poll leaves in the trace after its answer: the line of its status or a complaint. -/
def reported (plan : Plan) (output : Output) (p : Poll κ) (number : Nat) :
    List (Entry (Event κ)) :=
  match p.status with
  | .ok status => [.event (.line (status.line (output.clock number) plan.json))]
  | .error e => [.record ⟨.error, .monitor, "Failed to read battery status: " ++ e.message⟩]

/-- What a poll leaves in the trace. -/
def entries (plan : Plan) (output : Output) (p : Poll κ) (number : Nat) :
    List (Entry (Event κ)) :=
  p.asked number ++ p.reported plan output number

end Poll

/-! ## Polls after polls -/

/-- The progress after some polls. -/
def Progress.after (polls : List (Poll κ)) : Progress :=
  ⟨polls.length, polls.countP Poll.succeeds⟩

/-- The request of the poll after some polls. -/
def Plan.requestAfter (plan : Plan) (earlier : List (Poll κ)) : BatteryRequest :=
  if earlier.any Poll.succeeds then .plain else plan.firstRequest

/-- What keeps the line of a poll from being written, if it succeeds and something does. -/
def Output.faultAt (output : Output) (earlier : List (Poll κ)) (p : Poll κ) : Option String :=
  if p.succeeds then output.fault (earlier.countP Poll.succeeds) else none

/-- A line can be written if its poll has none or nothing is wrong with the output. -/
theorem Output.faultAt_eq_none_iff (output : Output) (earlier : List (Poll κ)) (p : Poll κ) :
    output.faultAt earlier p = none ↔
      (p.succeeds = true → output.fault (earlier.countP Poll.succeeds) = none) := by
  simp [faultAt]

/-- Something keeps a line from being written if its poll has one and the output is at fault. -/
theorem Output.faultAt_eq_some_iff (output : Output) (earlier : List (Poll κ)) (p : Poll κ)
    (reason : String) :
    output.faultAt earlier p = some reason ↔
      p.succeeds = true ∧ output.fault (earlier.countP Poll.succeeds) = some reason := by
  simp [faultAt]

/-- Progress counts one poll after the other. -/
theorem Progress.after_concat (earlier : List (Poll κ)) (p : Poll κ) :
    Progress.after (earlier ++ [p]) = (Progress.after earlier).count p.succeeds := by
  cases hsucceeds : p.succeeds <;> simp [after, count, hsucceeds]

/-- What depends on whether there was a success depends on whether any poll succeeded. -/
theorem Progress.ite_after {α : Type} (polls : List (Poll κ)) (a b : α) :
    (if (Progress.after polls).successes = 0 then a else b) =
      if polls.any Poll.succeeds then b else a := by
  have hiff : (Progress.after polls).successes = 0 ↔ polls.any Poll.succeeds = false := by
    simp [after, List.countP_eq_zero]
  cases hany : polls.any Poll.succeeds with
  | false => rw [if_pos (hiff.mpr hany), if_neg Bool.false_ne_true]
  | true => rw [if_neg (mt hiff.mp (by rw [hany]; decide)), if_pos rfl]

/-- The request of a poll depends on whether a poll before it succeeded. -/
theorem Plan.request_after (plan : Plan) (earlier : List (Poll κ)) :
    plan.request (Progress.after earlier) = plan.requestAfter earlier :=
  Progress.ite_after earlier plan.firstRequest .plain

/-- Watching ends well after some polls if any of them succeeded. -/
theorem Progress.verdict_after (polls : List (Poll κ)) :
    (Progress.after polls).verdict =
      if polls.any Poll.succeeds then .ok () else .error (.noStatus polls.length) := by
  rw [verdict, ite_after]
  rfl

/-- Watching is done once a planned number of polls is reached. -/
theorem Plan.isDone_iff (plan : Plan) (p : Progress) :
    plan.isDone p = true ↔ plan.count ≠ 0 ∧ plan.count ≤ p.polls := by
  simp [isDone]

/-- One poll after some polls. -/
theorem poll_apply (T : Transport κ ω τ) (plan : Plan) (output : Output)
    (earlier : List (Poll κ)) (world : ω) (device : Device τ) :
    let p := Poll.ask T (plan.requestAfter earlier) (world, device.transport)
    let next := (T.exchange p.request.packet (world, device.transport)).state
    poll T plan output (.after earlier) (world, device) =
      match output.faultAt earlier p with
      | some text =>
        ⟨.error (.output text), (next.1, { device with transport := next.2 }),
          p.asked earlier.length⟩
      | none =>
        ⟨.ok (.after (earlier ++ [p])), (next.1, { device with transport := next.2 }),
          p.entries plan output earlier.length⟩ := by
  intro p next
  have hrequest : plan.request (.after earlier) = p.request := plan.request_after earlier
  have hread : Device.readBattery T p.request (world, device) =
      ⟨p.status, (next.1, { device with transport := next.2 }),
        .record ⟨.debug, .device, "Sending " ++ p.request.debug⟩ :: p.trace⟩ :=
    Device.readBattery_apply T world device p.request
  have hsucceeds := p.succeeds_iff
  rw [Progress.after_concat]
  simp only [poll, hrequest, Traced.bind_apply, Traced.relabel_apply, Traced.log_apply, hread]
  cases hstatus : p.status with
  | error e =>
    have hfailed : p.succeeds = false := by simpa [hstatus] using hsucceeds
    simp [Output.faultAt, Poll.entries, Poll.asked, Poll.reported, hstatus, hfailed,
      Progress.after, Entry.map]
  | ok status =>
    have hok : p.succeeds = true := hsucceeds.mpr ⟨status, hstatus⟩
    simp only [Output.faultAt, hok, if_pos]
    cases hfault : output.fault (earlier.countP Poll.succeeds) with
    | some text =>
      simp [writeLine, hfault, Progress.after, Poll.asked, Entry.map, Except.map]
    | none =>
      simp [writeLine, hfault, Progress.after, Poll.entries, Poll.asked, Poll.reported, hstatus,
        Entry.map, Except.map]

end Monitor

end BatteryWatch
