import BatteryWatch.Device
import BatteryWatch.Trace

/-!
# Outside events of steps

Most properties of the program speak of results, states and outside events and not of log records.
`Traced.quiet` takes the records out of a step; it is a map of monads (`quiet_pure`, `quiet_bind`),
so that the effect of a composed step is read off its parts, and logging disappears (`quiet_log`).
The records that are left out are read off the parts in the same way (`records_append`).
-/

namespace BatteryWatch

variable {κ κ' σ ω τ α β : Type}

/-! ## Events of traces -/

@[simp] theorem events_nil : events ([] : List (Entry κ)) = [] := rfl

@[simp] theorem events_cons_event (e : κ) (trace : List (Entry κ)) :
    events (.event e :: trace) = e :: events trace := rfl

@[simp] theorem events_cons_record (r : Log.Record) (trace : List (Entry κ)) :
    events (.record r :: trace) = events trace := rfl

/-- The events of two traces one after the other. -/
@[simp] theorem events_append (first rest : List (Entry κ)) :
    events (first ++ rest) = events first ++ events rest :=
  List.filterMap_append

/-- Log records alone are no events. -/
@[simp] theorem events_map_record (rs : List Log.Record) :
    events (rs.map Entry.record : List (Entry κ)) = [] := by
  induction rs with
  | nil => rfl
  | cons r rs ih => exact ih

/-- The events of a relabelled trace are the relabelled events. -/
theorem events_map_map (f : κ → κ') (trace : List (Entry κ)) :
    events (trace.map (Entry.map f)) = (events trace).map f := by
  induction trace with
  | nil => rfl
  | cons entry trace ih =>
    cases entry with
    | record r => exact ih
    | event e => exact congrArg (f e :: ·) ih

/-- The events of a trace are the events among its entries. -/
theorem mem_events {e : κ} {trace : List (Entry κ)} : e ∈ events trace ↔ .event e ∈ trace := by
  rw [events, List.mem_filterMap]
  constructor
  · rintro ⟨entry, hentry, hevent⟩
    cases entry with
    | record r => cases hevent
    | event e' => exact Option.some.inj hevent ▸ hentry
  · intro h
    exact ⟨.event e, h, rfl⟩

/-! ## Records of traces -/

@[simp] theorem records_nil : records ([] : List (Entry κ)) = [] := rfl

@[simp] theorem records_cons_record (r : Log.Record) (trace : List (Entry κ)) :
    records (.record r :: trace) = r :: records trace := rfl

@[simp] theorem records_cons_event (e : κ) (trace : List (Entry κ)) :
    records (.event e :: trace) = records trace := rfl

/-- The records of two traces one after the other. -/
@[simp] theorem records_append (first rest : List (Entry κ)) :
    records (first ++ rest) = records first ++ records rest :=
  List.filterMap_append

/-- Relabelling the events of a trace leaves its records. -/
@[simp] theorem records_map_map (f : κ → κ') (trace : List (Entry κ)) :
    records (trace.map (Entry.map f)) = records trace := by
  induction trace with
  | nil => rfl
  | cons entry trace ih =>
    cases entry with
    | record r => exact congrArg (r :: ·) ih
    | event e => exact ih

/-- The records of a trace of records alone are these. -/
@[simp] theorem records_map_record (rs : List Log.Record) :
    records (rs.map Entry.record : List (Entry κ)) = rs := by
  induction rs with
  | nil => rfl
  | cons r rs ih => exact congrArg (r :: ·) ih

namespace Traced

/-! ## Steps without their log -/

/-- The same step with the log records taken out of its trace. -/
def quiet (x : Traced (Entry κ) σ α) : Traced κ σ α := fun s =>
  ⟨(x s).result, (x s).state, events (x s).trace⟩

@[simp] theorem quiet_result (x : Traced (Entry κ) σ α) (s : σ) :
    (x.quiet s).result = (x s).result := rfl

@[simp] theorem quiet_state (x : Traced (Entry κ) σ α) (s : σ) :
    (x.quiet s).state = (x s).state := rfl

@[simp] theorem quiet_trace (x : Traced (Entry κ) σ α) (s : σ) :
    (x.quiet s).trace = events (x s).trace := rfl

/-- What a step does without its log, part by part. -/
theorem of_quiet_eq {x : Traced (Entry κ) σ α} {s s' : σ} {a : α} {es : List κ}
    (h : x.quiet s = ⟨a, s', es⟩) :
    (x s).result = a ∧ (x s).state = s' ∧ events (x s).trace = es := by
  rw [← quiet_result, ← quiet_state, ← quiet_trace, h]
  exact ⟨rfl, rfl, rfl⟩

@[simp] theorem quiet_pure (a : α) : (pure a : Traced (Entry κ) σ α).quiet = pure a := rfl

/-- A composition without its log is the composition of its parts without theirs. -/
@[simp] theorem quiet_bind (x : Traced (Entry κ) σ α) (f : α → Traced (Entry κ) σ β) :
    (x >>= f).quiet = x.quiet >>= fun a => (f a).quiet := by
  funext s
  change Outcome.mk _ _ (events ((x s).trace ++ _)) = Outcome.mk _ _ (events (x s).trace ++ _)
  rw [events_append]
  rfl

/-- Mapping the result of a step leaves its events. -/
@[simp] theorem quiet_map (f : α → β) (x : Traced (Entry κ) σ α) :
    (f <$> x).quiet = f <$> x.quiet := by
  rw [map_eq_pure_bind, map_eq_pure_bind, quiet_bind]
  rfl

/-- Logging is nothing but log. -/
@[simp] theorem quiet_log (level : Log.Level) (source : Log.Source) (text : String) :
    (log level source text : Traced (Entry κ) σ Unit).quiet = pure () := rfl

@[simp] theorem quiet_emit (e : κ) :
    (emit (.event e) : Traced (Entry κ) σ Unit).quiet = emit e := rfl

@[simp] theorem quiet_get : (get : Traced (Entry κ) σ σ).quiet = get := rfl

@[simp] theorem quiet_modify (f : σ → σ) :
    (modify f : Traced (Entry κ) σ Unit).quiet = modify f := rfl

/-- Replaying a value leaves nothing but the value. -/
@[simp] theorem quiet_replay (x : Logged α) :
    (x.replay : Traced (Entry κ) σ α).quiet = pure x.value := by
  funext s
  change Outcome.mk _ _ (events (x.records.map Entry.record ++ [])) = _
  rw [List.append_nil, events_map_record]
  rfl

/-! ## Steps at a state -/

@[simp] theorem bind_apply (x : Traced κ σ α) (f : α → Traced κ σ β) (s : σ) :
    (x >>= f) s =
      ⟨(f (x s).result (x s).state).result, (f (x s).result (x s).state).state,
        (x s).trace ++ (f (x s).result (x s).state).trace⟩ := rfl

@[simp] theorem map_apply (f : α → β) (x : Traced κ σ α) (s : σ) :
    (f <$> x) s = ⟨f (x s).result, (x s).state, (x s).trace⟩ := by
  rw [map_eq_pure_bind, bind_apply, pure_apply, List.append_nil]

@[simp] theorem emit_apply (e : κ) (s : σ) : emit e s = ⟨(), s, [e]⟩ := rfl

@[simp] theorem log_apply (level : Log.Level) (source : Log.Source) (text : String) (s : σ) :
    (log level source text : Traced (Entry κ) σ Unit) s =
      ⟨(), s, [.record ⟨level, source, text⟩]⟩ := rfl

@[simp] theorem get_apply (s : σ) : (get : Traced κ σ σ) s = ⟨s, s, []⟩ := rfl

@[simp] theorem modify_apply (f : σ → σ) (s : σ) :
    (modify f : Traced κ σ Unit) s = ⟨(), f s, []⟩ := rfl

@[simp] theorem relabel_apply (f : κ → κ') (x : Traced κ σ α) (s : σ) :
    relabel f x s = ⟨(x s).result, (x s).state, (x s).trace.map f⟩ := rfl

end Traced

namespace Device

/-! ## Steps of the transport as steps of the device -/

@[simp] theorem onTransport_apply (x : Traced κ (ω × τ) α) (world : ω) (device : Device τ) :
    onTransport x (world, device) =
      ⟨(x (world, device.transport)).result,
        ((x (world, device.transport)).state.1,
          { device with transport := (x (world, device.transport)).state.2 }),
        (x (world, device.transport)).trace⟩ := rfl

/-- A step of the transport without its log is the same on the device. -/
@[simp] theorem quiet_onTransport (x : Traced (Entry κ) (ω × τ) α) :
    (onTransport x).quiet = onTransport x.quiet := rfl

end Device

end BatteryWatch
