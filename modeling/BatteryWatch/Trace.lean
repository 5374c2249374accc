/-!
# Traces

What a step of the program leaves behind besides its result: log records and outside events.
-/

namespace BatteryWatch

/-! ## Log records

A record has a level, the part of the program that logged it and a text. Levels are ordered by how
much they say: a filter that lets a level through lets every graver one through as well. -/

namespace Log

/-- How grave a record is. -/
inductive Level where
  | error
  | warn
  | info
  | debug
  | trace
deriving DecidableEq

/-- The rank of a level, the gravest first. -/
def Level.rank : Level → Nat
  | .error => 1
  | .warn => 2
  | .info => 3
  | .debug => 4
  | .trace => 5

/-- The upper-case name of a level. -/
def Level.name : Level → String
  | .error => "ERROR"
  | .warn => "WARN"
  | .info => "INFO"
  | .debug => "DEBUG"
  | .trace => "TRACE"

/-- The part of the program that logs. -/
inductive Source where
  | program
  | monitor
  | link
  | device
  | packet
deriving DecidableEq

/-- The path by which filters address a part of the program. -/
def Source.path : Source → String
  | .program => "mooltipass_battery"
  | .monitor => "mooltipass_battery::app"
  | .link => "mooltipass_hid::hid_device"
  | .device => "mooltipass_hid::mooltipass_device"
  | .packet => "mooltipass_hid::packet"

/-- One log record. -/
structure Record where
  level : Level
  source : Source
  text : String
deriving DecidableEq

end Log

/-! ## Steps that leave a trace

A step works on a state, gives a result and leaves a trace: the log records and the outside events
it caused, in their order. Steps are composed with `do`; the trace of a composition is the trace of
its parts, one after the other (`bind_trace`). -/

/-- What a step leaves behind. -/
structure Outcome (ε σ α : Type) where
  result : α
  state : σ
  trace : List ε

/-- A step on a state `σ` with a result in `α` that leaves a trace of `ε`. -/
def Traced (ε σ α : Type) : Type := σ → Outcome ε σ α

namespace Traced

variable {ε ε' σ α β : Type}

/-- The step that only gives a result. -/
protected def pure (a : α) : Traced ε σ α := fun s => ⟨a, s, []⟩

/-- One step and then another that depends on its result. -/
protected def bind (x : Traced ε σ α) (f : α → Traced ε σ β) : Traced ε σ β := fun s =>
  let first := x s
  let rest := f first.result first.state
  ⟨rest.result, rest.state, first.trace ++ rest.trace⟩

instance : Monad (Traced ε σ) where
  pure := Traced.pure
  bind := Traced.bind

/-- A step that only gives a result does just that. -/
@[simp] theorem pure_apply (a : α) (s : σ) : (pure a : Traced ε σ α) s = ⟨a, s, []⟩ := rfl

/-- A composition gives the result of its second part. -/
@[simp] theorem bind_result (x : Traced ε σ α) (f : α → Traced ε σ β) (s : σ) :
    ((x >>= f) s).result = (f (x s).result (x s).state).result := rfl

/-- A composition leaves the state of its second part. -/
@[simp] theorem bind_state (x : Traced ε σ α) (f : α → Traced ε σ β) (s : σ) :
    ((x >>= f) s).state = (f (x s).result (x s).state).state := rfl

/-- A composition leaves the traces of its parts, one after the other. -/
@[simp] theorem bind_trace (x : Traced ε σ α) (f : α → Traced ε σ β) (s : σ) :
    ((x >>= f) s).trace = (x s).trace ++ (f (x s).result (x s).state).trace := rfl

instance : LawfulMonad (Traced ε σ) := LawfulMonad.mk' _
  (fun x => by
    funext s
    change Outcome.mk _ _ ((x s).trace ++ []) = x s
    rw [List.append_nil]
    rfl)
  (fun _ _ => rfl)
  (fun x f g => by
    funext s
    change Outcome.mk _ _ (((x s).trace ++ _) ++ _) = Outcome.mk _ _ ((x s).trace ++ (_ ++ _))
    rw [List.append_assoc]
    rfl)

/-- Leaves one entry in the trace. -/
def emit (e : ε) : Traced ε σ Unit := fun s => ⟨(), s, [e]⟩

/-- Leaves some entries in the trace. -/
def emitAll (es : List ε) : Traced ε σ Unit := fun s => ⟨(), s, es⟩

/-- The current state. -/
def get : Traced ε σ σ := fun s => ⟨s, s, []⟩

/-- Changes the state. -/
def modify (f : σ → σ) : Traced ε σ Unit := fun s => ⟨(), f s, []⟩

/-- The same step with every trace entry relabelled. -/
def relabel (f : ε → ε') (x : Traced ε σ α) : Traced ε' σ α := fun s =>
  let o := x s
  ⟨o.result, o.state, o.trace.map f⟩

end Traced

/-- An entry of a trace: a log record or an outside event. -/
inductive Entry (κ : Type) where
  | record (r : Log.Record)
  | event (e : κ)

/-- The log record of an entry, if it is one. -/
def Entry.record? {κ : Type} : Entry κ → Option Log.Record
  | .record r => some r
  | .event _ => none

/-- The outside event of an entry, if it is one. -/
def Entry.event? {κ : Type} : Entry κ → Option κ
  | .record _ => none
  | .event e => some e

/-- The same entry with its event relabelled. -/
def Entry.map {κ κ' : Type} (f : κ → κ') : Entry κ → Entry κ'
  | .record r => .record r
  | .event e => .event (f e)

/-- The log records of a trace, in order. -/
def records {κ : Type} (trace : List (Entry κ)) : List Log.Record := trace.filterMap Entry.record?

/-- The outside events of a trace, in order. -/
def events {κ : Type} (trace : List (Entry κ)) : List κ := trace.filterMap Entry.event?

/-- A value together with the records logged while it was made. -/
structure Logged (α : Type) where
  value : α
  records : List Log.Record := []

/-- Logs one record. -/
def log {κ σ : Type} (level : Log.Level) (source : Log.Source) (text : String) :
    Traced (Entry κ) σ Unit :=
  Traced.emit (.record ⟨level, source, text⟩)

/-- Leaves the records of a value in the trace and gives the value. -/
def Logged.replay {κ σ α : Type} (x : Logged α) : Traced (Entry κ) σ α := do
  Traced.emitAll (x.records.map .record)
  return x.value

end BatteryWatch
