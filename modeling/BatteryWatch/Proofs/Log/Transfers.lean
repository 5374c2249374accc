import BatteryWatch.Proofs.RoundTrip

/-!
# Transfers in the log

Every report that is written and everything that is read is a transfer on the bus. A listener who
knows the devices can tell the transfers from the events on the bus alone (`Bus.transfers`), and the
log tells the same: `Narrates` relates some records to the events that they tell of, from one state
of the bus to another. Narrations are composed (`Narrates.append`), and that of a round trip is
`Narrates.traffic`.
-/

namespace BatteryWatch

/-! ## Transfers -/

/-- A transfer on the bus: a report that is written, or bytes that are read. -/
inductive Transfer where
  | sent (report : List UInt8)
  | received (bytes : List UInt8)

/-- The record that tells of a transfer. -/
def Transfer.record : Transfer → Log.Record
  | .sent report => ⟨.debug, .link, "HID TX: " ++ Hex.list report⟩
  | .received bytes => ⟨.debug, .link, "HID RX: " ++ Hex.list bytes⟩

/-- Whether a record tells of a transfer. -/
def Log.Record.isTransfer (r : Log.Record) : Bool :=
  r.level = .debug && r.source = .link && "HID ".toList.isPrefixOf r.text.toList

/-- The record of a transfer is known as such. -/
@[simp] theorem Transfer.isTransfer_record (t : Transfer) : t.record.isTransfer = true := by
  cases t <;> simp [record, Log.Record.isTransfer, List.isPrefixOf]

/-- The record of a transfer is a debugging record. -/
@[simp] theorem Transfer.level_record (t : Transfer) : t.record.level = .debug := by
  cases t <;> rfl

/-- The transfer that reading up to some number of bytes is; to read nothing is none. -/
def Delivery.transfer? (size : Nat) : Delivery → Option Transfer
  | .failure _ => none
  | .bytes content =>
    if content.take size = [] then none else some (.received (content.take size))

/-- What a listener knows: how the devices will react, and what the one written to last has ready to
be read. -/
structure Listener where
  bus : Bus
  ready : Option Delivery

/-- Whether an event has nothing to do with what a device is sent or sends. -/
def BusEvent.isIdle : BusEvent → Bool
  | .wrote _ _ | .read _ _ _ => false
  | _ => true

namespace Listener

/-- What a listener knows after an event. -/
def hear (l : Listener) : BusEvent → Listener
  | .wrote g bytes =>
    ⟨l.bus.advance g.place, ((l.bus.reaction g.place).delivery bytes).toOption⟩
  | .read _ _ _ => { l with ready := none }
  | _ => l

/-- The transfer that an event is, if it is one. -/
def transfer? (l : Listener) : BusEvent → Option Transfer
  | .wrote _ bytes => some (.sent bytes)
  | .read _ size _ => l.ready.bind (Delivery.transfer? size)
  | _ => none

/-- Idle events are no transfers, and a listener learns nothing from them. -/
theorem of_isIdle {e : BusEvent} (h : e.isIdle = true) (l : Listener) :
    l.transfer? e = none ∧ l.hear e = l := by
  cases e with
  | wrote g bytes => cases h
  | read g size timeout => cases h
  | _ => exact ⟨rfl, rfl⟩

/-- The transfers among some events. -/
def transfers (l : Listener) : List BusEvent → List Transfer
  | [] => []
  | e :: es => (l.transfer? e).toList ++ (l.hear e).transfers es

/-- What a listener knows after some events. -/
def hearAll (l : Listener) (es : List BusEvent) : Listener := es.foldl hear l

/-- The transfers among some events and then among others. -/
theorem transfers_append (l : Listener) (es es' : List BusEvent) :
    l.transfers (es ++ es') = l.transfers es ++ (l.hearAll es).transfers es' := by
  induction es generalizing l with
  | nil => rfl
  | cons e es ih =>
    rw [List.cons_append, transfers, ih, ← List.append_assoc]
    rfl

/-- What is known after some events and then others. -/
theorem hearAll_append (l : Listener) (es es' : List BusEvent) :
    l.hearAll (es ++ es') = (l.hearAll es).hearAll es' :=
  List.foldl_append

/-- A report that is written is a transfer. -/
theorem sent_mem_transfers {g : HandleId} {report : List UInt8} {es : List BusEvent}
    (h : .wrote g report ∈ es) (l : Listener) : .sent report ∈ l.transfers es := by
  induction es generalizing l with
  | nil => cases h
  | cons e es ih =>
    rw [transfers, List.mem_append]
    rcases List.mem_cons.mp h with rfl | hlater
    · exact .inl (List.mem_singleton.mpr rfl)
    · exact .inr (ih hlater _)

end Listener

/-- The transfers among some events on a bus. -/
def Bus.transfers (bus : Bus) (es : List BusEvent) : List Transfer :=
  Listener.transfers ⟨bus, none⟩ es

/-! ## Narrations -/

/-- Some records tell of what happens from one state of the bus to another: of every transfer, in
order, and of no other. None of them is less grave than a debugging record, and what is ready to be
read at first makes no difference. -/
structure Narrates (bus : Bus) (rs : List Log.Record) (es : List BusEvent) (bus' : Bus) : Prop where
  levels : ∀ r ∈ rs, r.level.rank ≤ Log.Level.debug.rank
  told : ∀ ready, rs.filter Log.Record.isTransfer =
    (Listener.transfers ⟨bus, ready⟩ es).map Transfer.record
  left : ∀ ready, (Listener.hearAll ⟨bus, ready⟩ es).bus = bus'

/-- A record that is not about a transfer, and not below the debugging records. -/
structure Log.Record.IsAside (r : Log.Record) : Prop where
  level : r.level.rank ≤ Log.Level.debug.rank
  apart : r.isTransfer = false

/-- Graver records than debugging ones are about no transfer. -/
theorem Log.Record.isAside_of_rank_lt {level : Log.Level} {source : Log.Source} {text : String}
    (h : level.rank < Log.Level.debug.rank) : IsAside ⟨level, source, text⟩ where
  level := Nat.le_of_lt h
  apart := by
    have hlevel : level ≠ .debug := fun hdebug => Nat.lt_irrefl _ (hdebug ▸ h)
    simp [isTransfer, hlevel]

/-- Debugging records from elsewhere than the link are about no transfer. -/
theorem Log.Record.isAside_of_source_ne {source : Log.Source} {text : String} (h : source ≠ .link) :
    IsAside ⟨.debug, source, text⟩ where
  level := Nat.le_refl _
  apart := by simp [isTransfer, h]

namespace Narrates

variable {bus mid bus' : Bus} {rs rs' : List Log.Record} {es es' : List BusEvent}

/-- Nothing is told of nothing. -/
theorem nil (bus : Bus) : Narrates bus [] [] bus where
  levels := List.forall_mem_nil _
  told _ := rfl
  left _ := rfl

/-- A narration may go on. -/
theorem append (h : Narrates bus rs es mid) (h' : Narrates mid rs' es' bus') :
    Narrates bus (rs ++ rs') (es ++ es') bus' := by
  have hmid (ready : Option Delivery) :
      Listener.hearAll ⟨bus, ready⟩ es = ⟨mid, (Listener.hearAll ⟨bus, ready⟩ es).ready⟩ := by
    rw [← h.left ready]
  refine ⟨List.forall_mem_append.mpr ⟨h.levels, h'.levels⟩, fun ready => ?_, fun ready => ?_⟩
  · rw [List.filter_append, Listener.transfers_append, List.map_append, h.told ready, hmid,
      ← h'.told]
  · rw [Listener.hearAll_append, hmid, h'.left]

/-- A record that is about no transfer may be told at any time. -/
theorem aside {r : Log.Record} (hr : r.IsAside) (h : Narrates bus rs es bus') :
    Narrates bus (r :: rs) es bus' where
  levels := List.forall_mem_cons.mpr ⟨hr.level, h.levels⟩
  told ready := by rw [List.filter_cons_of_neg (by rw [hr.apart]; decide), h.told ready]
  left := h.left

/-- Records that are about no transfer may be told while nothing happens. -/
theorem asides (h : ∀ r ∈ rs, r.IsAside) (bus : Bus) : Narrates bus rs [] bus := by
  induction rs with
  | nil => exact .nil bus
  | cons r rs ih =>
    obtain ⟨hr, hrs⟩ := List.forall_mem_cons.mp h
    exact .aside hr (ih hrs)

/-- Of an idle event nothing is told. -/
theorem idle {e : BusEvent} (he : e.isIdle = true) (h : Narrates bus rs es bus') :
    Narrates bus rs (e :: es) bus' where
  levels := h.levels
  told ready := by
    obtain ⟨hnone, hsame⟩ := Listener.of_isIdle he ⟨bus, ready⟩
    rw [Listener.transfers, hnone, hsame, h.told ready]
    rfl
  left ready := by
    obtain ⟨-, hsame⟩ := Listener.of_isIdle he ⟨bus, ready⟩
    rw [Listener.hearAll, List.foldl_cons, hsame]
    exact h.left ready

/-- A report that is written is told, and so is what is read after it. -/
theorem traffic (bus : Bus) (g : HandleId) (readTimeout : Duration) (p : Packet) :
    let behaviour := (bus.reaction g.place).delivery (Report.ofPacket p)
    let answered := behaviour.toOption.bind (Delivery.transfer? 64)
    Narrates bus ((Transfer.sent (Report.ofPacket p) :: answered.toList).map Transfer.record)
      (Link.traffic g readTimeout p behaviour) (bus.advance g.place) := by
  intro behaviour answered
  have htransfers (ready : Option Delivery) :
      Listener.transfers ⟨bus, ready⟩ (Link.traffic g readTimeout p behaviour) =
        Transfer.sent (Report.ofPacket p) :: answered.toList := by
    -- what is read is what the listener heard to be ready
    have hread : Listener.transfers ⟨bus, ready⟩ [.wrote g (Report.ofPacket p),
        .read g 64 (Link.timeoutMillis readTimeout)] =
        Transfer.sent (Report.ofPacket p) :: answered.toList :=
      congrArg (Transfer.sent (Report.ofPacket p) :: ·) (List.append_nil _)
    cases hb : behaviour with
    | error text =>
      have hnone : answered = none := by
        change behaviour.toOption.bind (Delivery.transfer? 64) = none
        rw [hb]
        rfl
      rw [hnone]
      rfl
    | ok delivery => exact hread
  refine ⟨?_, fun ready => ?_, fun ready => ?_⟩
  · intro r hr
    obtain ⟨t, -, rfl⟩ := List.mem_map.mp hr
    exact Nat.le_of_eq (congrArg Log.Level.rank t.level_record)
  · rw [htransfers, List.filter_eq_self]
    intro r hr
    obtain ⟨t, -, rfl⟩ := List.mem_map.mp hr
    exact t.isTransfer_record
  · cases behaviour <;> rfl

end Narrates

end BatteryWatch
