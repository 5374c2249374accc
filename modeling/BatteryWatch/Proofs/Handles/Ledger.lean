import BatteryWatch.Bus.Basic
import Mathlib.Data.List.Induction

/-!
# A ledger of handles

The rules for handles on the bus, as a ledger that takes one event after the other
(`Ledger.enter`) and refuses an event that breaks a rule: every opening gets a new handle, at most
one handle is open when another is opened, reports are written and read on the one open handle
alone, and of two open handles the older is closed first.

What follows for any sequence of events that a ledger accepts (`Ledger.record`) is said without the
ledger, in terms of the handles that are open after some events (`openHandles`): counts of openings
and closings, the number of open handles, and what surrounds a moment with two of them.
-/

namespace BatteryWatch

/-! ## Open handles -/

/-- The open handles after an event, in the order of their opening. -/
def BusEvent.update (handles : List HandleId) : BusEvent → List HandleId
  | .opened h => handles ++ [h]
  | .closed h => handles.erase h
  | _ => handles

/-- The handles that are open after some events, in the order of their opening. -/
def openHandles (es : List BusEvent) : List HandleId := es.foldl BusEvent.update []

/-- An event that neither opens nor closes a handle. -/
def BusEvent.KeepsHandles : BusEvent → Prop
  | .opened _ => False
  | .closed _ => False
  | _ => True

/-- An event that carries bytes over a handle. -/
def BusEvent.CarriedBy (h : HandleId) : BusEvent → Prop
  | .wrote h' _ => h' = h
  | .read h' _ _ => h' = h
  | _ => False

/-! ## The ledger -/

/-- The serial number of the next handle and the open handles in the order of their opening. -/
structure Ledger where
  next : Nat
  handles : List HandleId

namespace Ledger

/-- The ledger before anything is opened. -/
def empty : Ledger := ⟨0, []⟩

/-- Enters an event, unless it breaks a rule. -/
def enter (l : Ledger) : BusEvent → Option Ledger
  | .listed => some l
  | .openFailed _ => some l
  | .opened h =>
    if h.serial = l.next ∧ l.handles.length ≤ 1 then some ⟨l.next + 1, l.handles ++ [h]⟩ else none
  | .described h _ => if h ∈ l.handles then some l else none
  | .wrote h _ => if l.handles = [h] then some l else none
  | .read h _ _ => if l.handles = [h] then some l else none
  | .closed h => if l.handles.head? = some h then some ⟨l.next, l.handles.tail⟩ else none

/-- Enters events one after the other, unless one of them breaks a rule. -/
def record (l : Ledger) (es : List BusEvent) : Option Ledger := es.foldlM enter l

@[simp] theorem record_nil (l : Ledger) : l.record [] = some l := rfl

@[simp] theorem record_cons (l : Ledger) (e : BusEvent) (es : List BusEvent) :
    l.record (e :: es) = (l.enter e).bind fun m => m.record es := rfl

/-- Entering two sequences of events one after the other. -/
theorem record_append (l : Ledger) (first rest : List BusEvent) :
    l.record (first ++ rest) = (l.record first).bind fun m => m.record rest :=
  List.foldlM_append

/-- Entering a sequence of events enters its parts. -/
theorem exists_record_of_append {l l' : Ledger} {first rest : List BusEvent}
    (h : l.record (first ++ rest) = some l') :
    ∃ m, l.record first = some m ∧ m.record rest = some l' := by
  rw [record_append] at h
  exact Option.bind_eq_some_iff.mp h

/-- All that entering an event can do. -/
theorem enter_cases {l l' : Ledger} {e : BusEvent} (h : l.enter e = some l') :
    (∃ g, e = .opened g ∧ g.serial = l.next ∧ l.handles.length ≤ 1 ∧
      l' = ⟨l.next + 1, l.handles ++ [g]⟩) ∨
    (∃ g rest, e = .closed g ∧ l.handles = g :: rest ∧ l' = ⟨l.next, rest⟩) ∨
    (e.KeepsHandles ∧ l' = l ∧ ∀ g, e.CarriedBy g → l.handles = [g]) := by
  cases e with
  | listed => exact .inr (.inr ⟨trivial, (Option.some.inj h).symm, fun _ hg => hg.elim⟩)
  | openFailed place => exact .inr (.inr ⟨trivial, (Option.some.inj h).symm, fun _ hg => hg.elim⟩)
  | opened g =>
    obtain ⟨⟨hserial, hone⟩, hl'⟩ := Option.ite_none_right_eq_some.mp h
    exact .inl ⟨g, rfl, hserial, hone, (Option.some.inj hl').symm⟩
  | described g kind =>
    obtain ⟨-, hl'⟩ := Option.ite_none_right_eq_some.mp h
    exact .inr (.inr ⟨trivial, (Option.some.inj hl').symm, fun _ hg => hg.elim⟩)
  | wrote g bytes =>
    obtain ⟨honly, hl'⟩ := Option.ite_none_right_eq_some.mp h
    refine .inr (.inr ⟨trivial, (Option.some.inj hl').symm, ?_⟩)
    rintro _ rfl
    exact honly
  | read g size timeout =>
    obtain ⟨honly, hl'⟩ := Option.ite_none_right_eq_some.mp h
    refine .inr (.inr ⟨trivial, (Option.some.inj hl').symm, ?_⟩)
    rintro _ rfl
    exact honly
  | closed g =>
    obtain ⟨hfirst, hl'⟩ := Option.ite_none_right_eq_some.mp h
    obtain ⟨rest, hrest⟩ := List.head?_eq_some_iff.mp hfirst
    refine .inr (.inl ⟨g, rest, rfl, hrest, ?_⟩)
    rw [← Option.some.inj hl', hrest]
    rfl

/-! ## What entering events keeps -/

/-- The ledger has the open handles. -/
theorem enter_handles {l l' : Ledger} {e : BusEvent} (h : l.enter e = some l') :
    l'.handles = e.update l.handles := by
  obtain ⟨g, rfl, -, -, rfl⟩ | ⟨g, rest, rfl, hfirst, rfl⟩ | ⟨hkeeps, rfl, -⟩ := enter_cases h
  · rfl
  · rw [hfirst]
    exact (List.erase_cons_head g rest).symm
  · cases e <;> first | rfl | exact hkeeps.elim

/-- The ledger has the open handles after any number of events. -/
theorem record_handles {l l' : Ledger} {es : List BusEvent} (h : l.record es = some l') :
    l'.handles = es.foldl BusEvent.update l.handles := by
  induction es generalizing l with
  | nil => rw [Option.some.inj h]; rfl
  | cons e es ih =>
    obtain ⟨m, hm, hrest⟩ := Option.bind_eq_some_iff.mp h
    rw [ih hrest, enter_handles hm]
    rfl

/-- From the empty ledger on, the ledger has exactly the open handles. -/
theorem handles_eq_openHandles {l : Ledger} {es : List BusEvent} (h : empty.record es = some l) :
    l.handles = openHandles es :=
  record_handles h

/-- Never are more than two handles open. -/
theorem length_handles_le {l l' : Ledger} {es : List BusEvent} (h : l.record es = some l')
    (hl : l.handles.length ≤ 2) : l'.handles.length ≤ 2 := by
  induction es generalizing l with
  | nil => exact Option.some.inj h ▸ hl
  | cons e es ih =>
    obtain ⟨m, hm, hrest⟩ := Option.bind_eq_some_iff.mp h
    refine ih hrest ?_
    obtain ⟨g, -, -, hone, rfl⟩ | ⟨g, rest, -, hfirst, rfl⟩ | ⟨-, rfl, -⟩ := enter_cases hm
    · rw [List.length_append, List.length_singleton]
      omega
    · rw [hfirst, List.length_cons] at hl
      exact Nat.le_of_succ_le hl
    · exact hl

/-! ## Counting openings and closings -/

/-- An event that keeps handles is no opening and no closing. -/
theorem KeepsHandles.ne {e : BusEvent} (h : e.KeepsHandles) (g : HandleId) :
    e ≠ .opened g ∧ e ≠ .closed g := by
  constructor
  · rintro rfl
    exact h
  · rintro rfl
    exact h

/-- A handle was open or is opened as often as it is closed or stays open. -/
theorem record_count {l l' : Ledger} {es : List BusEvent} (h : l.record es = some l')
    (g : HandleId) :
    l.handles.count g + es.count (.opened g) = es.count (.closed g) + l'.handles.count g := by
  induction es generalizing l with
  | nil => rw [Option.some.inj h, List.count_nil, List.count_nil, Nat.add_zero, Nat.zero_add]
  | cons e es ih =>
    obtain ⟨m, hm, hrest⟩ := Option.bind_eq_some_iff.mp h
    have hcount := ih hrest
    obtain ⟨k, rfl, -, -, rfl⟩ | ⟨k, rest, rfl, hfirst, rfl⟩ | ⟨hkeeps, rfl, -⟩ := enter_cases hm
    · simp only [List.count_append, List.count_cons, List.count_nil, beq_iff_eq,
        BusEvent.opened.injEq, reduceCtorEq, if_false] at hcount ⊢
      omega
    · simp only [hfirst, List.count_cons, beq_iff_eq, BusEvent.closed.injEq, reduceCtorEq,
        if_false] at hcount ⊢
      omega
    · obtain ⟨hopened, hclosed⟩ := KeepsHandles.ne hkeeps g
      rwa [List.count_cons_of_ne hopened, List.count_cons_of_ne hclosed]

/-- No handle is opened twice, and none with a serial number that was given before. -/
theorem count_opened_le {l l' : Ledger} {es : List BusEvent} (h : l.record es = some l')
    (g : HandleId) : es.count (.opened g) ≤ if l.next ≤ g.serial then 1 else 0 := by
  induction es generalizing l with
  | nil => exact Nat.zero_le _
  | cons e es ih =>
    obtain ⟨m, hm, hrest⟩ := Option.bind_eq_some_iff.mp h
    have hcount := ih hrest
    obtain ⟨k, rfl, hserial, -, rfl⟩ | ⟨k, rest, rfl, -, rfl⟩ | ⟨hkeeps, rfl, -⟩ := enter_cases hm
    · rw [List.count_cons]
      by_cases hk : k = g
      · subst hk
        rw [if_neg (by simp only; omega)] at hcount
        rw [if_pos (beq_self_eq_true _), if_pos (Nat.le_of_eq hserial.symm)]
        omega
      · rw [if_neg (by simpa using hk)]
        simp only at hcount
        split at hcount <;> split <;> omega
    · rwa [List.count_cons_of_ne (by simp)]
    · rwa [List.count_cons_of_ne (KeepsHandles.ne hkeeps g).1]

/-- A handle that is closed was opened before. -/
theorem opened_mem_of_closed {l : Ledger} {before after : List BusEvent} {g : HandleId}
    (h : empty.record (before ++ .closed g :: after) = some l) : .opened g ∈ before := by
  obtain ⟨m, hm, hrest⟩ := exists_record_of_append h
  obtain ⟨n, hn, -⟩ := Option.bind_eq_some_iff.mp hrest
  obtain ⟨hfirst, -⟩ := Option.ite_none_right_eq_some.mp hn
  have hopen : 0 < m.handles.count g := List.count_pos_iff.mpr (List.mem_of_head? hfirst)
  have hcount := record_count hm g
  have hstart : empty.handles.count g = 0 := rfl
  exact List.count_pos_iff.mp (by omega)

/-- A handle that is open was open before or was opened. -/
theorem mem_or_opened_of_mem {l l' : Ledger} {es : List BusEvent} (h : l.record es = some l')
    {g : HandleId} (hg : g ∈ l'.handles) : g ∈ l.handles ∨ .opened g ∈ es := by
  have hcount := record_count h g
  have hpos : 0 < l'.handles.count g := List.count_pos_iff.mpr hg
  by_cases hopened : 0 < es.count (.opened g)
  · exact .inr (List.count_pos_iff.mp hopened)
  · exact .inl (List.count_pos_iff.mp (by omega))

/-- When no handle is open in the end, every handle that was opened was opened once and closed once,
after it was opened. -/
theorem opened_and_closed_once {l : Ledger} {es : List BusEvent} (h : empty.record es = some l)
    (hl : l.handles = []) {g : HandleId} (hg : .opened g ∈ es) :
    es.count (.opened g) = 1 ∧ es.count (.closed g) = 1 ∧ [.opened g, .closed g].Sublist es := by
  have hpos : 0 < es.count (.opened g) := List.count_pos_iff.mpr hg
  have hle : es.count (.opened g) ≤ 1 := count_opened_le h g
  have hcount := record_count h g
  rw [hl] at hcount
  have hstart : empty.handles.count g = 0 := rfl
  have hend : ([] : List HandleId).count g = 0 := rfl
  have hclosed : es.count (.closed g) = 1 := by omega
  refine ⟨by omega, hclosed, ?_⟩
  obtain ⟨before, after, rfl⟩ :=
    List.append_of_mem (List.count_pos_iff.mp (by omega : 0 < es.count (.closed g)))
  have hopened := opened_mem_of_closed h
  exact (List.singleton_sublist.mpr hopened).append
    (List.singleton_sublist.mpr List.mem_cons_self)

/-! ## Moments with two open handles -/

/-- The last of some entered events is entered after those before it. -/
theorem exists_enter_of_concat {l m : Ledger} {es : List BusEvent} {e : BusEvent}
    (h : l.record (es ++ [e]) = some m) : ∃ n, l.record es = some n ∧ n.enter e = some m := by
  obtain ⟨n, hn, hlast⟩ := exists_record_of_append h
  obtain ⟨m', hm', hnil⟩ := Option.bind_eq_some_iff.mp hlast
  exact ⟨n, hn, Option.some.inj hnil ▸ hm'⟩

/-- When two handles are open, the newer one was opened, and nothing was opened or closed since. -/
theorem exists_opening {l m : Ledger} {es : List BusEvent} {old new : HandleId}
    (h : l.record es = some m) (hl : l.handles.length ≤ 1) (hm : m.handles = [old, new]) :
    ∃ before since, es = before ++ .opened new :: since ∧ ∀ e ∈ since, e.KeepsHandles := by
  induction es using List.reverseRecOn generalizing m with
  | nil =>
    obtain rfl := Option.some.inj h
    rw [hm] at hl
    exact absurd hl (by simp)
  | append_singleton es e ih =>
    obtain ⟨n, hn, he⟩ := exists_enter_of_concat h
    obtain ⟨g, rfl, -, hone, rfl⟩ | ⟨g, rest, -, hfirst, rfl⟩ | ⟨hkeeps, rfl, -⟩ := enter_cases he
    · -- the last event opened the newer handle
      refine ⟨es, [], ?_, by simp⟩
      have hg : g = new := by
        have hlast := congrArg List.getLast? hm
        simpa using hlast
      rw [hg]
    · -- a third handle would have been open
      have htwo := length_handles_le hn (by omega)
      simp only at hm
      rw [hfirst, hm] at htwo
      exact absurd htwo (by simp)
    · obtain ⟨before, since, rfl, hsince⟩ := ih hn hm
      refine ⟨before, since ++ [e], by simp, ?_⟩
      intro e' he'
      rcases List.mem_append.mp he' with hmem | hmem
      · exact hsince e' hmem
      · rwa [List.mem_singleton.mp hmem]

/-- When two handles are open and later at most one is, the older one is closed before anything
else is opened or closed. -/
theorem exists_closing {m l : Ledger} {es : List BusEvent} {old new : HandleId}
    (h : m.record es = some l) (hm : m.handles = [old, new]) (hl : l.handles.length ≤ 1) :
    ∃ between after, es = between ++ .closed old :: after ∧ ∀ e ∈ between, e.KeepsHandles := by
  induction es generalizing m with
  | nil =>
    obtain rfl := Option.some.inj h
    rw [hm] at hl
    exact absurd hl (by simp)
  | cons e es ih =>
    obtain ⟨n, hn, hrest⟩ := Option.bind_eq_some_iff.mp h
    obtain ⟨g, -, -, hone, -⟩ | ⟨g, rest, rfl, hfirst, -⟩ | ⟨hkeeps, rfl, -⟩ := enter_cases hn
    · -- nothing is opened while two handles are open
      rw [hm] at hone
      exact absurd hone (by simp)
    · rw [hm, List.cons.injEq] at hfirst
      obtain ⟨rfl, -⟩ := hfirst
      exact ⟨[], es, rfl, by simp⟩
    · obtain ⟨between, after, rfl, hbetween⟩ := ih hrest hm
      refine ⟨e :: between, after, rfl, ?_⟩
      intro e' he'
      rcases List.mem_cons.mp he' with rfl | hmem
      · exact hkeeps
      · exact hbetween e' hmem

/-- Bytes are carried over the one open handle. -/
theorem handles_of_carried {l m : Ledger} {e : BusEvent} {es : List BusEvent} {g : HandleId}
    (h : l.record (e :: es) = some m) (he : e.CarriedBy g) : l.handles = [g] := by
  obtain ⟨n, hn, -⟩ := Option.bind_eq_some_iff.mp h
  obtain ⟨k, rfl, -, -, -⟩ | ⟨k, rest, rfl, -, -⟩ | ⟨-, -, honly⟩ := enter_cases hn
  · exact he.elim
  · exact he.elim
  · exact honly g he

end Ledger

end BatteryWatch
