import BatteryWatch.Program
import BatteryWatch.Proofs.Delegation
import BatteryWatch.Proofs.StatusReading

/-!
# Building battery requests

What a list of adjustments makes of a request, and what a request looks like on the wire. A request
is known by its parts (`BatteryRequest.get`), and each part by the last value that it was given
(`BatteryRequest.get_foldl_adjust`); on the wire it is known by its payload, from which
`BatteryRequest.ofPayload?` reads it back. `BatteryRequest.building_law` puts the two together and
says that the same six values are sent in the same packet, whichever way they are given.
-/

namespace BatteryWatch

namespace BatteryRequest

/-! ## Parts of a request -/

/-- A part of a request. -/
inductive Part where
  | startCharging
  | stopCharging
  | usbScreenPower
  | batteryScreenPower
  | chargeVoltage
  | stopForceCharge
deriving DecidableEq

/-- The values of a part. -/
@[reducible] def Part.Value : Part → Type
  | .startCharging => Bool
  | .stopCharging => Bool
  | .usbScreenPower => Bool
  | .batteryScreenPower => Bool
  | .chargeVoltage => UInt16
  | .stopForceCharge => Bool

/-- The value that a request has for a part. -/
def get (r : BatteryRequest) : (part : Part) → part.Value
  | .startCharging => r.startCharging
  | .stopCharging => r.stopCharging
  | .usbScreenPower => r.usbScreenPower
  | .batteryScreenPower => r.batteryScreenPower
  | .chargeVoltage => r.chargeVoltage
  | .stopForceCharge => r.stopForceCharge

namespace Adjustment

/-- The part that an adjustment changes. -/
def part : Adjustment → Part
  | .startCharging _ => .startCharging
  | .stopCharging _ => .stopCharging
  | .usbScreenPower _ => .usbScreenPower
  | .batteryScreenPower _ => .batteryScreenPower
  | .chargeVoltage _ => .chargeVoltage
  | .stopForceCharge _ => .stopForceCharge

/-- The value that an adjustment gives to the part that it changes. -/
def value : (a : Adjustment) → a.part.Value
  | .startCharging on => on
  | .stopCharging on => on
  | .usbScreenPower on => on
  | .batteryScreenPower on => on
  | .chargeVoltage voltage => voltage
  | .stopForceCharge on => on

/-- The value that an adjustment gives to a part, if it changes this part. -/
def value? (a : Adjustment) (part : Part) : Option part.Value :=
  if h : a.part = part then some (h ▸ a.value) else none

/-- The last value that a list of adjustments gives to a part, if any of them changes this part. -/
def last? (adjustments : List Adjustment) (part : Part) : Option part.Value :=
  (adjustments.filterMap (·.value? part)).getLast?

/-- An adjustment gives a value to the part that it changes. -/
theorem value?_part (a : Adjustment) : a.value? a.part = some a.value := dif_pos rfl

/-- An adjustment gives no value to other parts. -/
theorem value?_of_ne {a : Adjustment} {part : Part} (h : a.part ≠ part) : a.value? part = none :=
  dif_neg h

/-- The last values of a list are those of its end, where it has any. -/
theorem last?_append (first rest : List Adjustment) (part : Part) :
    last? (first ++ rest) part = (last? rest part).or (last? first part) := by
  rw [last?, List.filterMap_append, List.getLast?_append]
  rfl

/-- The last values of a list that begins with an adjustment. -/
theorem last?_cons (a : Adjustment) (rest : List Adjustment) (part : Part) :
    last? (a :: rest) part = (last? rest part).or (a.value? part) := by
  rw [← List.singleton_append, last?_append]
  cases h : a.value? part <;> simp [last?, h]

end Adjustment

open Adjustment

/-- Requests with the same values are the same. -/
theorem eq_of_get_eq {r r' : BatteryRequest} (h : ∀ part, r.get part = r'.get part) : r = r' := by
  obtain ⟨a, b, c, d, v, f⟩ := r
  obtain ⟨a', b', c', d', v', f'⟩ := r'
  have ha : a = a' := h .startCharging
  have hb : b = b' := h .stopCharging
  have hc : c = c' := h .usbScreenPower
  have hd : d = d' := h .batteryScreenPower
  have hv : v = v' := h .chargeVoltage
  have hf : f = f' := h .stopForceCharge
  rw [ha, hb, hc, hd, hv, hf]

/-- An adjustment changes the part that it is for and leaves the others as they were. -/
theorem get_adjust (r : BatteryRequest) (a : Adjustment) (part : Part) :
    (r.adjust a).get part = (a.value? part).getD (r.get part) := by
  cases a <;> cases part <;> rfl

/-- After any adjustments every part has the last value that it was given, and its own if it was
given none. -/
theorem get_foldl_adjust (adjustments : List Adjustment) (r : BatteryRequest) (part : Part) :
    (adjustments.foldl adjust r).get part = (last? adjustments part).getD (r.get part) := by
  induction adjustments generalizing r with
  | nil => rfl
  | cons a adjustments ih =>
    rw [List.foldl_cons, ih, get_adjust, last?_cons]
    cases last? adjustments part <;> rfl

/-- The request that adjustments make, part by part. -/
theorem ofAdjustments_eq (adjustments : List Adjustment) :
    ofAdjustments adjustments =
      { startCharging := (last? adjustments .startCharging).getD false
        stopCharging := (last? adjustments .stopCharging).getD false
        usbScreenPower := (last? adjustments .usbScreenPower).getD false
        batteryScreenPower := (last? adjustments .batteryScreenPower).getD false
        chargeVoltage := (last? adjustments .chargeVoltage).getD 0
        stopForceCharge := (last? adjustments .stopForceCharge).getD false } := by
  refine eq_of_get_eq fun part => ?_
  rw [ofAdjustments, get_foldl_adjust]
  cases part <;> rfl

/-- Adjustments that give the same last values make the same request. -/
theorem ofAdjustments_congr {first second : List Adjustment}
    (h : ∀ part, last? first part = last? second part) :
    ofAdjustments first = ofAdjustments second := by
  rw [ofAdjustments_eq, ofAdjustments_eq, h, h, h, h, h, h]

/-- Adjustments of different parts can be made in either order. -/
theorem ofAdjustments_swap {a b : Adjustment} (h : a.part ≠ b.part)
    (before after : List Adjustment) :
    ofAdjustments (before ++ a :: b :: after) = ofAdjustments (before ++ b :: a :: after) := by
  refine ofAdjustments_congr fun part => ?_
  simp only [last?_append, last?_cons]
  by_cases ha : a.part = part
  · have hb : b.part ≠ part := fun hb => h (ha.trans hb.symm)
    rw [value?_of_ne hb, Option.or_none, Option.or_none]
  · rw [value?_of_ne ha, Option.or_none, Option.or_none]

/-- An adjustment counts for nothing if its part is adjusted again. -/
theorem ofAdjustments_overrule {a b : Adjustment} (h : a.part = b.part)
    (before between after : List Adjustment) :
    ofAdjustments (before ++ a :: between ++ b :: after) =
      ofAdjustments (before ++ between ++ b :: after) := by
  refine ofAdjustments_congr fun part => ?_
  simp only [last?_append, last?_cons]
  by_cases hb : b.part = part
  · -- what `b` gives comes before all that is given earlier
    subst hb
    rw [value?_part]
    cases last? after b.part <;> rfl
  · have ha : a.part ≠ part := fun ha => hb (h.symm.trans ha)
    rw [value?_of_ne ha, Option.or_none]

/-! ## Payloads -/

/-- The flag that a byte stands for, if it stands for one. -/
def flag? (b : UInt8) : Option Bool :=
  if b = 0 then some false else if b = 1 then some true else none

/-- The request that a payload stands for, if it stands for one. -/
def ofPayload? : List UInt8 → Option BatteryRequest
  | [start, stop, usb, battery, low, high, stopForce] => do
    return {
      startCharging := ← flag? start
      stopCharging := ← flag? stop
      usbScreenPower := ← flag? usb
      batteryScreenPower := ← flag? battery
      chargeVoltage := LittleEndian.word16 low high
      stopForceCharge := ← flag? stopForce }
  | _ => none

/-- The byte of a flag and no other stands for it. -/
theorem flag?_eq_some_iff {b : UInt8} {on : Bool} : flag? b = some on ↔ b = flag on := by
  unfold flag?
  split
  case isTrue h => cases on <;> simp [h, flag]
  case isFalse h =>
    split
    case isTrue h' => cases on <;> simp [h', flag]
    case isFalse h' => cases on <;> simp [h, h', flag]

/-- The payload of a request and no other stands for it. -/
theorem ofPayload?_eq_some_iff {bytes : List UInt8} {r : BatteryRequest} :
    ofPayload? bytes = some r ↔ bytes = r.payload := by
  constructor
  · intro h
    unfold ofPayload? at h
    split at h
    · simp only [Option.bind_eq_bind, Option.bind_eq_some_iff, Option.pure_def,
        flag?_eq_some_iff, Option.some.injEq] at h
      obtain ⟨start, rfl, stop, rfl, usb, rfl, battery, rfl, stopForce, rfl, rfl⟩ := h
      simp [payload]
    · cases h
  · rintro rfl
    have hflag (on : Bool) : flag? (flag on) = some on := flag?_eq_some_iff.mpr rfl
    simp [payload, ofPayload?, hflag]

/-- Requests with the same payload are the same. -/
theorem payload_inj {r r' : BatteryRequest} : r.payload = r'.payload ↔ r = r' := by
  constructor
  · intro h
    have hread : ofPayload? r.payload = some r' := ofPayload?_eq_some_iff.mpr h
    rw [ofPayload?_eq_some_iff.mpr rfl] at hread
    exact Option.some.inj hread
  · rintro rfl
    rfl

/-- Only the plain request has a payload of zeros. -/
theorem payload_zeros_iff {r : BatteryRequest} : (∀ b ∈ r.payload, b = 0) ↔ r = plain := by
  have hzeros : plain.payload = List.replicate 7 0 := rfl
  rw [← payload_inj, hzeros, List.eq_replicate_iff]
  exact (and_iff_right rfl).symm

end BatteryRequest

/-! ## Packets -/

/-- An action on a device sends a packet: it makes one call to the transport held, which is to
exchange the packet, and no other. -/
def Device.Sends {κ ω τ : Type} (T : Transport κ ω τ) (action : Device.Action τ)
    (s : ω × Device τ) (packet : Packet) : Prop :=
  calls (action.perform T.overheard s).trace = [(s.2.transport, .exchange packet)]

namespace BatteryRequest

/-- Building requests and sending them.

Whatever the adjustments, each part of the request has the last value that it was given, or else
false or zero; so adjustments of different parts can be made in either order, and one counts for
nothing if its part is adjusted again. A payload has seven bytes, the flags as zero or one and the
voltage with its low byte first, from which the request is read back; so requests with the same
payload are the same, and only the request without adjustments has a payload of zeros. A request
that asks for the raw answer with six values, one that asks for the status after adjustments that
leave these values, and the first one that the command line asks for with these values are sent in
the same packet, which fits a report. -/
theorem building_law {κ ω τ : Type} (T : Transport κ ω τ) (s : ω × Device τ) :
    (∀ adjustments, ofAdjustments adjustments =
      { startCharging := (Adjustment.last? adjustments .startCharging).getD false
        stopCharging := (Adjustment.last? adjustments .stopCharging).getD false
        usbScreenPower := (Adjustment.last? adjustments .usbScreenPower).getD false
        batteryScreenPower := (Adjustment.last? adjustments .batteryScreenPower).getD false
        chargeVoltage := (Adjustment.last? adjustments .chargeVoltage).getD 0
        stopForceCharge := (Adjustment.last? adjustments .stopForceCharge).getD false }) ∧
    (∀ (a b : Adjustment) before after, a.part ≠ b.part →
      ofAdjustments (before ++ a :: b :: after) = ofAdjustments (before ++ b :: a :: after)) ∧
    (∀ (a b : Adjustment) before between after, a.part = b.part →
      ofAdjustments (before ++ a :: between ++ b :: after) =
        ofAdjustments (before ++ between ++ b :: after)) ∧
    (∀ r : BatteryRequest, r.payload.length = 7 ∧
      r.payload.map UInt8.toNat =
        [r.startCharging.toNat, r.stopCharging.toNat, r.usbScreenPower.toNat,
          r.batteryScreenPower.toNat, r.chargeVoltage.toNat % 256, r.chargeVoltage.toNat / 256,
          r.stopForceCharge.toNat]) ∧
    (∀ bytes r, ofPayload? bytes = some r ↔ bytes = r.payload) ∧
    (∀ r r' : BatteryRequest, r.payload = r'.payload ↔ r = r') ∧
    (∀ r : BatteryRequest, (∀ b ∈ r.payload, b = 0) ↔ r = ofAdjustments []) ∧
    (∀ r : BatteryRequest,
      r.packet.command = 0x800C ∧ r.packet.payload = r.payload ∧ Report.Fits r.packet ∧
      Device.Sends T (.queryBattery r.startCharging r.stopCharging r.usbScreenPower
        r.batteryScreenPower r.chargeVoltage r.stopForceCharge) s r.packet ∧
      (∀ adjustments,
        (∀ part, (Adjustment.last? adjustments part).getD (plain.get part) = r.get part) →
        Device.Sends T (.readBattery (ofAdjustments adjustments)) s r.packet) ∧
      (∀ (options : CommandLine.Options) (interval : Duration),
        options.startCharging = r.startCharging ∧ options.stopCharging = r.stopCharging ∧
          options.usbScreenPower = r.usbScreenPower ∧
          options.batteryScreenPower = r.batteryScreenPower ∧
          options.chargeVoltage = r.chargeVoltage ∧
          options.stopForceCharge = r.stopForceCharge →
        options.firstRequest = r ∧
          Device.Sends T (.readBattery options.firstRequest) s r.packet ∧
          Device.Sends T (.readBattery ((Program.plan options interval).request .start)) s
            r.packet)) := by
  refine ⟨ofAdjustments_eq, ?_, ?_, fun r => ⟨rfl, r.payload_eq⟩,
    fun _ _ => ofPayload?_eq_some_iff, fun _ _ => payload_inj, fun _ => payload_zeros_iff, ?_⟩
  · intro a b before after h
    exact ofAdjustments_swap h before after
  · intro a b before between after h
    exact ofAdjustments_overrule h before between after
  · intro r
    refine ⟨rfl, rfl, r.fits_packet, (Device.passes_queryBattery T s r).called, ?_, ?_⟩
    · intro adjustments hlast
      have hsame : ofAdjustments adjustments = r := by
        refine eq_of_get_eq fun part => ?_
        rw [ofAdjustments, get_foldl_adjust, hlast]
      rw [hsame]
      exact (Device.passes_readBattery T s r).called
    · rintro options interval ⟨hstart, hstop, husb, hbattery, hvoltage, hforce⟩
      have hsame : options.firstRequest = r := by
        rw [options.firstRequest_eq, hstart, hstop, husb, hbattery, hvoltage, hforce]
      have hplanned : (Program.plan options interval).request .start = r := hsame
      have hsends : Device.Sends T (.readBattery r) s r.packet :=
        (Device.passes_readBattery T s r).called
      rw [hplanned, hsame]
      exact ⟨rfl, hsends, hsends⟩

/-- The voltage that was given last is sent. -/
theorem sends_last_voltage :
    Device.Sends Script.transport
      (.readBattery (ofAdjustments
        [.chargeVoltage 1, .startCharging true, .chargeVoltage 0x0E74, .stopForceCharge false]))
      ((), .stock ⟨"bench", [], []⟩) ⟨0x800C, 7, [1, 0, 0, 0, 0x74, 0x0E, 0], by decide⟩ :=
  ((building_law Script.transport ((), .stock ⟨"bench", [], []⟩)).2.2.2.2.2.2.2
    ⟨true, false, false, false, 0x0E74, false⟩).2.2.2.2.1 _ fun part => by cases part <;> rfl

end BatteryRequest

end BatteryWatch
