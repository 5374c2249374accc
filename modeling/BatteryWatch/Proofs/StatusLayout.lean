import BatteryWatch.Proofs.Watching.Poll

/-!
# The layout of a battery status

A battery status and its packed bytes determine each other: a status is read back from its bytes,
whatever follows them (`BatteryStatus.ofBytes_bytes_append`), and a status that was read is packed
into exactly the bytes it was read from (`BatteryStatus.bytes_of_ofBytes`). The packed bytes are
those of the eight readings as integers, signed or not (`LittleEndian.octets`);
`BatteryStatus.layout_law` is the law of the layout.
-/

namespace BatteryWatch

/-! ## Integers as bytes -/

namespace LittleEndian

/-- The lowest bytes of an integer, the lowest first; a negative one is in two's complement. -/
def octets : Nat → Int → List UInt8
  | 0, _ => []
  | width + 1, n => UInt8.ofNat (n % 256).toNat :: octets width (n / 256)

/-- Two bytes of an integer are those of the word with its value up to multiples of 65536. -/
theorem octets_two {n : Int} {w : UInt16} (h : n % 65536 = w.toNat) : octets 2 n = bytes16 w := by
  have hlow : (n % 256).toNat = w.toNat % 256 := by omega
  have hhigh : (n / 256 % 256).toNat = w.toNat / 256 := by omega
  simp only [octets, hlow, hhigh]
  rfl

/-- The two bytes of a word without sign. -/
theorem octets_toNat_uInt16 (w : UInt16) : octets 2 w.toNat = bytes16 w := by
  have hw := w.toNat_lt
  exact octets_two (by omega)

/-- The two bytes of a word with sign. -/
theorem octets_toInt (i : Int16) : octets 2 i.toInt = bytes16 i.toUInt16 := by
  have hi := i.toUInt16.toNat_lt
  have hsign : i.toInt = if 2 * i.toUInt16.toNat < 65536 then (i.toUInt16.toNat : Int)
      else i.toUInt16.toNat - 65536 := i.toBitVec.toInt_eq_toNat_cond
  refine octets_two ?_
  rw [hsign]
  split <;> omega

/-- The four bytes of a double word without sign. -/
theorem octets_toNat_uInt32 (w : UInt32) : octets 4 w.toNat = bytes32 w := by
  have hw := w.toNat_lt
  have hsplit : octets 4 w.toNat = octets 2 w.toNat ++ octets 2 (w.toNat / 65536 : Nat) := by
    have hthird : (w.toNat / 256 / 256 % 256 : Int) = (w.toNat / 65536 : Nat) % 256 := by omega
    have hfourth : (w.toNat / 256 / 256 / 256 % 256 : Int) =
        (w.toNat / 65536 : Nat) / 256 % 256 := by omega
    simp only [octets, hthird, hfourth, List.cons_append, List.nil_append]
  have hlow : octets 2 w.toNat = bytes16 (UInt16.ofNat (w.toNat % 65536)) := by
    refine octets_two ?_
    rw [UInt16.toNat_ofNat']
    omega
  have hhigh : octets 2 (w.toNat / 65536 : Nat) = bytes16 (UInt16.ofNat (w.toNat / 65536)) := by
    refine octets_two ?_
    rw [UInt16.toNat_ofNat']
    omega
  rw [hsplit, hlow, hhigh, bytes32]

end LittleEndian

/-! ## Packed readings -/

namespace BatteryStatus

/-- A packed status has twenty bytes. -/
@[simp] theorem length_bytes (s : BatteryStatus) : s.bytes.length = 20 := rfl

/-- A status is read back from its bytes, whatever follows them. -/
theorem ofBytes_bytes_append (s : BatteryStatus) (tail : List UInt8) :
    ofBytes (s.bytes ++ tail) = .ok s := by
  simp [bytes, LittleEndian.bytes32, LittleEndian.bytes16, ofBytes, LittleEndian.word32_bytes32]

/-- The bytes of a status that was read are those it was read from. -/
theorem bytes_of_ofBytes {payload : List UInt8} {s : BatteryStatus} (h : ofBytes payload = .ok s) :
    payload.take 20 = s.bytes := by
  unfold ofBytes at h
  split at h
  · obtain rfl := Except.ok.inj h
    simp [bytes]
  · cases h

/-- Only a payload that is too short cannot be read. -/
theorem ofBytes_eq_error_iff {payload : List UInt8} {e : MessageError} :
    ofBytes payload = .error e ↔ payload.length < 20 ∧ e = .tooShort 20 payload.length := by
  have hread := exists_ofBytes_iff payload
  constructor
  · intro h
    refine ⟨?_, ?_⟩
    · rw [← Nat.not_le, ← hread, h]
      rintro ⟨s, hs⟩
      cases hs
    · unfold ofBytes at h
      split at h
      · cases h
      · exact (Except.error.inj h).symm
  · rintro ⟨hshort, rfl⟩
    unfold ofBytes
    split
    · simp only [List.length_cons] at hshort
      omega
    · rfl

/-- Nothing but the first twenty bytes of a payload matters. -/
theorem ofBytes_take_append {payload : List UInt8} (h : 20 ≤ payload.length) (tail : List UInt8) :
    ofBytes (payload.take 20 ++ tail) = ofBytes payload := by
  obtain ⟨s, hs⟩ := (exists_ofBytes_iff payload).mpr h
  rw [bytes_of_ofBytes hs, ofBytes_bytes_append, hs]

/-- The packed bytes of a status are those of its readings, four of each of the first two and two
of each of the others. -/
theorem bytes_eq_octets (s : BatteryStatus) :
    s.bytes = LittleEndian.octets 4 s.powerSource.toNat ++
      LittleEndian.octets 4 s.platformCharging.toNat ++ LittleEndian.octets 2 s.mainAdc.toNat ++
      LittleEndian.octets 2 s.chargeStatus.toNat ++ LittleEndian.octets 2 s.batteryVoltage.toNat ++
      LittleEndian.octets 2 s.chargeCurrent.toInt ++
      LittleEndian.octets 2 s.stepdownVoltage.toNat ++
      LittleEndian.octets 2 s.dacRegister.toNat := by
  simp only [LittleEndian.octets_toNat_uInt32, LittleEndian.octets_toNat_uInt16,
    LittleEndian.octets_toInt]
  rfl

/-- The layout of a battery status, in both directions.

A status is packed into the bytes of its eight readings, one after the other, low bytes first and
the current in two's complement. A payload is read as a status exactly if it has twenty bytes, and
otherwise it is said how many it has. The status that is read is packed into the first twenty bytes
of the payload; the bytes after them do not matter. Every status is read back from its packed
bytes, whatever follows them. -/
theorem layout_law :
    (∀ s : BatteryStatus,
      s.bytes = LittleEndian.octets 4 s.powerSource.toNat ++
        LittleEndian.octets 4 s.platformCharging.toNat ++
        LittleEndian.octets 2 s.mainAdc.toNat ++ LittleEndian.octets 2 s.chargeStatus.toNat ++
        LittleEndian.octets 2 s.batteryVoltage.toNat ++
        LittleEndian.octets 2 s.chargeCurrent.toInt ++
        LittleEndian.octets 2 s.stepdownVoltage.toNat ++
        LittleEndian.octets 2 s.dacRegister.toNat) ∧
    (∀ payload, (∃ s, ofBytes payload = .ok s) ↔ 20 ≤ payload.length) ∧
    (∀ payload e, ofBytes payload = .error e ↔
      payload.length < 20 ∧ e = .tooShort 20 payload.length) ∧
    (∀ payload s, ofBytes payload = .ok s → s.bytes = payload.take 20) ∧
    (∀ payload tail, 20 ≤ payload.length →
      ofBytes (payload.take 20 ++ tail) = ofBytes payload) ∧
    (∀ (s : BatteryStatus) tail, ofBytes (s.bytes ++ tail) = .ok s) := by
  refine ⟨bytes_eq_octets, exists_ofBytes_iff, fun _ _ => ofBytes_eq_error_iff, ?_, ?_,
    ofBytes_bytes_append⟩
  · intro payload s h
    exact (bytes_of_ofBytes h).symm
  · intro payload tail h
    exact ofBytes_take_append h tail

/-- A negative current is read from the two bytes that it is packed into again. -/
theorem bytes_of_negative_current :
    ofBytes [1, 0, 0, 0, 0, 0, 0, 0, 0x86, 0x0B, 0, 0, 0x74, 0x0E, 0x06, 0xFF, 0xE4, 0x0C, 7, 0,
        0xAA] = .ok ⟨1, 0, 2950, 0, 3700, -250, 3300, 7⟩ ∧
      (⟨1, 0, 2950, 0, 3700, -250, 3300, 7⟩ : BatteryStatus).bytes =
        [1, 0, 0, 0, 0, 0, 0, 0, 0x86, 0x0B, 0, 0, 0x74, 0x0E, 0x06, 0xFF, 0xE4, 0x0C, 7, 0] :=
  ⟨rfl, layout_law.2.2.2.1
    [1, 0, 0, 0, 0, 0, 0, 0, 0x86, 0x0B, 0, 0, 0x74, 0x0E, 0x06, 0xFF, 0xE4, 0x0C, 7, 0, 0xAA]
    _ rfl⟩

end BatteryStatus

end BatteryWatch
