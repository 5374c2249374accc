import BatteryWatch.Device
import BatteryWatch.Proofs.WireFormat
import Mathlib.Data.List.TakeWhile

/-!
# Texts in data regions

What comes back of a text that is stored in the data region of a frame (`Latin1.stored`), and what
bytes come back of a data region that was read as a text. Both ways go through the characters and
bytes one by one (`Latin1.decodeByte_encodeChar`, `Latin1.encodeChar_decodeByte`) and through the
first zero, which is a zero byte exactly where it is a zero character
(`Latin1.encodeChar_eq_zero_iff`). `Latin1.storing_law` says so of frames and of packets, whose
payloads may be cut off before the text ends.
-/

namespace BatteryWatch

namespace Latin1

/-- What remains of a text when it is stored: it ends before its first zero character, and a
question mark stands for every character above U+00FF. -/
def stored (text : String) : String :=
  String.ofList <|
    (text.toList.takeWhile (· != '\x00')).map fun c => if c.toNat ≤ 0xFF then c else '?'

/-! ## Characters and bytes -/

/-- The byte of a character is read as the character, or as a question mark if the character has no
byte of its own. -/
theorem decodeByte_encodeChar (c : Char) :
    decodeByte (encodeChar c) = if c.toNat ≤ 0xFF then c else '?' := by
  unfold decodeByte encodeChar
  by_cases hbyte : c.toNat < 256
  · have hsmall : c.toNat ≤ 0xFF := Nat.le_of_lt_succ hbyte
    rw [if_pos hbyte, if_pos hsmall, UInt8.toNat_ofNat', Nat.mod_eq_of_lt hbyte, Char.ofNat_toNat]
  · have hlarge : ¬c.toNat ≤ 0xFF := fun hsmall => hbyte (Nat.lt_succ_of_le hsmall)
    rw [if_neg hbyte, if_neg hlarge]
    rfl

/-- A byte is written again as it was read. -/
theorem encodeChar_decodeByte (b : UInt8) : encodeChar (decodeByte b) = b := by
  have hbyte : b.toNat < 256 := b.toNat_lt
  have hchar : (decodeByte b).toNat = b.toNat := by
    have hvalid : b.toNat.isValidChar := .inl (by omega)
    rw [decodeByte, Char.ofNat, dif_pos hvalid]
    rfl
  rw [encodeChar, hchar, if_pos hbyte, UInt8.ofNat_toNat]

/-- The zero character and no other is written as the byte that ends a text. -/
theorem encodeChar_eq_zero_iff {c : Char} : encodeChar c = 0 ↔ c = '\x00' := by
  constructor
  · intro hzero
    have hread := decodeByte_encodeChar c
    rw [hzero] at hread
    split at hread
    · exact hread.symm
    · -- the replacement is not the zero character
      exact absurd hread (by decide)
  · rintro rfl
    rfl

/-! ## Texts and data regions -/

/-- The characters of a text that is read. -/
theorem toList_decode (bytes : List UInt8) :
    (decode bytes).toList = (bytes.takeWhile (· != 0)).map decodeByte :=
  String.toList_ofList

/-- The bytes of some characters up to the first zero are those of the characters up to the first
zero. -/
theorem takeWhile_map_encodeChar (cs : List Char) :
    (cs.map encodeChar).takeWhile (· != 0) = (cs.takeWhile (· != '\x00')).map encodeChar := by
  have hzero (c : Char) : (encodeChar c != 0) = (c != '\x00') := by
    rw [Bool.eq_iff_iff, bne_iff_ne, bne_iff_ne, ne_eq, encodeChar_eq_zero_iff]
  rw [List.takeWhile_map]
  exact congrArg _ (congrArg (List.takeWhile · cs) (funext hzero))

/-- The bytes of a text up to the first zero end with the text, whatever follows. -/
theorem takeWhile_encode_append (text : String) (junk : List UInt8) :
    (encode text ++ junk).takeWhile (· != 0) =
      (text.toList.takeWhile (· != '\x00')).map encodeChar := by
  rw [encode, List.append_assoc, List.takeWhile_append, takeWhile_map_encodeChar]
  split
  · -- no zero within the text: the one that ends it is the first
    rename_i hwhole
    rw [List.length_map, List.length_map] at hwhole
    rw [(List.takeWhile_prefix _).eq_of_length hwhole]
    simp
  · rfl

/-- What is read of a text, whatever follows it. -/
theorem decode_encode_append (text : String) (junk : List UInt8) :
    decode (encode text ++ junk) = stored text := by
  rw [decode, takeWhile_encode_append, List.map_map]
  exact congrArg String.ofList (List.map_congr_left fun c _ => decodeByte_encodeChar c)

/-- What is written of a text that was read are the bytes before the first zero, and a zero. -/
theorem encode_decode (bytes : List UInt8) :
    encode (decode bytes) = bytes.takeWhile (· != 0) ++ [0] := by
  rw [encode, toList_decode, List.map_map]
  exact congrArg (· ++ [0]) (List.map_id'' encodeChar_decodeByte _)

/-- Bytes that are cut off are read as a text that is cut off. -/
theorem decode_take (n : Nat) (bytes : List UInt8) :
    decode (bytes.take n) = String.ofList ((decode bytes).toList.take n) := by
  rw [decode, ← List.take_takeWhile, List.map_take, toList_decode]

/-- A text is read as it was written exactly if it has no zero character and only characters that
have a byte. -/
theorem stored_eq_self_iff {text : String} :
    stored text = text ↔ ∀ c ∈ text.toList, c ≠ '\x00' ∧ c.toNat ≤ 0xFF := by
  rw [← String.toList_inj, stored, String.toList_ofList]
  induction text.toList with
  | nil => simp
  | cons c cs ih =>
    rw [List.forall_mem_cons, ← ih, List.takeWhile_cons]
    by_cases hzero : c = '\x00'
    · simp [hzero]
    · by_cases hbyte : c.toNat ≤ 0xFF
      · simp [hzero, hbyte]
      · have hreplaced : '?' ≠ c := by
          rintro rfl
          exact hbyte (by decide)
        simp [hzero, hbyte, hreplaced]

end Latin1

namespace Packet

/-- The text of a packet is what is read of its payload. -/
theorem text_eq_decode (p : Packet) : p.text = Latin1.decode p.payload := rfl

/-- The text of a packet whose payload may be cut off is what is read of the payload, cut off
alike. -/
theorem text_truncating (command : UInt16) (payload : List UInt8) :
    (truncating command (some payload)).value.text =
      String.ofList ((Latin1.decode payload).toList.take 65535) := by
  rw [text_eq_decode, (truncating_value command (some payload)).2]
  exact Latin1.decode_take 65535 payload

end Packet

namespace Latin1

/-- Storing texts and reading them, in both directions and through packets.

Of a text that is stored behind any four bytes and before any others, the part before its first zero
character is read, with a question mark for every character above U+00FF; that is the text itself
exactly if it has no zero character and no character above U+00FF. Of a frame that is read as a
text, the data region up to its first zero byte is written again, and a zero byte. Of a text that
is sent in a packet as much of the same part is read as the packet can hold, whether or not there is
room for the zero byte that ends it. -/
theorem storing_law :
    (∀ (text : String) (b₀ b₁ b₂ b₃ : UInt8) (junk : List UInt8),
      frameText ([b₀, b₁, b₂, b₃] ++ encode text ++ junk) = stored text) ∧
    (∀ (text : String) (b₀ b₁ b₂ b₃ : UInt8) (junk : List UInt8),
      frameText ([b₀, b₁, b₂, b₃] ++ encode text ++ junk) = text ↔
        ∀ c ∈ text.toList, c ≠ '\x00' ∧ c.toNat ≤ 0xFF) ∧
    (∀ frame : List UInt8,
      encode (frameText frame) = (frame.drop 4).takeWhile (· != 0) ++ [0]) ∧
    (∀ (command : UInt16) (text : String),
      (Packet.truncating command (some (encode text))).value.text =
        String.ofList ((stored text).toList.take (min 65535 (stored text).length))) := by
  have hstored (text : String) (b₀ b₁ b₂ b₃ : UInt8) (junk : List UInt8) :
      frameText ([b₀, b₁, b₂, b₃] ++ encode text ++ junk) = stored text :=
    decode_encode_append text junk
  refine ⟨hstored, ?_, ?_, ?_⟩
  · intro text b₀ b₁ b₂ b₃ junk
    rw [hstored]
    exact stored_eq_self_iff
  · intro frame
    exact encode_decode (frame.drop 4)
  · intro command text
    have hread : decode (encode text) = stored text := by
      rw [← decode_encode_append text [], List.append_nil]
    rw [Packet.text_truncating, hread, List.take_eq_take_min, String.length_toList]

end Latin1

end BatteryWatch
