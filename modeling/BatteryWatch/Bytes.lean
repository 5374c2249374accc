/-!
# Bytes

Numbers as words, words as byte strings, bytes and words in hexadecimal, and text as bytes.
-/

namespace BatteryWatch

/-! ## Numbers as words

A number that has to go into a word is either converted, which fails if it is too large
(`Narrow.word?`, `Narrow.int32?`), or cast, which keeps its low bits (`UInt16.ofNat`). -/

namespace Narrow

/-- The word with the value of a number, if there is one. -/
def word? (n : Nat) : Option UInt16 := if n < 65536 then some (UInt16.ofNat n) else none

/-- The signed double word with the value of a number, if there is one. -/
def int32? (n : Nat) : Option Int32 := if n < 2147483648 then some (Int32.ofNat n) else none

/-- Casting changes no number that a word has room for. -/
theorem toNat_ofNat_of_le {n : Nat} (h : n ≤ 65535) : (UInt16.ofNat n).toNat = n :=
  UInt16.toNat_ofNat_of_lt' (Nat.lt_succ_of_le h)

/-- A number is converted to the word that has its value and to no other. -/
theorem word?_eq_some_iff {n : Nat} {w : UInt16} : word? n = some w ↔ w.toNat = n := by
  unfold word?
  constructor
  · intro h
    split at h
    case isTrue hn =>
      rw [← Option.some.inj h]
      exact toNat_ofNat_of_le (Nat.le_of_lt_succ hn)
    case isFalse => cases h
  · rintro rfl
    rw [if_pos w.toNat_lt, UInt16.ofNat_toNat]

/-- A number is not converted exactly if it is above the largest word. -/
theorem word?_eq_none_iff {n : Nat} : word? n = none ↔ 65535 < n := by
  unfold word?
  split
  case isTrue hn =>
    constructor
    · intro h
      cases h
    · intro h
      omega
  case isFalse hn =>
    have habove : 65535 < n := by omega
    exact ⟨fun _ => habove, fun _ => rfl⟩

/-- A number that is converted to a signed double word keeps its value, and one that is not is above
the largest of them. -/
theorem int32?_cases (n : Nat) :
    (∃ i, int32? n = some i ∧ i.toInt = n ∧ n ≤ 2147483647) ∨
      (int32? n = none ∧ 2147483647 < n) := by
  unfold int32?
  by_cases hn : n < 2147483648
  · rw [if_pos hn]
    exact .inl ⟨_, rfl, Int32.toInt_ofNat_of_lt hn, Nat.le_of_lt_succ hn⟩
  · rw [if_neg hn]
    exact .inr ⟨rfl, Nat.lt_of_succ_le (Nat.le_of_not_lt hn)⟩

end Narrow

/-! ## Little-endian words

Sixteen- and thirty-two-bit words as byte strings, low byte first. Every word is recovered from
its bytes (`word16_low_high`, `word32_bytes32`) and every byte string of the right length is the
bytes of its word (`bytes16_word16`, `bytes32_word32`). -/

namespace LittleEndian

/-- The low byte of a word. -/
def low (w : UInt16) : UInt8 := UInt8.ofNat (w.toNat % 256)

/-- The high byte of a word. -/
def high (w : UInt16) : UInt8 := UInt8.ofNat (w.toNat / 256)

/-- The two bytes of a word, low byte first. -/
def bytes16 (w : UInt16) : List UInt8 := [low w, high w]

/-- A buffer with a word written to its end, low byte first. -/
def put16 (buffer : List UInt8) (w : UInt16) : List UInt8 := buffer ++ [low w] ++ [high w]

/-- The word with the given low and high byte. -/
def word16 (lo hi : UInt8) : UInt16 := UInt16.ofNat (lo.toNat + 256 * hi.toNat)

/-- The four bytes of a double word, lowest byte first. -/
def bytes32 (w : UInt32) : List UInt8 :=
  bytes16 (UInt16.ofNat (w.toNat % 65536)) ++ bytes16 (UInt16.ofNat (w.toNat / 65536))

/-- The double word with the given bytes, lowest byte first. -/
def word32 (b₀ b₁ b₂ b₃ : UInt8) : UInt32 :=
  UInt32.ofNat ((word16 b₀ b₁).toNat + 65536 * (word16 b₂ b₃).toNat)

/-- The value of the low byte of a word. -/
theorem toNat_low (w : UInt16) : (low w).toNat = w.toNat % 256 := by
  rw [low, UInt8.toNat_ofNat']
  omega

/-- The value of the high byte of a word. -/
theorem toNat_high (w : UInt16) : (high w).toNat = w.toNat / 256 := by
  have hw := w.toNat_lt
  rw [high, UInt8.toNat_ofNat']
  omega

/-- A word is written as its two bytes. -/
theorem put16_eq (buffer : List UInt8) (w : UInt16) : put16 buffer w = buffer ++ bytes16 w :=
  List.append_assoc _ _ _

/-- The word of two bytes has the expected value. -/
theorem toNat_word16 (lo hi : UInt8) : (word16 lo hi).toNat = lo.toNat + 256 * hi.toNat := by
  have hlo := lo.toNat_lt
  have hhi := hi.toNat_lt
  simp only [word16, UInt16.toNat_ofNat']
  omega

/-- A word is recovered from its bytes. -/
@[simp] theorem word16_low_high (w : UInt16) : word16 (low w) (high w) = w := by
  apply UInt16.toNat_inj.mp
  rw [toNat_word16, toNat_low, toNat_high]
  exact Nat.mod_add_div w.toNat 256

/-- The low byte of a word of two bytes is the first of them. -/
@[simp] theorem low_word16 (lo hi : UInt8) : low (word16 lo hi) = lo := by
  apply UInt8.toNat_inj.mp
  have hlo := lo.toNat_lt
  rw [toNat_low, toNat_word16]
  omega

/-- The high byte of a word of two bytes is the second of them. -/
@[simp] theorem high_word16 (lo hi : UInt8) : high (word16 lo hi) = hi := by
  apply UInt8.toNat_inj.mp
  have hlo := lo.toNat_lt
  rw [toNat_high, toNat_word16]
  omega

/-- Two bytes are the bytes of their word. -/
@[simp] theorem bytes16_word16 (lo hi : UInt8) : bytes16 (word16 lo hi) = [lo, hi] := by
  simp [bytes16]

/-- A word has two bytes. -/
@[simp] theorem length_bytes16 (w : UInt16) : (bytes16 w).length = 2 := rfl

/-- A double word has four bytes. -/
@[simp] theorem length_bytes32 (w : UInt32) : (bytes32 w).length = 4 := rfl

/-- The double word of four bytes has the expected value. -/
theorem toNat_word32 (b₀ b₁ b₂ b₃ : UInt8) :
    (word32 b₀ b₁ b₂ b₃).toNat = (word16 b₀ b₁).toNat + 65536 * (word16 b₂ b₃).toNat := by
  have h₀ := (word16 b₀ b₁).toNat_lt
  have h₁ := (word16 b₂ b₃).toNat_lt
  simp only [word32, UInt32.toNat_ofNat']
  omega

/-- A double word is recovered from its bytes. -/
theorem word32_bytes32 (w : UInt32) :
    word32 (low (UInt16.ofNat (w.toNat % 65536))) (high (UInt16.ofNat (w.toNat % 65536)))
      (low (UInt16.ofNat (w.toNat / 65536))) (high (UInt16.ofNat (w.toNat / 65536))) = w := by
  apply UInt32.toNat_inj.mp
  have hw := w.toNat_lt
  simp only [toNat_word32, word16_low_high, UInt16.toNat_ofNat']
  omega

/-- Four bytes are the bytes of their double word. -/
@[simp] theorem bytes32_word32 (b₀ b₁ b₂ b₃ : UInt8) :
    bytes32 (word32 b₀ b₁ b₂ b₃) = [b₀, b₁, b₂, b₃] := by
  have h₀ := (word16 b₀ b₁).toNat_lt
  have h₁ := (word16 b₂ b₃).toNat_lt
  have hl : UInt16.ofNat ((word32 b₀ b₁ b₂ b₃).toNat % 65536) = word16 b₀ b₁ := by
    apply UInt16.toNat_inj.mp
    simp only [toNat_word32, UInt16.toNat_ofNat']
    omega
  have hh : UInt16.ofNat ((word32 b₀ b₁ b₂ b₃).toNat / 65536) = word16 b₂ b₃ := by
    apply UInt16.toNat_inj.mp
    simp only [toNat_word32, UInt16.toNat_ofNat']
    omega
  simp [bytes32, hl, hh]

end LittleEndian

/-! ## Hexadecimal text

How bytes and words are written in messages: two lower-case digits for a byte, `0x` and four
digits for a word, and a bracketed list for a byte string. -/

namespace Hex

/-- The lower-case hexadecimal digit of a number below sixteen. -/
def digit (n : Nat) : Char := Nat.digitChar n

/-- A byte as two lower-case digits. -/
def byte (b : UInt8) : String := String.ofList [digit (b.toNat / 16), digit (b.toNat % 16)]

/-- A word as `0x` and four lower-case digits. -/
def word (w : UInt16) : String :=
  "0x" ++ String.ofList [digit (w.toNat / 4096), digit (w.toNat / 256 % 16),
    digit (w.toNat / 16 % 16), digit (w.toNat % 16)]

/-- A byte string as its digits, without separators. -/
def digits (bytes : List UInt8) : String := String.join (bytes.map byte)

/-- Items between brackets, separated by a comma and a space. -/
def bracketed (items : List String) : String := "[" ++ ", ".intercalate items ++ "]"

/-- A byte string as a bracketed list of hexadecimal bytes. -/
def list (bytes : List UInt8) : String := bracketed (bytes.map byte)

/-- A byte string as a bracketed list of decimal numbers. -/
def decimalList (bytes : List UInt8) : String :=
  bracketed (bytes.map fun b => toString b.toNat)

end Hex

/-! ## Zero-terminated Latin-1 text

One byte per character: a character above U+00FF is written as a question mark, and a zero byte
ends the text. -/

namespace Latin1

/-- What stands for a character that has no byte of its own. -/
def replacement : UInt8 := 0x3F

/-- The byte of a character. -/
def encodeChar (c : Char) : UInt8 :=
  if c.toNat < 256 then UInt8.ofNat c.toNat else replacement

/-- The character of a byte. -/
def decodeByte (b : UInt8) : Char := Char.ofNat b.toNat

/-- The bytes of a text and the zero byte that ends it. -/
def encode (text : String) : List UInt8 := text.toList.map encodeChar ++ [0]

/-- The text before the first zero byte, or all of it when there is none. -/
def decode (bytes : List UInt8) : String :=
  String.ofList ((bytes.takeWhile (· != 0)).map decodeByte)

end Latin1

end BatteryWatch
