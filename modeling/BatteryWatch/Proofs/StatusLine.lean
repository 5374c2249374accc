import BatteryWatch.Decimal
import BatteryWatch.Message

/-!
# Written numbers and lines

Numbers are written as decimal digits without a needless zero (`Decimal.eq_zero_of_head?_toDigits`),
with a minus in front of a negative one (`Decimal.toList_toString_negSucc`), and digits are read as
the number they stand for (`Decimal.natural?_of_isDigit`). What is printed of a status stays on its
line: neither the readings for people (`BatteryStatus.plain_display`) nor a JSON object, whatever
texts are in it (`Json.plain_object`), contain a control character.
-/

namespace BatteryWatch

/-! ## Decimal digits -/

namespace Decimal

/-- Digits are the characters of the numbers below ten. -/
theorem exists_digitChar_of_isDigit {c : Char} (h : c.isDigit) :
    ∃ d < 10, c = Nat.digitChar d := by
  obtain ⟨hlow, hhigh⟩ := Char.isDigit_iff_toNat.mp h
  have hlow : 48 ≤ c.toNat := hlow
  have hhigh : c.toNat ≤ 57 := hhigh
  refine ⟨c.toNat - 48, by omega, ?_⟩
  rw [← Char.toNat_inj, Nat.toNat_digitChar_of_lt_ten (by omega)]
  omega

/-! ### Written numbers -/

/-- A natural number is written in digits. -/
theorem isDigit_of_mem_toDigits {n : Nat} {c : Char} (hc : c ∈ Nat.toDigits 10 n) : c.isDigit :=
  Nat.isDigit_of_mem_toDigits (by decide) (by decide) hc

/-- Only the digits of zero begin with a zero. -/
theorem eq_zero_of_head?_toDigits (n : Nat) (h : (Nat.toDigits 10 n).head? = some '0') :
    n = 0 := by
  induction n using Nat.strongRecOn with
  | ind n ih =>
    by_cases hsmall : n < 10
    · rw [Nat.toDigits_of_lt_base hsmall, List.head?_cons, Option.some.injEq] at h
      exact Nat.digitChar_eq_zero.mp h
    · -- the first digit is that of a tenth
      rw [Nat.toDigits_of_base_le (by decide) (Nat.le_of_not_lt hsmall), List.head?_append,
        Option.or_of_isSome (List.isSome_head?.mpr Nat.toDigits_ne_nil)] at h
      have htenth := ih (n / 10) (by omega) h
      omega

/-- An integer that is not negative is written as its digits. -/
theorem toList_toString_ofNat (n : Nat) : (toString (Int.ofNat n)).toList = Nat.toDigits 10 n :=
  Nat.toList_repr

/-- A negative integer is written as a minus and digits. -/
theorem toList_toString_negSucc (n : Nat) :
    (toString (Int.negSucc n)).toList = '-' :: Nat.toDigits 10 (n + 1) := by
  change ("-" ++ (n + 1).repr).toList = _
  rw [String.toList_append, Nat.toList_repr]
  rfl

/-! ### Read numbers -/

/-- A natural number is read from digits. -/
theorem natural?_of_isDigit {digits : List Char} (hne : digits ≠ [])
    (hdigits : ∀ c ∈ digits, c.isDigit) :
    natural? 10 digits = some (Nat.ofDigitChars 10 digits 0) := by
  have hvalue : ∀ d < 10, digitValue? 10 (Nat.digitChar d) =
      some ((Nat.digitChar d).toNat - '0'.toNat) := by decide
  have hfold (start : Nat) :
      digits.foldlM (fun n c => (digitValue? 10 c).map (10 * n + ·)) start =
        some (Nat.ofDigitChars 10 digits start) := by
    clear hne
    induction digits generalizing start with
    | nil => rfl
    | cons c digits ih =>
      obtain ⟨hc, hrest⟩ := List.forall_mem_cons.mp hdigits
      obtain ⟨d, hd, rfl⟩ := exists_digitChar_of_isDigit hc
      rw [List.foldlM_cons, hvalue d hd, Nat.ofDigitChars_cons]
      exact ih hrest _
  rw [natural?, if_neg (by simpa using hne), hfold]

end Decimal

/-! ## Lines without control characters -/

namespace Text

/-- A text without control characters. -/
def Plain (text : String) : Prop := ∀ c ∈ text.toList, 0x20 ≤ c.toNat

instance (text : String) : Decidable (Plain text) :=
  List.decidableBAll (fun c : Char => 0x20 ≤ c.toNat) text.toList

/-- A text is plain exactly if its parts are. -/
theorem plain_append {first rest : String} : Plain (first ++ rest) ↔ Plain first ∧ Plain rest := by
  unfold Plain
  rw [String.toList_append, List.forall_mem_append]

/-- Plain texts put together with plain text between them are plain. -/
theorem plain_intercalate {separator : String} (hseparator : Plain separator) {texts : List String}
    (htexts : ∀ text ∈ texts, Plain text) : Plain (separator.intercalate texts) := by
  induction texts with
  | nil => exact (by decide : Plain "")
  | cons text texts ih =>
    obtain ⟨htext, htexts⟩ := List.forall_mem_cons.mp htexts
    cases texts with
    | nil => rwa [String.intercalate_singleton]
    | cons next texts =>
      rw [String.intercalate_cons_cons, plain_append, plain_append]
      exact ⟨⟨htext, hseparator⟩, ih htexts⟩

/-- Digits are plain. -/
theorem plain_nat (n : Nat) : Plain (toString n) := by
  intro c hc
  have hdigits : (toString n).toList = Nat.toDigits 10 n := Nat.toList_repr
  rw [hdigits] at hc
  have hdigit := Nat.isDigit_of_mem_toDigits (by decide) (by decide) hc
  simp only [Char.isDigit, Bool.and_eq_true, decide_eq_true_eq] at hdigit
  exact Nat.le_trans (by decide) (UInt32.le_iff_toNat_le.mp hdigit.1)

/-- Digits with a sign are plain. -/
theorem plain_int (n : Int) : Plain (toString n) := by
  cases n with
  | ofNat n => exact plain_nat n
  | negSucc n => exact plain_append.mpr ⟨by decide, plain_nat (n + 1)⟩

end Text

open Text

/-! ### JSON objects -/

namespace Json

/-- A character is written as plain text. -/
theorem plain_escapeChar (c : Char) : ∀ d ∈ escapeChar c, 0x20 ≤ d.toNat := by
  have hdigit : ∀ n < 16, 0x20 ≤ (Nat.digitChar n).toNat := by decide
  unfold escapeChar
  split
  case h_8 =>
    split
    next hcontrol =>
      have hhigh := hdigit (c.toNat / 16) (by omega)
      have hlow := hdigit (c.toNat % 16) (by omega)
      simp [controlEscape, hhigh, hlow]
    next hplain => simpa using hplain
  all_goals simp

/-- Every string is written as plain text. -/
theorem plain_string (s : String) : Plain (string s) := by
  have hquote : Plain "\"" := by decide
  refine plain_append.mpr ⟨plain_append.mpr ⟨hquote, ?_⟩, hquote⟩
  intro d hd
  rw [String.toList_ofList, List.mem_flatMap] at hd
  obtain ⟨c, -, hd⟩ := hd
  exact plain_escapeChar c d hd

/-- Every value is written as plain text. -/
theorem plain_render (v : Value) : Plain v.render := by
  cases v with
  | integer n => exact plain_int n
  | text s => exact plain_string s
  | naturals items =>
    refine plain_append.mpr ⟨plain_append.mpr ⟨by decide, ?_⟩, by decide⟩
    refine plain_intercalate (by decide) ?_
    intro text htext
    obtain ⟨n, -, rfl⟩ := List.mem_map.mp htext
    exact plain_nat n

/-- Every object is written as plain text. -/
theorem plain_object (fields : List (String × Value)) : Plain (object fields) := by
  refine plain_append.mpr ⟨plain_append.mpr ⟨by decide, ?_⟩, by decide⟩
  refine plain_intercalate (by decide) ?_
  intro text htext
  obtain ⟨field, -, rfl⟩ := List.mem_map.mp htext
  have hcolon : Plain ":" := by decide
  exact plain_append.mpr ⟨plain_append.mpr ⟨plain_string field.1, hcolon⟩, plain_render field.2⟩

end Json

/-! ### Status lines -/

namespace BatteryStatus

/-- The readings for people are plain text. -/
theorem plain_display (s : BatteryStatus) : Plain s.display := by
  unfold display
  simp only [plain_append, plain_nat, plain_int]
  cases s.isCharging <;> decide

/-- A plain text has no line break. -/
theorem newline_notMem_of_plain {text : String} (h : Plain text) : '\n' ∉ text.toList := by
  intro hmem
  exact absurd (h _ hmem) (by decide)

/-- The line of a status has no line break if the time has none. -/
theorem newline_notMem_line (s : BatteryStatus) (json : Bool) {time : String}
    (htime : '\n' ∉ time.toList) : '\n' ∉ (s.line time json).toList := by
  cases json with
  | true => exact newline_notMem_of_plain (Json.plain_object _)
  | false =>
    change '\n' ∉ ("[" ++ time ++ "] " ++ s.display).toList
    have hdisplay := newline_notMem_of_plain s.plain_display
    simp [htime, hdisplay]

end BatteryStatus

end BatteryWatch
