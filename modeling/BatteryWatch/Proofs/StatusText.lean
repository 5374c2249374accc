import BatteryWatch.Message
import BatteryWatch.Proofs.StatusLine
import Mathlib

/-!
# Status lines that differ

A status for people is a list of labelled words (`BatteryStatus.display_eq`). A word has no comma in
it, so that the words are known from the list (`Text.eq_of_listed_eq`), and a list of words has no
bracket in it, so that the last closing bracket of a line ends the time, whatever the time is
(`Text.eq_of_last_append_eq`). Lines therefore differ whenever what they say differs
(`BatteryStatus.line_eq_line_iff`).
-/

namespace BatteryWatch

namespace Text

/-! ## Delimiters -/

variable {α : Type} {c : α} {before before' after after' : List α}

/-- What stands before the first and after it is known from the whole. -/
theorem eq_of_first_append_eq (h : before ++ c :: after = before' ++ c :: after')
    (hbefore : c ∉ before) (hbefore' : c ∉ before') : before = before' ∧ after = after' := by
  induction before generalizing before' with
  | nil =>
    cases before' with
    | nil => exact ⟨rfl, (List.cons.inj h).2⟩
    | cons x before' =>
      have hfirst : c = x := (List.cons.inj h).1
      exact absurd (hfirst ▸ List.mem_cons_self) hbefore'
  | cons x before ih =>
    cases before' with
    | nil =>
      have hfirst : x = c := (List.cons.inj h).1
      exact absurd (hfirst ▸ List.mem_cons_self) hbefore
    | cons y before' =>
      obtain ⟨hfirst, hrest⟩ := List.cons.inj h
      obtain ⟨hsame, hafter⟩ := ih hrest (fun hmem => hbefore (List.mem_cons_of_mem _ hmem))
        (fun hmem => hbefore' (List.mem_cons_of_mem _ hmem))
      exact ⟨by rw [hfirst, hsame], hafter⟩

/-- What stands before the last and after it is known from the whole. -/
theorem eq_of_last_append_eq (h : before ++ c :: after = before' ++ c :: after')
    (hafter : c ∉ after) (hafter' : c ∉ after') : before = before' ∧ after = after' := by
  have hreverse :
      after.reverse ++ c :: before.reverse = after'.reverse ++ c :: before'.reverse := by
    have hreversed := congrArg List.reverse h
    simpa using hreversed
  obtain ⟨hafter, hbefore⟩ := eq_of_first_append_eq hreverse
    (by rwa [List.mem_reverse]) (by rwa [List.mem_reverse])
  exact ⟨List.reverse_inj.mp hbefore, List.reverse_inj.mp hafter⟩

/-! ## Words -/

/-- A text of letters, digits and minus signs. -/
def IsWord (text : String) : Prop := ∀ c ∈ text.toList, c.isAlphanum ∨ c = '-'

instance (text : String) : Decidable (IsWord text) :=
  List.decidableBAll (fun c : Char => c.isAlphanum ∨ c = '-') text.toList

/-- Digits are a word. -/
theorem isWord_nat (n : Nat) : IsWord (toString n) := by
  intro c hc
  have hdigits : (toString n).toList = Nat.toDigits 10 n := Nat.toList_repr
  rw [hdigits] at hc
  have hdigit := Decimal.isDigit_of_mem_toDigits hc
  exact .inl (by simp [Char.isAlphanum, hdigit])

/-- Digits with a sign are a word. -/
theorem isWord_int (n : Int) : IsWord (toString n) := by
  cases n with
  | ofNat n => exact isWord_nat n
  | negSucc n =>
    intro c hc
    rw [Decimal.toList_toString_negSucc, List.mem_cons] at hc
    rcases hc with rfl | hc
    · exact .inr rfl
    · have hdigit := Decimal.isDigit_of_mem_toDigits hc
      exact .inl (by simp [Char.isAlphanum, hdigit])

/-- A truth value is a word. -/
theorem isWord_bool (b : Bool) : IsWord (toString b) := by
  cases b <;> decide

/-! ## Lists of labelled words -/

/-- A word after its label. -/
def labelled (field : String × String) : String := field.1 ++ ": " ++ field.2

/-- Labelled words one after the other. -/
def listed (fields : List (String × String)) : String := ", ".intercalate (fields.map labelled)

/-- A list of one labelled word is that word. -/
theorem listed_singleton (field : String × String) :
    listed [field] = field.1 ++ ": " ++ field.2 := String.intercalate_singleton

/-- A list of more than one labelled word is the first and then the others. -/
theorem listed_cons_cons (field next : String × String) (fields : List (String × String)) :
    listed (field :: next :: fields) =
      field.1 ++ ": " ++ field.2 ++ ", " ++ listed (next :: fields) :=
  String.intercalate_cons_cons

/-- The words of a list are known from the list if the labels are. -/
theorem eq_of_listed_eq {fields fields' : List (String × String)}
    (hlabels : fields.map (·.1) = fields'.map (·.1)) (hwords : ∀ field ∈ fields, IsWord field.2)
    (hwords' : ∀ field ∈ fields', IsWord field.2) (h : listed fields = listed fields') :
    fields = fields' := by
  have hcomma {word : String} (hword : IsWord word) : ',' ∉ word.toList := by
    intro hmem
    exact absurd (hword _ hmem) (by decide)
  induction fields generalizing fields' with
  | nil =>
    cases fields' with
    | nil => rfl
    | cons _ _ => cases hlabels
  | cons field fields ih =>
    cases fields' with
    | nil => cases hlabels
    | cons field' fields' =>
      obtain ⟨label, word⟩ := field
      obtain ⟨label', word'⟩ := field'
      obtain ⟨hlabel, hothers⟩ := List.cons.inj hlabels
      obtain rfl : label = label' := hlabel
      obtain ⟨hword, hwords⟩ := List.forall_mem_cons.mp hwords
      obtain ⟨hword', hwords'⟩ := List.forall_mem_cons.mp hwords'
      cases fields with
      | nil =>
        cases fields' with
        | cons _ _ => cases hothers
        | nil =>
          rw [listed_singleton, listed_singleton, String.append_right_inj] at h
          have hsame : word = word' := h
          rw [hsame]
      | cons next fields =>
        cases fields' with
        | nil => cases hothers
        | cons next' fields' =>
          rw [listed_cons_cons, listed_cons_cons, ← String.toList_inj] at h
          simp only [String.toList_append, List.append_assoc, List.append_cancel_left_eq] at h
          -- the first comma after the label ends the word
          obtain ⟨hsame, hrest⟩ := eq_of_first_append_eq h (hcomma hword) (hcomma hword')
          have hrest : listed (next :: fields) = listed (next' :: fields') :=
            String.toList_inj.mp (List.cons.inj hrest).2
          rw [String.toList_inj.mp hsame, ih hothers hwords hwords' hrest]

/-- A list of labelled words has no characters but those of the labels, of the words and of the
punctuation. -/
theorem notMem_listed {fields : List (String × String)} {c : Char} (hc : c ∉ [',', ':', ' '])
    (hfields : ∀ field ∈ fields, c ∉ field.1.toList ∧ c ∉ field.2.toList) :
    c ∉ (listed fields).toList := by
  have hcolon : c ∉ ": ".toList := fun hmem => hc (List.mem_cons_of_mem ',' hmem)
  have hcomma : c ∉ ", ".toList := by
    rintro hmem
    simp only [String.reduceToList, List.mem_cons, List.not_mem_nil, or_false] at hmem
    rcases hmem with rfl | rfl <;> simp at hc
  induction fields with
  | nil => exact List.not_mem_nil
  | cons field fields ih =>
    obtain ⟨⟨hlabel, hword⟩, hfields⟩ := List.forall_mem_cons.mp hfields
    cases fields with
    | nil =>
      rw [listed_singleton]
      simp only [String.toList_append, List.mem_append, not_or]
      exact ⟨⟨hlabel, hcolon⟩, hword⟩
    | cons next fields =>
      rw [listed_cons_cons]
      simp only [String.toList_append, List.mem_append, not_or]
      exact ⟨⟨⟨⟨hlabel, hcolon⟩, hword⟩, hcomma⟩, ih hfields⟩

end Text

open Text

namespace BatteryStatus

variable (s : BatteryStatus)

/-! ## Lines -/

/-- What a status says to people: each reading with its label, and of the charging platform only
whether it charges. -/
def sayings : List (String × String) :=
  [("power source", toString s.powerSource.toNat), ("charging", toString s.isCharging),
    ("main ADC", toString s.mainAdc.toNat), ("aux status", toString s.chargeStatus.toNat),
    ("aux voltage", toString s.batteryVoltage.toNat),
    ("aux current", toString s.chargeCurrent.toInt),
    ("stepdown", toString s.stepdownVoltage.toNat), ("DAC", toString s.dacRegister.toNat)]

/-- A status for people is the list of what it says. -/
theorem display_eq : s.display = listed s.sayings := by
  have hstring (text : String) : toString text = text := rfl
  unfold display sayings
  simp only [listed_cons_cons, listed_singleton, hstring]
  rw [← String.toList_inj]
  simp only [String.toList_append, String.reduceToList, List.append_assoc, List.cons_append,
    List.nil_append]

/-- What a status says is words. -/
theorem isWord_sayings : ∀ field ∈ s.sayings, IsWord field.2 := by
  simp only [sayings, List.forall_mem_cons, List.not_mem_nil, false_imp_iff, implies_true, and_true,
    isWord_nat, isWord_int, isWord_bool]

/-- What a status says has no closing bracket in it. -/
theorem bracket_notMem_display : ']' ∉ s.display.toList := by
  rw [display_eq]
  refine notMem_listed (by decide) ?_
  intro field hfield
  have hlabel : ∀ label ∈ s.sayings.map (·.1), ']' ∉ label.toList := by
    change ∀ label ∈ ["power source", "charging", "main ADC", "aux status", "aux voltage",
      "aux current", "stepdown", "DAC"], ']' ∉ label.toList
    decide
  refine ⟨hlabel _ (List.mem_map_of_mem hfield), ?_⟩
  intro hmem
  exact absurd (s.isWord_sayings field hfield _ hmem) (by decide)

/-- Statuses that say the same agree in every reading and in whether they charge. -/
theorem sayings_eq_sayings_iff (s₁ s₂ : BatteryStatus) :
    s₁.sayings = s₂.sayings ↔
      s₁.powerSource = s₂.powerSource ∧ s₁.isCharging = s₂.isCharging ∧
        s₁.mainAdc = s₂.mainAdc ∧ s₁.chargeStatus = s₂.chargeStatus ∧
        s₁.batteryVoltage = s₂.batteryVoltage ∧ s₁.chargeCurrent = s₂.chargeCurrent ∧
        s₁.stepdownVoltage = s₂.stepdownVoltage ∧ s₁.dacRegister = s₂.dacRegister := by
  have hnat {m n : Nat} : toString m = toString n ↔ m = n := Nat.repr_inj
  have hint {m n : Int} : toString m = toString n ↔ m = n := Int.repr_inj
  have hbool {a b : Bool} : toString a = toString b ↔ a = b := by
    cases a <;> cases b <;> decide
  simp only [sayings, List.cons.injEq, Prod.mk.injEq, true_and, and_true, hnat, hint, hbool,
    UInt32.toNat_inj, UInt16.toNat_inj, Int16.toInt_inj]

/-- Two lines for people are the same exactly if they are about the same time, both or neither say
that the device is charging, and they agree in the seven other readings; the time may be any text,
and of the platform's number nothing is said but whether it is zero. -/
theorem line_eq_line_iff (time₁ time₂ : String) (s₁ s₂ : BatteryStatus) :
    s₁.line time₁ false = s₂.line time₂ false ↔
      time₁ = time₂ ∧ s₁.isCharging = s₂.isCharging ∧ s₁.powerSource = s₂.powerSource ∧
        s₁.mainAdc = s₂.mainAdc ∧ s₁.chargeStatus = s₂.chargeStatus ∧
        s₁.batteryVoltage = s₂.batteryVoltage ∧ s₁.chargeCurrent = s₂.chargeCurrent ∧
        s₁.stepdownVoltage = s₂.stepdownVoltage ∧ s₁.dacRegister = s₂.dacRegister := by
  have hline (time : String) (s : BatteryStatus) :
      s.line time false = "[" ++ time ++ "] " ++ s.display := rfl
  constructor
  · intro h
    rw [hline, hline, ← String.toList_inj] at h
    simp only [String.toList_append, List.append_assoc, List.append_cancel_left_eq] at h
    -- the readings have no bracket, so that the last bracket is the one after the time
    have hbracket (s : BatteryStatus) : ']' ∉ ' ' :: s.display.toList := by
      simp [s.bracket_notMem_display]
    obtain ⟨htime, hrest⟩ := eq_of_last_append_eq h (hbracket s₁) (hbracket s₂)
    have hdisplay : listed s₁.sayings = listed s₂.sayings := by
      rw [← display_eq, ← display_eq]
      exact String.toList_inj.mp (List.cons.inj hrest).2
    have hsayings : s₁.sayings = s₂.sayings :=
      eq_of_listed_eq rfl s₁.isWord_sayings s₂.isWord_sayings hdisplay
    obtain ⟨hsource, hcharging, hothers⟩ := (sayings_eq_sayings_iff s₁ s₂).mp hsayings
    exact ⟨String.toList_inj.mp htime, hcharging, hsource, hothers⟩
  · rintro ⟨rfl, hcharging, hsource, hothers⟩
    have hsayings : s₁.sayings = s₂.sayings :=
      (sayings_eq_sayings_iff s₁ s₂).mpr ⟨hsource, hcharging, hothers⟩
    rw [hline, hline, display_eq, display_eq, hsayings]

end BatteryStatus

end BatteryWatch
