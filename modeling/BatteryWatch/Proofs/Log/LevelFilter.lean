import BatteryWatch.Log.Filter
import Mathlib.Data.List.TakeWhile

/-!
# Filters by level

A filter that is written as the name of a level looks at nothing but the level of a record: it lets
through those that are at least as grave (`Filter.ofText_of_levelName`). A blank text is the filter
of errors (`Filter.ofText_of_blank`).
-/

namespace BatteryWatch.Log

/-! ## The filter of a rank -/

/-- The filter that lets every record up to a rank through, wherever it comes from and whatever it
says. -/
def Filter.upTo (rank : Nat) : Filter := ⟨[⟨none, rank⟩], none⟩

/-- The filter of a rank looks at nothing but the level. -/
@[simp] theorem Filter.allows_upTo (rank : Nat) (r : Record) :
    (upTo rank).allows r = decide (r.level.rank ≤ rank) := by
  simp [allows, upTo, Directive.covers]

/-! ## Texts that are a single directive -/

/-- A text is one part if nowhere in it stands the mark between parts. -/
theorem splitAt_of_notMem {mark : Char} {text : List Char} (h : mark ∉ text) :
    splitAt mark text = [text] := by
  induction text with
  | nil => rfl
  | cons c rest ih =>
    obtain ⟨hne, hrest⟩ := not_or.mp (mt List.mem_cons.mpr h)
    simp [splitAt, ih hrest, Ne.symm hne]

/-- There is nothing to trim from a text without blanks. -/
theorem trimBlanks_of_notBlank {text : List Char} (h : ∀ c ∈ text, Text.isWhitespace c = false) :
    trimBlanks text = text := by
  have hdrop {part : List Char} (hpart : ∀ c ∈ part, Text.isWhitespace c = false) :
      part.dropWhile Text.isWhitespace = part := by
    cases part with
    | nil => rfl
    | cons c rest => simp [hpart c List.mem_cons_self]
  rw [trimBlanks, hdrop h, hdrop (by simpa using h), List.reverse_reverse]

/-- Nothing is left of a text of blanks. -/
theorem trimBlanks_of_blank {text : List Char} (h : ∀ c ∈ text, Text.isWhitespace c = true) :
    trimBlanks text = [] := by
  rw [trimBlanks, List.dropWhile_eq_nil_iff.mpr h]
  rfl

/-- A text without a slash or a comma is at most one directive. -/
theorem Filter.ofText_of_notMem {text : String} (hslash : '/' ∉ text.toList)
    (hcomma : ',' ∉ text.toList) :
    ofText text =
      let directives := ([trimBlanks text.toList].filter (!·.isEmpty)).map Directive.ofText
      (ofDirectives (directives.filterMap Except.toOption) none,
        (directives.filterMap faultOf).map warning) := by
  rw [ofText, splitAt_of_notMem hslash]
  simp [directiveTexts, splitAt_of_notMem hcomma]

/-- A blank text is the filter of errors. -/
theorem Filter.ofText_of_blank {text : String}
    (h : ∀ c ∈ text.toList, Text.isWhitespace c = true) :
    ofText text = (upTo Level.error.rank, []) := by
  have hmark {mark : Char} (hmark : Text.isWhitespace mark = false) : mark ∉ text.toList := by
    intro hmem
    rw [h mark hmem] at hmark
    cases hmark
  rw [ofText_of_notMem (hmark (by decide)) (hmark (by decide)), trimBlanks_of_blank h]
  rfl

/-! ## Names of levels -/

/-- The name of a level consists of letters. -/
theorem isLower_toLower_of_mem {name : String} {rank : Nat} (h : rankOfName? name = some rank)
    {c : Char} (hc : c ∈ name.toList) : c.toLower.isLower = true := by
  have hmem : c.toLower ∈ (name.map Char.toLower).toList := by
    rw [String.toList_map]
    exact List.mem_map_of_mem hc
  have hletters {word : String} (hword : name.map Char.toLower = word)
      (hall : word.toList.all Char.isLower = true) : c.toLower.isLower = true :=
    List.all_eq_true.mp hall _ (hword ▸ hmem)
  unfold rankOfName? at h
  split at h
  case h_1 hword => exact hletters hword (by decide)
  case h_2 hword => exact hletters hword (by decide)
  case h_3 hword => exact hletters hword (by decide)
  case h_4 hword => exact hletters hword (by decide)
  case h_5 hword => exact hletters hword (by decide)
  case h_6 hword => exact hletters hword (by decide)
  case h_7 => cases h

/-- A character that is a letter in lower case is no blank. -/
theorem isWhitespace_of_isLower_toLower {c : Char} (h : c.toLower.isLower = true) :
    Text.isWhitespace c = false := by
  have hcode : 65 ≤ c.toNat ∧ c.toNat ≤ 122 := by
    unfold Char.toLower at h
    split at h
    case isTrue hupper =>
      have hlow := UInt32.le_iff_toNat_le.mp hupper.1
      have hhigh := UInt32.le_iff_toNat_le.mp hupper.2
      exact ⟨hlow, Nat.le_trans hhigh (by decide)⟩
    case isFalse =>
      obtain ⟨hlow, hhigh⟩ := Bool.and_eq_true_iff.mp h
      have hlow := UInt32.le_iff_toNat_le.mp (of_decide_eq_true hlow)
      have hhigh := UInt32.le_iff_toNat_le.mp (of_decide_eq_true hhigh)
      exact ⟨Nat.le_trans (by decide) hlow, hhigh⟩
  simp [Text.isWhitespace, Text.whitespace, Text.CodeRanges.contains]
  omega

/-- The name of a level is the filter of its rank, and there is nothing to warn about. -/
theorem Filter.ofText_of_levelName {name : String} {rank : Nat}
    (h : rankOfName? name = some rank) : ofText name = (upTo rank, []) := by
  have hmark {mark : Char} (hmark : mark.toLower.isLower = false) : mark ∉ name.toList := by
    intro hmem
    rw [isLower_toLower_of_mem h hmem] at hmark
    cases hmark
  have htrim : trimBlanks name.toList = name.toList :=
    trimBlanks_of_notBlank fun c hc => isWhitespace_of_isLower_toLower (isLower_toLower_of_mem h hc)
  have hdirective : Directive.ofText name.toList = .ok ⟨none, rank⟩ := by
    rw [Directive.ofText, splitAt_of_notMem (hmark (by decide))]
    simp [h]
  have hname : name.toList ≠ [] := by
    intro hnil
    have hempty : rankOfName? "" = none := by decide +kernel
    rw [String.toList_eq_nil_iff.mp hnil, hempty] at h
    cases h
  rw [ofText_of_notMem (hmark (by decide)) (hmark (by decide)), htrim]
  simp [hname, hdirective, Except.toOption, faultOf, ofDirectives, insertDirective, upTo]

end BatteryWatch.Log
