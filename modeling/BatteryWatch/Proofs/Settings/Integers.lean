import BatteryWatch.Proofs.Settings.Defaults

/-!
# Integers in documents

What a node stands for (`Yaml.Document.meaning?`) and which integer it spells
(`Yaml.Document.Spells`): the one that it stands for, or the one that a plain scalar would stand for
without its tag. The tags of plain scalars are not looked at when a number is read, so that the
second is taken for a number as well; nothing else is (`Yaml.Document.IsNatural.spells`). A node
spells one integer at most (`Yaml.Document.Spells.unique`).
-/

namespace BatteryWatch.Yaml

variable {tag : Option String} {style : ScalarStyle} {text : String} {n : Nat} {m k : Int}

/-! ## Integers as texts -/

/-- A natural number that is not too large is an integer. -/
theorem integer?_of_natural? {chars : List Char} (h : natural? chars = some n)
    (hn : n < UInt64.size) : integer? chars = some n := by
  have hsmall : n < 1 <<< 128 := Nat.lt_trans hn (by decide)
  unfold integer?
  rw [h]
  exact if_pos hsmall

/-- A text that is a natural number stands for no truth value and is not a word for nothing. -/
theorem isNull_boolean?_of_natural? (h : natural? text.toList = some n) :
    text ≠ "" ∧ isNull text = false ∧ boolean? text = none := by
  have hword (word : String) (hword : natural? word.toList = none) : text ≠ word := by
    rintro rfl
    rw [h] at hword
    cases hword
  refine ⟨hword "" (by decide), ?_, ?_⟩
  · unfold isNull
    simp [hword "null" (by decide), hword "Null" (by decide), hword "NULL" (by decide),
      hword "~" (by decide)]
  · unfold boolean?
    simp [hword "true" (by decide), hword "True" (by decide), hword "TRUE" (by decide),
      hword "false" (by decide), hword "False" (by decide), hword "FALSE" (by decide)]

/-- A plain scalar with the text of a natural number that is not too large stands for it. -/
theorem plainMeaning_of_natural? (h : natural? text.toList = some n) (hn : n < UInt64.size) :
    plainMeaning text = .integer n := by
  obtain ⟨hempty, hnull, hboolean⟩ := isNull_boolean?_of_natural? h
  unfold plainMeaning
  simp [hempty, hnull, hboolean, integer?_of_natural? h hn]

/-- A plain scalar that stands for an integer has its text. -/
theorem integer?_of_plainMeaning (h : plainMeaning text = .integer m) :
    integer? text.toList = some m := by
  unfold plainMeaning at h
  dsimp only at h
  split at h
  · cases h
  · split at h
    · cases h
    · next heq =>
      obtain rfl := Meaning.integer.inj h
      exact heq
    · split at h
      · cases h
      · cases h

/-- A scalar that stands for an integer has its text, whether it has a tag or not. -/
theorem integer?_of_scalarMeaning (h : scalarMeaning tag style text = .ok (.integer m)) :
    integer? text.toList = some m := by
  have hplain (hok : (Except.ok (plainMeaning text) : Except String Meaning) =
      .ok (.integer m)) : integer? text.toList = some m :=
    integer?_of_plainMeaning (Except.ok.inj hok)
  unfold scalarMeaning at h
  dsimp only at h
  cases tag with
  | none =>
    dsimp only at h
    split at h
    · exact hplain h
    · cases h
  | some tag =>
    dsimp only at h
    -- whatever the tag promises, nothing but an integer is one
    split at h
    · split at h
      next hfound => simp [Except.ok.inj h] at hfound
      · cases h
    · split at h
      · split at h
        next hfound => simpa [Except.ok.inj h] using hfound
        · cases h
      · split at h
        · split at h
          next hfound => simp [Except.ok.inj h] at hfound
          · cases h
        · split at h
          · split at h
            next hfound =>
              split at hfound
              · simp [Except.ok.inj h] at hfound
              · cases hfound
            · cases h
          · split at h
            · exact hplain h
            · cases h

namespace Document

variable (d : Document) {node : Node}

/-! ## Integers as nodes -/

/-- What a node stands for, with a reference at its top followed: nothing for a scalar that is not
what its tag promises. -/
def meaning? (node : Node) : Option Meaning :=
  match d.resolve node with
  | .scalar _ tag style text => (scalarMeaning tag style text).toOption
  | .sequence .. => some .sequence
  | .mapping .. => some .mapping
  | .alias .. => some .null

/-- The node stands for an integer. -/
def IsInteger (node : Node) (m : Int) : Prop := d.meaning? node = some (.integer m)

/-- The node is a plain scalar that would stand for an integer without its tag. -/
def IsMistagged (node : Node) (m : Int) : Prop :=
  ∃ mark tag text, d.resolve node = .scalar mark (some tag) .plain text ∧
    plainMeaning text = .integer m ∧ d.meaning? node ≠ some (.integer m)

/-- The node spells an integer, which it stands for or would stand for without its tag. -/
def Spells (node : Node) (m : Int) : Prop := d.IsInteger node m ∨ d.IsMistagged node m

variable {d}

/-- A scalar stands for what its tag, its style and its text say. -/
theorem meaning?_of_scalar {mark : Mark} (h : d.resolve node = .scalar mark tag style text) :
    d.meaning? node = (scalarMeaning tag style text).toOption := by
  unfold meaning?
  rw [h]

/-- What spells an integer is a scalar with its text. -/
theorem Spells.exists_text (h : d.Spells node m) :
    ∃ mark tag style text, d.resolve node = .scalar mark tag style text ∧
      integer? text.toList = some m := by
  rcases h with hinteger | ⟨mark, tag, text, hnode, hmeaning, -⟩
  · unfold IsInteger meaning? at hinteger
    split at hinteger
    next mark tag style text hnode =>
      cases hmeaning : scalarMeaning tag style text with
      | error promised =>
        rw [hmeaning] at hinteger
        cases hinteger
      | ok found =>
        rw [hmeaning] at hinteger
        obtain rfl := Option.some.inj hinteger
        exact ⟨mark, tag, style, text, hnode, integer?_of_scalarMeaning hmeaning⟩
    · cases hinteger
    · cases hinteger
    · cases hinteger
  · exact ⟨mark, some tag, .plain, text, hnode, integer?_of_plainMeaning hmeaning⟩

/-- A node spells one integer at most. -/
theorem Spells.unique (hm : d.Spells node m) (hk : d.Spells node k) : m = k := by
  obtain ⟨_, _, _, text, hnode, hread⟩ := hm.exists_text
  obtain ⟨_, _, _, text', hnode', hread'⟩ := hk.exists_text
  rw [hnode] at hnode'
  cases hnode'
  exact Option.some.inj (hread.symm.trans hread')

/-- A natural number that is not too large is an integer that the node spells. -/
theorem IsNatural.spells (h : d.IsNatural node n) (hn : n < UInt64.size) :
    d.Spells node n := by
  obtain ⟨mark, tag, style, text, hnode, hstyle, hread⟩ := h
  have hmeaning := meaning?_of_scalar hnode
  rcases hstyle with rfl | ⟨rfl, rfl⟩
  · have hplain := plainMeaning_of_natural? hread hn
    cases tag with
    | none =>
      left
      rw [IsInteger, hmeaning, scalarMeaning, if_pos rfl, hplain]
      rfl
    | some tag =>
      by_cases hinteger : d.IsInteger node n
      · exact .inl hinteger
      · exact .inr ⟨mark, tag, text, hnode, hplain, hinteger⟩
  · -- the tag of a block is the one of integers
    left
    have hblock : scalarMeaning (some (coreTag "int")) .literal text = .ok (.integer n) := by
      unfold scalarMeaning
      have hother : (coreTag "int" == coreTag "bool") = false := by decide
      simp [hother, integer?_of_natural? hread hn]
    rw [IsInteger, hmeaning, hblock]
    rfl

end Document

end BatteryWatch.Yaml
