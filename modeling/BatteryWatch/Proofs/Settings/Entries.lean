import BatteryWatch.Settings
import Mathlib.Data.List.Induction

/-!
# Entries of mappings

A mapping whose keys are distinct texts, seen as a table from keys to values
(`Yaml.Document.Keyed`, `Yaml.Document.field?`). Reading its entries one after the other reaches
what each of them adds to the entries before it (`Settings.Place.foldEntries_of_put`); with
`Yaml.Document.given`, which keeps what belongs to a key that was met, this can be said of records
with one field for each key.
-/

namespace BatteryWatch

namespace Yaml.Document

variable (d : Document)

/-- The text of a key, if it has one. -/
def keyText? (key : Node) : Option String :=
  match d.resolve key with
  | .scalar _ _ _ text => some text
  | _ => none

/-- The entries of a mapping; a value that is not written counts as an empty mapping. -/
def entries? (node : Node) : Option (List (Node × Node)) :=
  match d.resolve node with
  | .mapping _ entries => some entries
  | .scalar _ _ style text => if style = .plain ∧ text = "" then some [] else none
  | _ => none

/-- The value of the first entry with a given key. -/
def field? (name : String) (entries : List (Node × Node)) : Option Node :=
  (entries.find? fun entry => d.keyText? entry.1 == some name).map (·.2)

/-- The keys of the entries are these texts, none of them twice. -/
structure Keyed (entries : List (Node × Node)) (names : List String) : Prop where
  named : entries.map (fun entry => d.keyText? entry.1) = names.map some
  distinct : names.Nodup

variable {d} {key value : Node} {entries before after : List (Node × Node)} {name : String}
  {names : List String}

/-! ## Looking up keys -/

/-- A key is not found exactly if no entry has it. -/
theorem field?_eq_none_iff :
    d.field? name entries = none ↔ ∀ entry ∈ entries, d.keyText? entry.1 ≠ some name := by
  rw [field?, Option.map_eq_none_iff, List.find?_eq_none]
  simp only [beq_iff_eq]

/-- A key that is found has an entry, and no entry before it has the key. -/
theorem exists_entry_of_field? (h : d.field? name entries = some value) :
    ∃ before key after, entries = before ++ (key, value) :: after ∧ d.keyText? key = some name ∧
      d.field? name before = none := by
  obtain ⟨⟨key, value⟩, hfound, rfl⟩ := Option.map_eq_some_iff.mp h
  obtain ⟨hkey, before, after, hentries, hbefore⟩ := List.find?_eq_some_iff_append.mp hfound
  refine ⟨before, key, after, hentries, beq_iff_eq.mp hkey, field?_eq_none_iff.mpr ?_⟩
  intro entry hentry
  simpa using hbefore entry hentry

/-- Of two lists of entries the first decides about a key that it has. -/
theorem field?_append :
    d.field? name (before ++ after) = (d.field? name before).or (d.field? name after) := by
  rw [field?, List.find?_append, Option.map_or]
  rfl

/-- One entry has its key and no other. -/
theorem field?_singleton :
    d.field? name [(key, value)] = if d.keyText? key = some name then some value else none := by
  by_cases h : d.keyText? key = some name
  · simp [field?, h]
  · simp [field?, h]

/-! ## Entries without repeated keys -/

/-- The key of every entry is one of the names. -/
theorem Keyed.exists_name (h : d.Keyed (before ++ (key, value) :: after) names) :
    ∃ name ∈ names, d.keyText? key = some name := by
  have hmem : d.keyText? key ∈ names.map some := by
    rw [← h.named]
    simp
  obtain ⟨name, hname, hkey⟩ := List.mem_map.mp hmem
  exact ⟨name, hname, hkey.symm⟩

/-- No entry has the key of an entry that comes after it. -/
theorem Keyed.field?_before (h : d.Keyed (before ++ (key, value) :: after) names)
    (hkey : d.keyText? key = some name) : d.field? name before = none := by
  have hdistinct : (names.map some).Nodup :=
    List.Pairwise.map some (fun _ _ hne heq => hne (Option.some.inj heq)) h.distinct
  rw [← h.named, List.map_append, List.nodup_append] at hdistinct
  rw [field?_eq_none_iff]
  intro entry hentry heq
  have hne := hdistinct.2.2 _ (List.mem_map_of_mem hentry) _ List.mem_cons_self
  exact hne (heq.trans hkey.symm)

/-- Every entry is the one that is found under its key. -/
theorem Keyed.field?_eq_some (h : d.Keyed (before ++ (key, value) :: after) names)
    (hkey : d.keyText? key = some name) :
    d.field? name (before ++ (key, value) :: after) = some value := by
  rw [field?_append, h.field?_before hkey]
  simp [field?, hkey]

/-! ## What belongs to a key -/

/-- Something that belongs to a key, if some entry has the key. -/
def given {α : Type} (d : Document) (name : String) (entries : List (Node × Node))
    (a : Option α) : Option α :=
  if (d.field? name entries).isSome then a else none

variable {α : Type} {a : Option α}

/-- Nothing is given by entries without the key. -/
theorem given_of_field?_none (h : d.field? name entries = none) :
    d.given name entries a = none := by
  rw [given, h]
  rfl

/-- Something is given by one more entry if it has the key. -/
theorem given_concat_of_key (hkey : d.keyText? key = some name) :
    d.given name (before ++ [(key, value)]) a = a := by
  have hfound : (d.field? name (before ++ [(key, value)])).isSome = true := by
    rw [field?_append, field?_singleton, if_pos hkey, Option.isSome_or, Option.isSome_some,
      Bool.or_true]
  rw [given, if_pos hfound]

/-- Nothing more is given by one more entry with another key. -/
theorem given_concat_of_ne (hkey : d.keyText? key ≠ some name) :
    d.given name (before ++ [(key, value)]) a = d.given name before a := by
  rw [given, given, field?_append, field?_singleton, if_neg hkey, Option.or_none]

/-- All is given that is only there if some entry has the key. -/
theorem given_eq_self (h : d.field? name entries = none → a = none) :
    d.given name entries a = a := by
  unfold given
  split
  · rfl
  next hmissing => rw [h (Option.not_isSome_iff_eq_none.mp hmissing)]

end Yaml.Document

namespace Settings.Place

open Yaml (Document Node)

variable {α : Type} {d : Document} {path : Path} {node key : Node}

/-! ## Reading entries -/

/-- A mapping is read as its entries. -/
theorem entries_of_entries? {entries : List (Node × Node)} (h : d.entries? node = some entries)
    (expected : String) : Place.entries ⟨d, path, node⟩ expected = .ok entries := by
  unfold Document.entries? at h
  unfold Place.entries Place.target
  split at h
  · rename_i htarget
    simp only [htarget]
    rw [Option.some.inj h]
  · rename_i htarget
    simp only [htarget]
    split at h
    next hempty => rw [if_pos hempty, Option.some.inj h]
    next => cases h
  · cases h

/-- A key with a text is read as its text. -/
theorem text_of_keyText? {name : String} (h : d.keyText? key = some name) (expected : String) :
    Place.text ⟨d, path, key⟩ expected = .ok name := by
  unfold Document.keyText? at h
  unfold Place.text Place.target
  split at h
  · rename_i htarget
    simp only [htarget]
    rw [Option.some.inj h]
  · cases h

variable {put : α → String → Place → Place → Except DecodeError α}

/-- Of entries whose first key has a text, the first is read before the others. -/
theorem foldEntries_cons {p : Place} {name : String} (hkey : p.document.keyText? key = some name)
    (value : Node) (rest : List (Node × Node)) (a : α) :
    p.foldEntries put ((key, value) :: rest) a =
      (put a name { p with node := key }
        { p with path := p.path ++ [step key], node := value }).bind (p.foldEntries put rest) := by
  rw [foldEntries]
  have htext : Place.text { p with node := key } "field identifier" = .ok name :=
    text_of_keyText? hkey _
  simp only [htext]
  rfl

/-- Reading entries each of which adds to what is held what `held` says, then reading the rest. -/
theorem foldEntries_of_put (p : Place) (held : List (Node × Node) → α)
    {entries : List (Node × Node)}
    (hput : ∀ before key value after, entries = before ++ (key, value) :: after →
      ∃ name, p.document.keyText? key = some name ∧
        put (held before) name { p with node := key }
          { p with path := p.path ++ [step key], node := value } =
            .ok (held (before ++ [(key, value)])))
    (rest : List (Node × Node)) :
    p.foldEntries put (entries ++ rest) (held []) = p.foldEntries put rest (held entries) := by
  induction entries using List.reverseRecOn generalizing rest with
  | nil => rfl
  | append_singleton entries entry ih =>
    obtain ⟨key, value⟩ := entry
    obtain ⟨name, hkey, hlast⟩ := hput entries key value [] rfl
    rw [List.append_assoc, ih, List.singleton_append, foldEntries_cons hkey, hlast]
    · rfl
    · intro before key' value' after h
      refine hput before key' value' (after ++ [(key, value)]) ?_
      rw [h, List.append_assoc]
      rfl

end Settings.Place

end BatteryWatch
