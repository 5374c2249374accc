import BatteryWatch.Proofs.Answer
import BatteryWatch.Proofs.Settings.Content

/-!
# Strict reading of settings

Values of settings are taken as they are or refused, but never made to fit
(`Settings.strictness_law`): the numbers that are loaded are those that the values spell, known keys
do not occur twice, and the mapping of the device has no other keys (`Settings.Loads`). A fault in
any of this makes loading fail, whatever else the document has (`Settings.IsFaulty`), whereas other
entries at the top and in the log settings have no influence. The one liberty is that the tags of
plain scalars are not looked at (`Settings.load_of_tagged_timeout`).
-/

namespace BatteryWatch.Settings

open Yaml (Document Node)

variable {d : Document} {entries : List (Node × Node)} {node : Node}

/-! ## What is loaded -/

/-- The entries of a document, and the settings that are loaded from it, as far as they have to
agree. -/
structure Loads (d : Document) (entries : List (Node × Node)) (s : Settings) : Prop where
  /-- No known key occurs twice. -/
  once : ∀ name ∈ documentKeys, (d.values name entries).length ≤ 1
  /-- The keys of the device are known, each occurs once, and its value spells what is loaded. -/
  device : ∀ value ∈ d.values "device" entries, ∀ numbers, d.entries? value = some numbers →
    d.KeysIn (· ∈ deviceKeys) numbers ∧
    (∃ number, d.values "vendor_id" numbers = [number] ∧
      d.Spells number s.device.vendor.toNat) ∧
    ∃ number, d.values "product_id" numbers = [number] ∧
      d.Spells number s.device.product.toNat
  /-- The time to wait is what its value spells. -/
  timeout : ∀ value ∈ d.values "read_timeout_ms" entries,
    d.Spells value s.readTimeoutMillis.toNat
  /-- The level does not occur twice in the log settings. -/
  level : ∀ value ∈ d.values "logging" entries, ∀ levels, d.entries? value = some levels →
    (d.values "level" levels).length ≤ 1

/-- Fields are taken from one value at most. -/
theorem Takes.length_le_one {α : Type} {R : Node → α → Prop} {values : List Node}
    {before after : Option α} (h : Takes R values before after) : values.length ≤ 1 := by
  cases h with
  | nothing => exact Nat.zero_le 1
  | value _ => exact le_rfl

/-- A field is taken from each of its values. -/
theorem Takes.exists_of_mem {α : Type} {R : Node → α → Prop} {values : List Node} {value : Node}
    {before after : Option α} (h : Takes R values before after) (hvalue : value ∈ values) :
    values = [value] ∧ ∃ a, after = some a ∧ R value a := by
  cases h with
  | nothing => cases hvalue
  | @value v a hv =>
    obtain rfl := List.mem_singleton.mp hvalue
    exact ⟨rfl, a, rfl, hv⟩

/-- A field that is set is taken from its only value. -/
theorem Takes.exists_value {α : Type} {R : Node → α → Prop} {values : List Node} {a : α}
    (h : Takes R values none (some a)) : ∃ value, values = [value] ∧ R value a := by
  cases h with
  | value h => exact ⟨_, rfl, h⟩

/-- A number of sixteen bits is spelt by its node. -/
theorem IsWord16.spells {n : UInt16} (h : IsWord16 d node n) : d.Spells node n.toNat :=
  Document.IsNatural.spells h (Nat.lt_trans n.toNat_lt (by decide))

/-- A number of sixty-four bits is spelt by its node. -/
theorem IsWord64.spells {n : UInt64} (h : IsWord64 d node n) : d.Spells node n.toNat :=
  Document.IsNatural.spells h n.toNat_lt

/-- The settings that are read from a document agree with it. -/
theorem loads_of_ofDocument {s : Settings} (hroot : d.entries? d.root = some entries)
    (h : ofDocument d = .ok s) : Loads d entries s := by
  obtain ⟨entries', f, hentries, -, htaken, rfl⟩ := ofDocument_eq_ok_iff.mp h
  obtain rfl := Option.some.inj (hroot.symm.trans hentries)
  obtain ⟨hdevice, htimeout, hinterval, hlevel⟩ := htaken
  refine ⟨?_, ?_, ?_, ?_⟩
  · intro name hname
    simp only [documentKeys, List.mem_cons, List.not_mem_nil, or_false] at hname
    rcases hname with rfl | rfl | rfl | rfl
    · exact hdevice.length_le_one
    · exact htimeout.length_le_one
    · exact hinterval.length_le_one
    · exact hlevel.length_le_one
  · intro value hvalue numbers hnumbers
    obtain ⟨-, id, hid, numbers', hnumbers', hkeys, hvendor, hproduct⟩ :=
      hdevice.exists_of_mem hvalue
    obtain rfl := Option.some.inj (hnumbers.symm.trans hnumbers')
    have hloaded : f.finish.device = id := by
      rw [Fields.finish, hid]
      rfl
    obtain ⟨vendor, hvendors, hvendor⟩ := hvendor.exists_value
    obtain ⟨product, hproducts, hproduct⟩ := hproduct.exists_value
    rw [hloaded]
    exact ⟨hkeys, ⟨vendor, hvendors, hvendor.spells⟩, product, hproducts, hproduct.spells⟩
  · intro value hvalue
    obtain ⟨-, millis, hmillis, hword⟩ := htimeout.exists_of_mem hvalue
    have hloaded : f.finish.readTimeoutMillis = millis := by
      rw [Fields.finish, hmillis]
      rfl
    rw [hloaded]
    exact hword.spells
  · intro value hvalue levels hlevels
    obtain ⟨-, _, -, levels', _, hlevels', -, hset, -⟩ := hlevel.exists_of_mem hvalue
    obtain rfl := Option.some.inj (hlevels.symm.trans hlevels')
    exact hset.length_le_one

/-! ## What is refused -/

/-- A value is no number below a bound: it spells a negative number or one that is too large, or it
stands for a fraction and does not spell an integer for all that. -/
inductive IsUnfit (d : Document) (bound : Nat) (node : Node) : Prop
  | negative {m : Int} (spelt : d.Spells node m) (negative : m < 0)
  | tooLarge {m : Int} (spelt : d.Spells node m) (large : bound ≤ m)
  | fractional {x : Binary64} (meaning : d.meaning? node = some (.float x))
      (tagged : ∀ m, ¬d.IsMistagged node m)

/-- What is unfit spells no number below the bound. -/
theorem IsUnfit.not_spells {bound n : Nat} (h : IsUnfit d bound node) (hn : n < bound) :
    ¬d.Spells node n := by
  intro hspells
  cases h with
  | negative spelt negative =>
    rw [spelt.unique hspells] at negative
    omega
  | tooLarge spelt large =>
    rw [spelt.unique hspells] at large
    omega
  | fractional meaning tagged =>
    rcases hspells with hinteger | hmistagged
    · rw [Document.IsInteger, meaning] at hinteger
      cases hinteger
    · exact tagged _ hmistagged

/-- The entries of a document have a fault: a known key twice, an unknown key of the device, or a
number that is unfit. -/
inductive IsFaulty (d : Document) (entries : List (Node × Node)) : Prop
  | repeated {name : String} (known : name ∈ documentKeys)
      (twice : 2 ≤ (d.values name entries).length)
  | repeatedNumber {value : Node} {numbers : List (Node × Node)} {name : String}
      (device : value ∈ d.values "device" entries) (mapping : d.entries? value = some numbers)
      (known : name ∈ deviceKeys) (twice : 2 ≤ (d.values name numbers).length)
  | repeatedLevel {value : Node} {levels : List (Node × Node)}
      (logging : value ∈ d.values "logging" entries) (mapping : d.entries? value = some levels)
      (twice : 2 ≤ (d.values "level" levels).length)
  | unknownNumber {value : Node} {numbers : List (Node × Node)} {entry : Node × Node}
      (device : value ∈ d.values "device" entries) (mapping : d.entries? value = some numbers)
      (member : entry ∈ numbers) (unknown : ∀ name ∈ deviceKeys, d.keyText? entry.1 ≠ some name)
  | unfitNumber {value number : Node} {numbers : List (Node × Node)} {name : String}
      (device : value ∈ d.values "device" entries) (mapping : d.entries? value = some numbers)
      (known : name ∈ deviceKeys) (member : number ∈ d.values name numbers)
      (unfit : IsUnfit d UInt16.size number)
  | unfitTimeout {value : Node} (timeout : value ∈ d.values "read_timeout_ms" entries)
      (unfit : IsUnfit d UInt64.size value)

/-- Each key of the device occurs once, and its value spells a number of sixteen bits. -/
theorem Loads.exists_number {s : Settings} (h : Loads d entries s) {value : Node}
    {numbers : List (Node × Node)} {name : String} (hvalue : value ∈ d.values "device" entries)
    (hnumbers : d.entries? value = some numbers) (hname : name ∈ deviceKeys) :
    ∃ number, d.values name numbers = [number] ∧ ∃ n < UInt16.size, d.Spells number n := by
  obtain ⟨-, ⟨vendor, hvendors, hvendor⟩, product, hproducts, hproduct⟩ :=
    h.device value hvalue numbers hnumbers
  rcases List.mem_pair.mp hname with rfl | rfl
  · exact ⟨vendor, hvendors, _, s.device.vendor.toNat_lt, hvendor⟩
  · exact ⟨product, hproducts, _, s.device.product.toNat_lt, hproduct⟩

/-- No settings agree with faulty entries. -/
theorem IsFaulty.not_loads {s : Settings} (h : IsFaulty d entries) : ¬Loads d entries s := by
  intro hloads
  cases h with
  | repeated known twice => exact absurd (hloads.once _ known) (Nat.not_le_of_lt twice)
  | repeatedNumber device mapping known twice =>
    obtain ⟨number, hnumber, -⟩ := hloads.exists_number device mapping known
    rw [hnumber] at twice
    exact absurd twice (Nat.not_succ_le_self 1)
  | repeatedLevel logging mapping twice =>
    exact absurd (hloads.level _ logging _ mapping) (Nat.not_le_of_lt twice)
  | unknownNumber device mapping member unknown =>
    obtain ⟨hkeys, -⟩ := hloads.device _ device _ mapping
    obtain ⟨name, hname, hknown⟩ := hkeys _ member
    exact unknown name hknown hname
  | unfitNumber device mapping known member unfit =>
    obtain ⟨number, hnumber, n, hn, hspells⟩ := hloads.exists_number device mapping known
    rw [hnumber] at member
    obtain rfl := List.mem_singleton.mp member
    exact unfit.not_spells hn hspells
  | unfitTimeout timeout unfit =>
    exact unfit.not_spells s.readTimeoutMillis.toNat_lt (hloads.timeout _ timeout)

/-! ## Configuration files -/

/-- A file holds a document that is a mapping with these entries. -/
def Holds (read : String → Except String ByteArray) (file : String) (d : Document)
    (entries : List (Node × Node)) : Prop :=
  ∃ bytes text, read file = .ok bytes ∧ String.fromUTF8? bytes = some text ∧
    Document.ofText text = .ok d ∧ d.entries? d.root = some entries

variable {read : String → Except String ByteArray} {file : String}

/-- What is loaded from a file is what is read from its document. -/
theorem load_eq_ok_iff (h : Holds read file d entries) (s : Settings) :
    load read (some file) = .ok s ↔ ofDocument d = .ok s := by
  obtain ⟨bytes, text, hread, htext, hparsed, -⟩ := h
  rw [load_of_document hread htext hparsed]
  exact mapError_eq_ok_iff

/-- The law of strict reading, for every configuration file that holds a mapping.

If settings are loaded, no known key occurs twice, neither at the top nor for the device nor in the
log settings; the device, if it is given, has no other keys than its two, and the values of these
spell the numbers that are loaded; and so does the time to wait, if it is given. Hence a known key
that is repeated, an unknown key of the device and a negative number, one that is too large or a
fraction make loading fail, whatever else the file holds. Entries with unknown keys that are added
at the top or in the log settings, wherever they stand, change neither whether settings are loaded
nor which, and nor does where the nodes start. -/
theorem strictness_law (h : Holds read file d entries) :
    (∀ s, load read (some file) = .ok s → Loads d entries s) ∧
    (IsFaulty d entries → ∃ e, load read (some file) = .error e) ∧
    (∀ read' file' d' entries', Holds read' file' d' entries' →
      ExtendsSettings d d' entries entries' →
      ∀ s, load read' (some file') = .ok s ↔ load read (some file) = .ok s) := by
  have hroot : d.entries? d.root = some entries := by
    obtain ⟨-, -, -, -, -, hroot⟩ := h
    exact hroot
  have hloads (s : Settings) (hload : load read (some file) = .ok s) : Loads d entries s :=
    loads_of_ofDocument hroot ((load_eq_ok_iff h s).mp hload)
  refine ⟨hloads, ?_, ?_⟩
  · intro hfaulty
    cases hload : load read (some file) with
    | error e => exact ⟨e, rfl⟩
    | ok s => exact absurd (hloads s hload) hfaulty.not_loads
  · intro read' file' d' entries' h' hextends s
    obtain ⟨-, -, -, -, -, hroot'⟩ := id h'
    rw [load_eq_ok_iff h s, load_eq_ok_iff h' s]
    exact ofDocument_of_extends hroot hroot' hextends s

/-- A time to wait is loaded as before from a file with one more entry in front, after which
everything starts later. -/
theorem load_of_more_entries :
    ∃ s, load (fun _ => .ok "colour: red\nread_timeout_ms: 7\n".toUTF8) (some "config.yaml") =
      .ok s ∧ s.readTimeoutMillis = 7 := by
  let entries : List (Node × Node) := [(.scalar ⟨0, 0, 0⟩ none .plain "read_timeout_ms",
    .scalar ⟨17, 0, 17⟩ none .plain "7")]
  let entries' : List (Node × Node) := [(.scalar ⟨0, 0, 0⟩ none .plain "colour",
      .scalar ⟨8, 0, 8⟩ none .plain "red"),
    (.scalar ⟨12, 1, 0⟩ none .plain "read_timeout_ms", .scalar ⟨29, 1, 17⟩ none .plain "7")]
  let d : Document := .ofNode (.mapping ⟨0, 0, 0⟩ entries)
  let d' : Document := .ofNode (.mapping ⟨0, 0, 0⟩ entries')
  have hparsed : Document.ofText "read_timeout_ms: 7\n" = .ok d := by cbv
  have hparsed' : Document.ofText "colour: red\nread_timeout_ms: 7\n" = .ok d' := by cbv
  have h : Holds (fun _ => .ok "read_timeout_ms: 7\n".toUTF8) "config.yaml" d entries :=
    ⟨_, _, rfl, rfl, hparsed, rfl⟩
  have h' : Holds (fun _ => .ok "colour: red\nread_timeout_ms: 7\n".toUTF8) "config.yaml" d'
      entries' := ⟨_, _, rfl, rfl, hparsed', rfl⟩
  have hextends : ExtendsSettings d d' entries entries' := by
    refine Document.Extends.more rfl (by decide) (.same rfl ?_ .nil)
    intro name _ hkey
    obtain rfl := Option.some.inj hkey
    exact Document.Alike.scalar rfl rfl
  have hload : load (fun _ => .ok "read_timeout_ms: 7\n".toUTF8) (some "config.yaml") =
      .ok { stock with readTimeoutMillis := 7 } := by
    rw [load_eq_ok_iff h]
    rfl
  exact ⟨_, ((strictness_law h).2.2 _ _ _ _ h' hextends _).mpr hload, rfl⟩

/-- The keys at the top of a document, and what their values stand for. -/
def outline (d : Document) : Option (List (Option String × Option Yaml.Meaning)) :=
  (d.entries? d.root).map fun entries =>
    entries.map fun entry => (d.keyText? entry.1, d.meaning? entry.2)

/-- A time to wait with the tag of texts is loaded, although its value stands for a text and not for
an integer. -/
theorem load_of_tagged_timeout :
    ∃ d key value s,
      Holds (fun _ => .ok "read_timeout_ms: !!str 5\n".toUTF8) "config.yaml" d [(key, value)] ∧
      d.keyText? key = some "read_timeout_ms" ∧ d.meaning? value = some (.text "5") ∧
      (∀ m, ¬d.IsInteger value m) ∧
      load (fun _ => .ok "read_timeout_ms: !!str 5\n".toUTF8) (some "config.yaml") = .ok s ∧
      s.readTimeoutMillis = 5 := by
  have houtline : (Document.ofText "read_timeout_ms: !!str 5\n").toOption.bind outline =
      some [(some "read_timeout_ms", some (.text "5"))] := by decide +kernel
  have hload : load (fun _ => .ok "read_timeout_ms: !!str 5\n".toUTF8) (some "config.yaml") =
      .ok { stock with readTimeoutMillis := 5 } := by decide +kernel
  obtain ⟨d, hd, houtline⟩ := Option.bind_eq_some_iff.mp houtline
  obtain ⟨entries, hentries, hmap⟩ := Option.map_eq_some_iff.mp houtline
  obtain ⟨⟨key, value⟩, rest, rfl, hentry, hrest⟩ := List.map_eq_cons_iff.mp hmap
  obtain rfl := List.map_eq_nil_iff.mp hrest
  obtain ⟨hkey, hmeaning⟩ := Prod.mk.inj hentry
  have hparsed : Document.ofText "read_timeout_ms: !!str 5\n" = .ok d := by
    cases hparsed : Document.ofText "read_timeout_ms: !!str 5\n" with
    | error e =>
      rw [hparsed] at hd
      cases hd
    | ok d' =>
      rw [hparsed] at hd
      rw [Option.some.inj hd]
  have hinteger (m : Int) : ¬d.IsInteger value m := by
    rw [Document.IsInteger, hmeaning]
    rintro ⟨⟩
  exact ⟨d, key, value, _, ⟨_, _, rfl, rfl, hparsed, hentries⟩, hkey, hmeaning, hinteger, hload,
    rfl⟩

end BatteryWatch.Settings
