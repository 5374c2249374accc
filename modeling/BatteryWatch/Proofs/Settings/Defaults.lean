import BatteryWatch.Proofs.Settings.Entries
import BatteryWatch.Settings
import Mathlib

/-!
# Defaults

What a document gives of the settings (`Settings.Given`) and what it is read as. The keys may stand
in any order and any of them may be missing. `Settings.load_of_given` says that what is given is
taken and everything else has its default, with one exception: of the numbers of the device both
must be given or none, and a mapping that gives only one of them is refused for want of the other.
-/

namespace BatteryWatch

namespace Yaml.Document

variable (d : Document)

/-! ## Values -/

/-- The node is a number of a kind: a plain scalar, or a literal block with the tag of the kind,
whose text is read as the number. -/
def IsNumber {α : Type} (kind : String) (read : List Char → Option α) (node : Node) (a : α) :
    Prop :=
  ∃ mark tag style text, d.resolve node = .scalar mark tag style text ∧
    (style = .plain ∨ style = .literal ∧ tag = some (coreTag kind)) ∧ read text.toList = some a

/-- The node is a natural number. -/
def IsNatural (node : Node) (n : Nat) : Prop := d.IsNumber "int" natural? node n

/-- The node is a floating point number. -/
def IsFloat (node : Node) (x : Binary64) : Prop := d.IsNumber "float" float? node x

/-- The node is a scalar with a text. -/
def IsText (node : Node) (text : String) : Prop :=
  ∃ mark tag style, d.resolve node = .scalar mark tag style text

end Yaml.Document

namespace Settings

open Yaml (Document Node)

variable {d : Document} {path : Path} {node : Node}

namespace Place

/-- A scalar is read as a number exactly if it is plain or a literal block with the right tag. -/
theorem isNumeric_iff {kind : String} {tag : Option String} {style : Yaml.ScalarStyle} :
    isNumeric kind tag style = true ↔
      style = .plain ∨ style = .literal ∧ tag = some (Yaml.coreTag kind) := by
  simp [isNumeric]

/-- A natural number below `2 ^ 64` is read. -/
theorem natural64_of_isNatural {n : Nat} (h : d.IsNatural node n) (hn : n < UInt64.size)
    (expected : String) : natural64 ⟨d, path, node⟩ expected = .ok n := by
  obtain ⟨mark, tag, style, text, hnode, hstyle, hread⟩ := h
  unfold natural64 target
  simp only [hnode, if_pos (isNumeric_iff.mpr hstyle), hread, if_pos hn]

/-- A number of sixty-four bits is read. -/
theorem word64_of_isNatural {n : UInt64} (h : d.IsNatural node n.toNat) :
    word64 ⟨d, path, node⟩ = .ok n := by
  rw [word64, natural64_of_isNatural h n.toNat_lt]
  exact congrArg Except.ok UInt64.ofNat_toNat

/-- A number of sixteen bits is read. -/
theorem word16_of_isNatural {n : UInt16} (h : d.IsNatural node n.toNat) :
    word16 ⟨d, path, node⟩ = .ok n := by
  have hsmall : n.toNat < UInt16.size := n.toNat_lt
  have hn : n.toNat < UInt64.size := Nat.lt_trans hsmall (by decide)
  rw [word16, natural64_of_isNatural h hn]
  change (if n.toNat < UInt16.size then _ else _) = _
  rw [if_pos hsmall]
  exact congrArg Except.ok UInt16.ofNat_toNat

/-- A floating point number is read. -/
theorem float_of_isFloat {x : Binary64} (h : d.IsFloat node x) :
    float ⟨d, path, node⟩ = .ok x := by
  obtain ⟨mark, tag, style, text, hnode, hstyle, hread⟩ := h
  unfold float target
  simp only [hnode, if_pos (isNumeric_iff.mpr hstyle), hread]

/-- A text is read. -/
theorem text_of_isText {text : String} (h : d.IsText node text) (expected : String) :
    Place.text ⟨d, path, node⟩ expected = .ok text := by
  obtain ⟨mark, tag, style, hnode⟩ := h
  unfold Place.text target
  simp only [hnode]

/-- A field that was not met before is read as what its entry gives. -/
theorem once_of_given {α : Type} {R : Node → α → Prop} {entries before after : List (Node × Node)}
    {names : List String} {name : String} {key value : Node} {a : Option α} {p : Place}
    {read : Except DecodeError α} (hkeyed : d.Keyed entries names)
    (hentries : entries = before ++ (key, value) :: after) (hkey : d.keyText? key = some name)
    (hgiven : Option.Rel R (d.field? name entries) a) (hread : ∀ b, R value b → read = .ok b) :
    p.once name (d.given name before a) read = .ok a := by
  subst hentries
  rw [hkeyed.field?_eq_some hkey] at hgiven
  rw [Document.given_of_field?_none (hkeyed.field?_before hkey)]
  cases hgiven with
  | some h =>
    rw [hread _ h]
    rfl

end Place

/-- What is related to a value that is not there is not there. -/
theorem eq_none_of_rel {α β : Type} {R : α → β → Prop} {a : Option α} {b : Option β}
    (h : Option.Rel R a b) : a = none → b = none := by
  rintro rfl
  cases h
  rfl

/-- What is there is related to something that is there. -/
theorem exists_of_rel_some {α β : Type} {R : α → β → Prop} {a : α} {b : Option β}
    (h : Option.Rel R (some a) b) : ∃ c, b = some c ∧ R a c := by
  cases h with
  | some h => exact ⟨_, rfl, h⟩

/-- Something is related to what is there. -/
theorem exists_rel_of_some {α β : Type} {R : α → β → Prop} {a : Option α} {b : β}
    (h : Option.Rel R a (some b)) : ∃ c, a = some c ∧ R c b := by
  cases h with
  | some h => exact ⟨_, rfl, h⟩

/-! ## Mappings -/

/-- The node is a mapping that gives numbers of the device and nothing else. -/
def GivesDevice (d : Document) (node : Node) (f : DeviceFields) : Prop :=
  ∃ entries names, d.entries? node = some entries ∧ d.Keyed entries names ∧
    (∀ name ∈ names, name ∈ deviceKeys) ∧
    Option.Rel (fun value n => d.IsNatural value n.toNat) (d.field? "vendor_id" entries) f.vendor ∧
    Option.Rel (fun value n => d.IsNatural value n.toNat) (d.field? "product_id" entries) f.product

/-- The node is a mapping that gives the log level, or does not. -/
def GivesLogging (d : Document) (node : Node) (level : Option String) : Prop :=
  ∃ entries names, d.entries? node = some entries ∧ d.Keyed entries names ∧
    Option.Rel d.IsText (d.field? "level" entries) level

/-- The numbers of the device that belong to keys that were met. -/
def DeviceFields.met (d : Document) (entries : List (Node × Node)) (f : DeviceFields) :
    DeviceFields :=
  ⟨d.given "vendor_id" entries f.vendor, d.given "product_id" entries f.product⟩

/-- One more entry of the mapping of the device's numbers is read as what it gives. -/
theorem DeviceFields.put_met {f : DeviceFields} {entries before after : List (Node × Node)}
    {names : List String} {key value : Node} (p : Place) (keyPlace : Place) (path : Path)
    (hkeyed : d.Keyed entries names) (hknown : ∀ name ∈ names, name ∈ deviceKeys)
    (hvendor : Option.Rel (fun value n => d.IsNatural value n.toNat) (d.field? "vendor_id" entries)
      f.vendor)
    (hproduct : Option.Rel (fun value n => d.IsNatural value n.toNat)
      (d.field? "product_id" entries) f.product)
    (hentries : entries = before ++ (key, value) :: after) :
    ∃ name, d.keyText? key = some name ∧
      DeviceFields.put p (f.met d before) name keyPlace ⟨d, path, value⟩ =
        .ok (f.met d (before ++ [(key, value)])) := by
  obtain ⟨name, hname, hkey⟩ := Document.Keyed.exists_name (hentries ▸ hkeyed)
  refine ⟨name, hkey, ?_⟩
  have hdevice : name = "vendor_id" ∨ name = "product_id" := by
    simpa [deviceKeys] using hknown name hname
  rcases hdevice with rfl | rfl
  · have honce : p.once "vendor_id" (d.given "vendor_id" before f.vendor)
        (Place.word16 ⟨d, path, value⟩) = .ok f.vendor :=
      Place.once_of_given hkeyed hentries hkey hvendor fun n hn => Place.word16_of_isNatural hn
    have hother : d.keyText? key ≠ some "product_id" := by
      rw [hkey]
      decide
    simp only [put, met, honce, Document.given_concat_of_key hkey,
      Document.given_concat_of_ne hother]
    rfl
  · have honce : p.once "product_id" (d.given "product_id" before f.product)
        (Place.word16 ⟨d, path, value⟩) = .ok f.product :=
      Place.once_of_given hkeyed hentries hkey hproduct fun n hn => Place.word16_of_isNatural hn
    have hother : d.keyText? key ≠ some "vendor_id" := by
      rw [hkey]
      decide
    simp only [put, met, honce, Document.given_concat_of_key hkey,
      Document.given_concat_of_ne hother]
    rfl

/-- The mapping of the device's numbers is read as the numbers that it gives, if these are all. -/
theorem decodeDevice_of_gives {f : DeviceFields} (h : GivesDevice d node f) :
    decodeDevice ⟨d, path, node⟩ = f.finish ⟨d, path, node⟩ := by
  obtain ⟨entries, names, hnode, hkeyed, hknown, hvendor, hproduct⟩ := h
  let p : Place := ⟨d, path, node⟩
  have hput (before : List (Node × Node)) (key value : Node) (after : List (Node × Node))
      (hentries : entries = before ++ (key, value) :: after) :
      ∃ name, d.keyText? key = some name ∧
        DeviceFields.put p (f.met d before) name { p with node := key }
          ⟨d, path ++ [Place.step key], value⟩ = .ok (f.met d (before ++ [(key, value)])) :=
    DeviceFields.put_met p _ _ hkeyed hknown hvendor hproduct hentries
  have hfold := p.foldEntries_of_put (fun met => f.met d met) hput []
  have hmet : f.met d entries = f := by
    rw [DeviceFields.met, Document.given_eq_self (eq_none_of_rel hvendor),
      Document.given_eq_self (eq_none_of_rel hproduct)]
  rw [List.append_nil, hmet] at hfold
  rw [decodeDevice, Place.entries_of_entries? hnode]
  change (p.foldEntries (DeviceFields.put p) entries (f.met d [])).bind (DeviceFields.finish p) = _
  rw [hfold]
  rfl

/-- The mapping of the log settings is read as the level that it gives, or else the default. -/
theorem decodeLogging_of_gives {level : Option String} (h : GivesLogging d node level) :
    decodeLogging ⟨d, path, node⟩ = .ok (level.getD stockLevel) := by
  obtain ⟨entries, names, hnode, hkeyed, hlevel⟩ := h
  let p : Place := ⟨d, path, node⟩
  have hput (before : List (Node × Node)) (key value : Node) (after : List (Node × Node))
      (hentries : entries = before ++ (key, value) :: after) :
      ∃ name, d.keyText? key = some name ∧
        putLogLevel p (d.given "level" before level) name { p with node := key }
          ⟨d, path ++ [Place.step key], value⟩ =
            .ok (d.given "level" (before ++ [(key, value)]) level) := by
    obtain ⟨name, -, hkey⟩ := Document.Keyed.exists_name (hentries ▸ hkeyed)
    refine ⟨name, hkey, ?_⟩
    unfold putLogLevel
    split
    · rw [Document.given_concat_of_key hkey]
      exact Place.once_of_given hkeyed hentries hkey hlevel fun text htext =>
        Place.text_of_isText htext _
    next hother =>
      have hother : d.keyText? key ≠ some "level" := by
        rw [hkey]
        exact fun h => hother (Option.some.inj h)
      rw [Document.given_concat_of_ne hother]
      rfl
  have hfold := p.foldEntries_of_put (fun met => d.given "level" met level) hput []
  rw [List.append_nil, Document.given_eq_self (eq_none_of_rel hlevel)] at hfold
  rw [decodeLogging, Place.entries_of_entries? hnode]
  change (p.foldEntries (putLogLevel p) entries (d.given "level" [] level)).bind
    (fun level => .ok (level.getD stockLevel)) = _
  rw [hfold]
  rfl

/-! ## Documents -/

/-- What a document gives of the settings; the log settings may be there without a level. -/
structure Given where
  device : Option DeviceFields := none
  readTimeoutMillis : Option UInt64 := none
  pollInterval : Option Binary64 := none
  logging : Option (Option String) := none

/-- The entries of a document give exactly this of the settings. -/
structure Gives (d : Document) (entries : List (Node × Node)) (g : Given) : Prop where
  device : Option.Rel (GivesDevice d) (d.field? "device" entries) g.device
  readTimeoutMillis : Option.Rel (fun value n => d.IsNatural value n.toNat)
    (d.field? "read_timeout_ms" entries) g.readTimeoutMillis
  pollInterval : Option.Rel d.IsFloat (d.field? "poll_interval" entries) g.pollInterval
  logging : Option.Rel (GivesLogging d) (d.field? "logging" entries) g.logging

/-- The numbers of a device, if both are there. -/
def DeviceFields.both? (f : DeviceFields) : Option DeviceId :=
  match f.vendor, f.product with
  | some vendor, some product => some ⟨vendor, product⟩
  | _, _ => none

/-- Both numbers make the numbers of a device. -/
theorem DeviceFields.finish_of_both? {f : DeviceFields} {id : DeviceId} (h : f.both? = some id)
    (p : Place) : f.finish p = .ok id := by
  obtain ⟨vendor, product⟩ := f
  cases vendor with
  | none => cases h
  | some vendor =>
    cases product with
    | none => cases h
    | some product => exact congrArg Except.ok (Option.some.inj h)

/-- The settings that are read from what a document gives. -/
def Given.fields (g : Given) : Fields where
  device := g.device.bind DeviceFields.both?
  readTimeoutMillis := g.readTimeoutMillis
  pollInterval := g.pollInterval
  logLevel := g.logging.map (·.getD stockLevel)

/-- The settings that belong to keys that were met. -/
def Fields.met (d : Document) (entries : List (Node × Node)) (f : Fields) : Fields where
  device := d.given "device" entries f.device
  readTimeoutMillis := d.given "read_timeout_ms" entries f.readTimeoutMillis
  pollInterval := d.given "poll_interval" entries f.pollInterval
  logLevel := d.given "logging" entries f.logLevel

variable {entries before after : List (Node × Node)} {names : List String} {key value : Node}
  {g : Given}

/-- The mapping of the log settings gives the level that is read from it. -/
theorem Gives.logLevel (h : Gives d entries g) :
    Option.Rel (fun value level => ∀ path, decodeLogging ⟨d, path, value⟩ = .ok level)
      (d.field? "logging" entries) g.fields.logLevel := by
  have hlogging := h.logging
  unfold Given.fields
  generalize d.field? "logging" entries = node?, g.logging = level? at hlogging ⊢
  cases hlogging with
  | none => exact .none
  | some hgives => exact .some fun path => decodeLogging_of_gives hgives

/-- All that a document gives belongs to keys of the document. -/
theorem Gives.fields_met (h : Gives d entries g) : g.fields.met d entries = g.fields := by
  have hdevice (hnone : d.field? "device" entries = none) : g.fields.device = none := by
    rw [Given.fields, eq_none_of_rel h.device hnone]
    rfl
  rw [Fields.met, Document.given_eq_self hdevice,
    Document.given_eq_self (a := g.fields.readTimeoutMillis) (eq_none_of_rel h.readTimeoutMillis),
    Document.given_eq_self (a := g.fields.pollInterval) (eq_none_of_rel h.pollInterval),
    Document.given_eq_self (eq_none_of_rel h.logLevel)]

/-- One more entry of a document is read as what it gives, if the numbers of the device can be read
in case it gives those. -/
theorem Fields.put_met (p keyPlace : Place) (path : Path) (hkeyed : d.Keyed entries names)
    (hgives : Gives d entries g) (hentries : entries = before ++ (key, value) :: after)
    (hdevice : d.keyText? key = some "device" →
      ∃ id, g.fields.device = some id ∧ decodeDevice ⟨d, path, value⟩ = .ok id) :
    ∃ name, d.keyText? key = some name ∧
      Fields.put p (g.fields.met d before) name keyPlace ⟨d, path, value⟩ =
        .ok (g.fields.met d (before ++ [(key, value)])) := by
  obtain ⟨name, -, hkey⟩ := Document.Keyed.exists_name (hentries ▸ hkeyed)
  refine ⟨name, hkey, ?_⟩
  -- an entry adds nothing to the fields with other keys
  have hother {α : Type} (other : String) (hne : name ≠ other) (a : Option α) :
      d.given other (before ++ [(key, value)]) a = d.given other before a := by
    apply Document.given_concat_of_ne
    rw [hkey]
    exact fun h => hne (Option.some.inj h)
  have hsame {α : Type} (a : Option α) : d.given name (before ++ [(key, value)]) a = a :=
    Document.given_concat_of_key hkey
  unfold Fields.put
  split
  · obtain ⟨id, hid, hread⟩ := hdevice hkey
    have hfield : Option.Rel (fun _ id => decodeDevice ⟨d, path, value⟩ = .ok id)
        (d.field? "device" entries) g.fields.device := by
      have hfound := Document.Keyed.field?_eq_some (hentries ▸ hkeyed) hkey
      rw [← hentries] at hfound
      rw [hfound, hid]
      exact .some hread
    have honce : p.once "device" (g.fields.met d before).device (decodeDevice ⟨d, path, value⟩) =
        .ok g.fields.device := Place.once_of_given hkeyed hentries hkey hfield fun _ h => h
    rw [honce]
    simp only [met, hsame, hother "read_timeout_ms" (by decide), hother "poll_interval" (by decide),
      hother "logging" (by decide)]
    rfl
  · have honce : p.once "read_timeout_ms" (g.fields.met d before).readTimeoutMillis
        (Place.word64 ⟨d, path, value⟩) = .ok g.fields.readTimeoutMillis :=
      Place.once_of_given hkeyed hentries hkey hgives.readTimeoutMillis
        fun _ h => Place.word64_of_isNatural h
    rw [honce]
    simp only [met, hsame, hother "device" (by decide), hother "poll_interval" (by decide),
      hother "logging" (by decide)]
    rfl
  · have honce : p.once "poll_interval" (g.fields.met d before).pollInterval
        (Place.float ⟨d, path, value⟩) = .ok g.fields.pollInterval :=
      Place.once_of_given hkeyed hentries hkey hgives.pollInterval
        fun _ h => Place.float_of_isFloat h
    rw [honce]
    simp only [met, hsame, hother "device" (by decide), hother "read_timeout_ms" (by decide),
      hother "logging" (by decide)]
    rfl
  · have honce : p.once "logging" (g.fields.met d before).logLevel
        (decodeLogging ⟨d, path, value⟩) = .ok g.fields.logLevel :=
      Place.once_of_given hkeyed hentries hkey hgives.logLevel fun _ h => h path
    rw [honce]
    simp only [met, hsame, hother "device" (by decide), hother "read_timeout_ms" (by decide),
      hother "poll_interval" (by decide)]
    rfl
  next hdevice htimeout hinterval hlogging =>
    simp only [met, hother "device" hdevice, hother "read_timeout_ms" htimeout,
      hother "poll_interval" hinterval, hother "logging" hlogging]
    rfl

/-- The first entries of a document are read as what they give, if the numbers of the device can be
read in case they give those. -/
theorem Fields.fold_met (hkeyed : d.Keyed entries names) (hgives : Gives d entries g)
    (hentries : entries = before ++ after)
    (hdevice : ∀ key value, (key, value) ∈ before → d.keyText? key = some "device" →
      ∃ id, g.fields.device = some id ∧ ∀ path, decodeDevice ⟨d, path, value⟩ = .ok id) :
    let p : Place := ⟨d, [], d.root⟩
    p.foldEntries (Fields.put p) entries {} =
      p.foldEntries (Fields.put p) after (g.fields.met d before) := by
  intro p
  have hput (before' : List (Node × Node)) (key value : Node) (after' : List (Node × Node))
      (hbefore : before = before' ++ (key, value) :: after') :
      ∃ name, d.keyText? key = some name ∧
        Fields.put p (g.fields.met d before') name { p with node := key }
          ⟨d, p.path ++ [Place.step key], value⟩ =
            .ok (g.fields.met d (before' ++ [(key, value)])) := by
    have hsplit : entries = before' ++ (key, value) :: (after' ++ after) := by
      rw [hentries, hbefore, List.append_assoc]
      rfl
    refine Fields.put_met p _ _ hkeyed hgives hsplit ?_
    intro hkey
    have hmem : (key, value) ∈ before := by
      rw [hbefore]
      exact List.mem_append_right _ List.mem_cons_self
    obtain ⟨id, hid, hread⟩ := hdevice key value hmem hkey
    exact ⟨id, hid, hread _⟩
  rw [hentries]
  exact p.foldEntries_of_put (fun met => g.fields.met d met) hput after

/-- A document is read entry by entry. -/
theorem ofDocument_eq_fold (hroot : d.entries? d.root = some entries) :
    let p : Place := ⟨d, [], d.root⟩
    ofDocument d = (p.foldEntries (Fields.put p) entries {}).map Fields.finish := by
  intro p
  rw [ofDocument, Place.entries_of_entries? hroot]
  change (p.foldEntries (Fields.put p) entries {}).bind (fun f => .ok f.finish) = _
  cases p.foldEntries (Fields.put p) entries {} <;> rfl

/-- A document that gives no numbers of the device or both is read as what it gives. -/
theorem ofDocument_of_gives (hroot : d.entries? d.root = some entries)
    (hkeyed : d.Keyed entries names) (hgives : Gives d entries g)
    (hboth : ∀ f, g.device = some f → ∃ id, f.both? = some id) :
    ofDocument d = .ok g.fields.finish := by
  have hdevice (key value : Node) (hmem : (key, value) ∈ entries)
      (hkey : d.keyText? key = some "device") :
      ∃ id, g.fields.device = some id ∧ ∀ path, decodeDevice ⟨d, path, value⟩ = .ok id := by
    obtain ⟨before, after, rfl⟩ := List.append_of_mem hmem
    have hrel := hgives.device
    rw [hkeyed.field?_eq_some hkey] at hrel
    obtain ⟨f, hf, hnumbers⟩ := exists_of_rel_some hrel
    obtain ⟨id, hid⟩ := hboth f hf
    refine ⟨id, ?_, ?_⟩
    · rw [Given.fields, hf]
      exact hid
    · intro path
      rw [decodeDevice_of_gives hnumbers, DeviceFields.finish_of_both? hid]
  rw [ofDocument_eq_fold hroot,
    Fields.fold_met hkeyed hgives (List.append_nil entries).symm hdevice, hgives.fields_met]
  rfl

/-- A document with numbers of a device that cannot be finished is refused for this reason. -/
theorem ofDocument_of_unfinished {f : DeviceFields} {problem : Problem}
    (hroot : d.entries? d.root = some entries) (hkeyed : d.Keyed entries names)
    (hgives : Gives d entries g) (hdevice : g.device = some f)
    (hunfinished : ∀ p, f.finish p = p.fail problem) :
    ∃ path mark, ofDocument d = .error ⟨problem, path, mark⟩ := by
  have hrel := hgives.device
  rw [hdevice] at hrel
  obtain ⟨value, hfound, hnumbers⟩ := exists_rel_of_some hrel
  obtain ⟨before, key, after, hentries, hkey, hbefore⟩ := Document.exists_entry_of_field? hfound
  -- what comes before the device is read, and then the device is not
  have hread := Fields.fold_met hkeyed hgives hentries fun key value hmem hkey =>
    absurd hkey (Document.field?_eq_none_iff.mp hbefore _ hmem)
  have honce (p : Place) (path : Path) :
      p.once "device" (g.fields.met d before).device (decodeDevice ⟨d, path, value⟩) =
        .error ⟨problem, path, (d.resolve value).mark⟩ := by
    change p.once "device" (d.given "device" before g.fields.device) _ = _
    rw [Document.given_of_field?_none hbefore, decodeDevice_of_gives hnumbers, hunfinished]
    rfl
  refine ⟨[] ++ [Place.step key], (d.resolve value).mark, ?_⟩
  rw [ofDocument_eq_fold hroot, hread, Place.foldEntries_cons hkey, Fields.put, honce]
  rfl

/-! ## Configuration files -/

/-- A file with a document is loaded as what the document is read as. -/
theorem load_of_document {read : String → Except String ByteArray} {file text : String}
    {bytes : ByteArray} (hread : read file = .ok bytes)
    (htext : String.fromUTF8? bytes = some text) (hparsed : Document.ofText text = .ok d) :
    load read (some file) = (ofDocument d).mapError .unsuitable := by
  have hfile : ofFile file (.ok bytes) = ofText text := by
    unfold ofFile
    simp only [htext]
  rw [load, hread, hfile, ofText, hparsed]

/-- What a configuration file gives is taken, and everything else has its default, for every choice
of keys, in every order, with all values of the right type and in range.

There is one exception: a mapping for the device that gives none or only one of its numbers is
refused for want of the other, although the device has default numbers. -/
theorem load_of_given {read : String → Except String ByteArray} {file text : String}
    {bytes : ByteArray} (hread : read file = .ok bytes)
    (htext : String.fromUTF8? bytes = some text) (hparsed : Document.ofText text = .ok d)
    (hroot : d.entries? d.root = some entries) (hkeyed : d.Keyed entries names)
    (hgives : Gives d entries g) :
    (g.device = none ∨ (∃ vendor product, g.device = some ⟨some vendor, some product⟩) →
      ∃ settings, load read (some file) = .ok settings ∧
        settings.device.vendor = (g.device.bind (·.vendor)).getD 0x1209 ∧
        settings.device.product = (g.device.bind (·.product)).getD 0x4321 ∧
        settings.readTimeoutMillis = g.readTimeoutMillis.getD 4000 ∧
        settings.pollInterval = g.pollInterval.getD ⟨0x4014000000000000⟩ ∧
        settings.logLevel = g.logging.join.getD "info") ∧
    (∀ product, g.device = some ⟨none, product⟩ → ∃ path mark,
      load read (some file) = .error (.unsuitable ⟨.missingField "vendor_id", path, mark⟩)) ∧
    (∀ vendor, g.device = some ⟨some vendor, none⟩ → ∃ path mark,
      load read (some file) = .error (.unsuitable ⟨.missingField "product_id", path, mark⟩)) := by
  rw [load_of_document hread htext hparsed]
  refine ⟨?_, ?_, ?_⟩
  · intro hdevice
    have hboth (f : DeviceFields) (hf : g.device = some f) : ∃ id, f.both? = some id := by
      rcases hdevice with hnone | ⟨vendor, product, hsome⟩
      · rw [hnone] at hf
        cases hf
      · rw [hsome] at hf
        obtain rfl := Option.some.inj hf
        exact ⟨⟨vendor, product⟩, rfl⟩
    have hid : g.fields.finish.device = ⟨(g.device.bind (·.vendor)).getD 0x1209,
        (g.device.bind (·.product)).getD 0x4321⟩ := by
      rw [Fields.finish, Given.fields]
      rcases hdevice with hnone | ⟨vendor, product, hsome⟩
      · rw [hnone]
        rfl
      · rw [hsome]
        rfl
    have hlevel : g.fields.finish.logLevel = g.logging.join.getD "info" := by
      rw [Fields.finish, Given.fields]
      cases g.logging with
      | none => rfl
      | some level => rfl
    rw [ofDocument_of_gives hroot hkeyed hgives hboth]
    refine ⟨g.fields.finish, rfl, ?_, ?_, rfl, rfl, hlevel⟩
    · rw [hid]
    · rw [hid]
  · intro product hdevice
    have hunfinished (p : Place) : DeviceFields.finish p ⟨none, product⟩ =
        p.fail (.missingField "vendor_id") := rfl
    obtain ⟨path, mark, h⟩ := ofDocument_of_unfinished hroot hkeyed hgives hdevice hunfinished
    rw [h]
    exact ⟨path, mark, rfl⟩
  · intro vendor hdevice
    have hunfinished (p : Place) : DeviceFields.finish p ⟨some vendor, none⟩ =
        p.fail (.missingField "product_id") := rfl
    obtain ⟨path, mark, h⟩ := ofDocument_of_unfinished hroot hkeyed hgives hdevice hunfinished
    rw [h]
    exact ⟨path, mark, rfl⟩

/-- A file with the vendor of the device alone is refused, and a file with a level and an interval,
in this order, is loaded with the defaults for everything else. -/
theorem load_of_partial_files :
    (∃ path mark, load (fun _ => .ok "device:\n  vendor_id: 5840\n".toUTF8) (some "config.yaml") =
      .error (.unsuitable ⟨.missingField "product_id", path, mark⟩)) ∧
    ∃ settings, load (fun _ => .ok "logging:\n  level: debug\npoll_interval: 2.5\n".toUTF8)
        (some "config.yaml") = .ok settings ∧
      settings.device.vendor = 0x1209 ∧ settings.device.product = 0x4321 ∧
      settings.readTimeoutMillis = 4000 ∧ settings.pollInterval = ⟨0x4004000000000000⟩ ∧
      settings.logLevel = "debug" := by
  constructor
  · let numbers : List (Node × Node) := [(.scalar ⟨10, 1, 2⟩ none .plain "vendor_id",
      .scalar ⟨21, 1, 13⟩ none .plain "5840")]
    let entries : List (Node × Node) :=
      [(.scalar ⟨0, 0, 0⟩ none .plain "device", .mapping ⟨10, 1, 2⟩ numbers)]
    let d : Document := .ofNode (.mapping ⟨0, 0, 0⟩ entries)
    have hparsed : Document.ofText "device:\n  vendor_id: 5840\n" = .ok d := by cbv
    have hkeyed : d.Keyed entries ["device"] := ⟨rfl, by decide⟩
    have hgives : Gives d entries { device := some { vendor := some 5840 } } := by
      refine ⟨.some ⟨numbers, ["vendor_id"], rfl, ⟨rfl, by decide⟩, by decide, .some ?_, .none⟩,
        .none, .none, .none⟩
      exact ⟨⟨21, 1, 13⟩, none, .plain, "5840", rfl, .inl rfl, by decide⟩
    exact (load_of_given rfl rfl hparsed rfl hkeyed hgives).2.2 5840 rfl
  · let levels : List (Node × Node) := [(.scalar ⟨11, 1, 2⟩ none .plain "level",
      .scalar ⟨18, 1, 9⟩ none .plain "debug")]
    let entries : List (Node × Node) :=
      [(.scalar ⟨0, 0, 0⟩ none .plain "logging", .mapping ⟨11, 1, 2⟩ levels),
        (.scalar ⟨24, 2, 0⟩ none .plain "poll_interval", .scalar ⟨39, 2, 15⟩ none .plain "2.5")]
    let d : Document := .ofNode (.mapping ⟨0, 0, 0⟩ entries)
    have hparsed : Document.ofText "logging:\n  level: debug\npoll_interval: 2.5\n" = .ok d := by
      cbv
    have hkeyed : d.Keyed entries ["logging", "poll_interval"] := ⟨rfl, by decide⟩
    have hgives : Gives d entries
        { pollInterval := some ⟨0x4004000000000000⟩, logging := some (some "debug") } := by
      refine ⟨.none, .none, .some ?_, .some ⟨levels, ["level"], rfl, ⟨rfl, by decide⟩, .some ?_⟩⟩
      · exact ⟨⟨39, 2, 15⟩, none, .plain, "2.5", rfl, .inl rfl, by decide +kernel⟩
      · exact ⟨⟨18, 1, 9⟩, none, .plain, rfl⟩
    exact (load_of_given rfl rfl hparsed rfl hkeyed hgives).1 (.inl rfl)

end Settings

end BatteryWatch
