import BatteryWatch.Proofs.Settings.Integers

/-!
# What documents are read

Exactly which documents give settings, and which settings they give, said without the order in which
entries are read: every key is a text, every known key occurs at most once and has a value of its
kind (`Settings.Takes`), and the mapping of the device's numbers has both of its keys and no other
(`Settings.IsDevice`). `Settings.ofDocument_eq_ok_iff` says it of whole documents.
-/

namespace BatteryWatch

namespace Yaml.Document

variable (d : Document)

/-- The values of the entries with a given key. -/
def values (name : String) (entries : List (Node × Node)) : List Node :=
  (entries.filter fun entry => d.keyText? entry.1 == some name).map (·.2)

/-- Every key is a text, one of those that are allowed. -/
def KeysIn (allowed : String → Prop) (entries : List (Node × Node)) : Prop :=
  ∀ entry ∈ entries, ∃ name, d.keyText? entry.1 = some name ∧ allowed name

variable {d} {key value : Node} {entries : List (Node × Node)} {name : String}

/-- The text of a key is that of its scalar. -/
theorem keyText?_eq_some_iff : d.keyText? key = some name ↔ d.IsText key name := by
  unfold keyText? IsText
  split
  next mark tag style text hkey => simp [hkey]
  next hkey =>
    constructor
    · rintro ⟨⟩
    · rintro ⟨mark, tag, style, h⟩
      exact absurd h (hkey mark tag style name)

/-- An entry with the key has its value first. -/
theorem values_cons_of_key (hkey : d.keyText? key = some name) :
    d.values name ((key, value) :: entries) = value :: d.values name entries := by
  simp [values, hkey]

/-- An entry with another key does not count. -/
theorem values_cons_of_ne (hkey : d.keyText? key ≠ some name) :
    d.values name ((key, value) :: entries) = d.values name entries := by
  simp [values, hkey]

/-- Without entries all keys are allowed. -/
theorem keysIn_nil {allowed : String → Prop} : d.KeysIn allowed [] := List.forall_mem_nil _

/-- The keys of one more entry and the others are allowed if its key is and theirs are. -/
theorem keysIn_cons {allowed : String → Prop} :
    d.KeysIn allowed ((key, value) :: entries) ↔
      (∃ name, d.keyText? key = some name ∧ allowed name) ∧ d.KeysIn allowed entries :=
  List.forall_mem_cons

end Yaml.Document

namespace Settings

open Yaml (Document Node)

variable {d : Document} {path : Path} {node : Node}

/-! ## Values -/

/-- What follows something is there if that is there and what follows it is. -/
theorem bind_eq_ok_iff {ε α β : Type} {x : Except ε α} {f : α → Except ε β} {b : β} :
    x.bind f = .ok b ↔ ∃ a, x = .ok a ∧ f a = .ok b := by
  cases x with
  | error e =>
    constructor
    · rintro ⟨⟩
    · rintro ⟨_, ⟨⟩, _⟩
  | ok a => simp [Except.bind]

/-- What is made of something is there if that is. -/
theorem exists_of_return_eq_ok {ε α β : Type} {x : Except ε α} {f : α → β} {b : β} :
    (do return f (← x)) = (Except.ok b : Except ε β) ↔ ∃ a, x = .ok a ∧ b = f a := by
  cases x with
  | error e =>
    constructor
    · rintro ⟨⟩
    · rintro ⟨_, ⟨⟩, _⟩
  | ok a =>
    constructor
    · intro h
      exact ⟨a, rfl, (Except.ok.inj h).symm⟩
    · rintro ⟨_, ha, rfl⟩
      obtain rfl := Except.ok.inj ha
      rfl

namespace Place

/-- Nothing is read from a node of the wrong type. -/
theorem wrongType_ne_ok {α : Type} (p : Place) (expected : String) (a : α) :
    p.wrongType expected ≠ .ok a := by
  have hfail (problem : Problem) : p.fail problem ≠ .ok a := by
    rintro ⟨⟩
  unfold wrongType
  split
  · split
    · exact hfail _
    · exact hfail _
  · exact hfail _
  · exact hfail _
  · exact hfail _

/-- What is read as a natural number is one below `2 ^ 64`. -/
theorem natural64_eq_ok_iff {n : Nat} {expected : String} :
    natural64 ⟨d, path, node⟩ expected = .ok n ↔ d.IsNatural node n ∧ n < UInt64.size := by
  constructor
  · intro h
    unfold natural64 target at h
    split at h
    next mark tag style text hnode =>
      split at h
      next k hread =>
        split at hread
        next hnumeric =>
          split at h
          next hsmall =>
            obtain rfl := Except.ok.inj h
            exact ⟨⟨mark, tag, style, text, hnode, isNumeric_iff.mp hnumeric, hread⟩, hsmall⟩
          · exact absurd h (wrongType_ne_ok _ _ _)
        · cases hread
      · exact absurd h (wrongType_ne_ok _ _ _)
    · exact absurd h (wrongType_ne_ok _ _ _)
  · rintro ⟨hnatural, hsmall⟩
    exact natural64_of_isNatural hnatural hsmall expected

/-- What is read as a number of sixty-four bits. -/
theorem word64_eq_ok_iff {n : UInt64} :
    word64 ⟨d, path, node⟩ = .ok n ↔ d.IsNatural node n.toNat := by
  constructor
  · intro h
    unfold word64 at h
    cases hread : natural64 ⟨d, path, node⟩ "u64" with
    | error e =>
      rw [hread] at h
      cases h
    | ok k =>
      rw [hread] at h
      obtain rfl := Except.ok.inj h
      obtain ⟨hnatural, hsmall⟩ := natural64_eq_ok_iff.mp hread
      rwa [UInt64.toNat_ofNat_of_lt' hsmall]
  · exact word64_of_isNatural

/-- What is read as a number of sixteen bits. -/
theorem word16_eq_ok_iff {n : UInt16} :
    word16 ⟨d, path, node⟩ = .ok n ↔ d.IsNatural node n.toNat := by
  constructor
  · intro h
    unfold word16 at h
    cases hread : natural64 ⟨d, path, node⟩ "u16" with
    | error e =>
      rw [hread] at h
      cases h
    | ok k =>
      rw [hread] at h
      change (if k < UInt16.size then Except.ok (UInt16.ofNat k) else _) = _ at h
      split at h
      next hsmall =>
        obtain rfl := Except.ok.inj h
        rw [UInt16.toNat_ofNat_of_lt' hsmall]
        exact (natural64_eq_ok_iff.mp hread).1
      · cases h
  · exact word16_of_isNatural

/-- What is read as a floating point number. -/
theorem float_eq_ok_iff {x : Binary64} :
    float ⟨d, path, node⟩ = .ok x ↔ d.IsFloat node x := by
  constructor
  · intro h
    unfold float target at h
    split at h
    next mark tag style text hnode =>
      split at h
      next y hread =>
        split at hread
        next hnumeric =>
          obtain rfl := Except.ok.inj h
          exact ⟨mark, tag, style, text, hnode, isNumeric_iff.mp hnumeric, hread⟩
        · cases hread
      · exact absurd h (wrongType_ne_ok _ _ _)
    · exact absurd h (wrongType_ne_ok _ _ _)
  · exact float_of_isFloat

/-- What is read as a text. -/
theorem text_eq_ok_iff {text expected : String} :
    Place.text ⟨d, path, node⟩ expected = .ok text ↔ d.IsText node text := by
  constructor
  · intro h
    unfold Place.text target at h
    split at h
    next mark tag style text hnode =>
      obtain rfl := Except.ok.inj h
      exact ⟨mark, tag, style, hnode⟩
    · exact absurd h (wrongType_ne_ok _ _ _)
  · intro h
    exact text_of_isText h expected

/-- What is read as a mapping has its entries. -/
theorem entries_eq_ok_iff {entries : List (Node × Node)} {expected : String} :
    Place.entries ⟨d, path, node⟩ expected = .ok entries ↔ d.entries? node = some entries := by
  constructor
  · intro h
    unfold Place.entries target at h
    unfold Document.entries?
    split at h
    next hnode =>
      obtain rfl := Except.ok.inj h
      rw [hnode]
    next hnode =>
      split at h
      next hempty =>
        obtain rfl := Except.ok.inj h
        simp only [hnode, if_pos hempty]
      · exact absurd h (wrongType_ne_ok _ _ _)
    · exact absurd h (wrongType_ne_ok _ _ _)
  · intro h
    exact entries_of_entries? h expected

/-- A field is read if it was not read before. -/
theorem once_eq_ok_iff {α : Type} {p : Place} {name : String} {before after : Option α}
    {read : Except DecodeError α} :
    p.once name before read = .ok after ↔ before = none ∧ ∃ a, read = .ok a ∧ after = some a := by
  cases before with
  | some b =>
    constructor
    · rintro ⟨⟩
    · rintro ⟨⟨⟩, _⟩
  | none =>
    cases read with
    | error e =>
      constructor
      · rintro ⟨⟩
      · rintro ⟨_, _, ⟨⟩, _⟩
    | ok a =>
      constructor
      · intro h
        exact ⟨rfl, a, rfl, (Except.ok.inj h).symm⟩
      · rintro ⟨-, _, ha, rfl⟩
        obtain rfl := Except.ok.inj ha
        rfl

variable {α : Type} {put : α → String → Place → Place → Except DecodeError α}

/-- Entries are read if the first key is a text, the first entry is read and the others are read
after it. -/
theorem foldEntries_cons_eq_ok_iff {p : Place} {key value : Node} {rest : List (Node × Node)}
    {a b : α} :
    p.foldEntries put ((key, value) :: rest) a = .ok b ↔
      ∃ name, p.document.keyText? key = some name ∧ ∃ c,
        put a name { p with node := key } ⟨p.document, p.path ++ [step key], value⟩ = .ok c ∧
          p.foldEntries put rest c = .ok b := by
  cases hkey : p.document.keyText? key with
  | none =>
    have hrefused (name : String) :
        Place.text { p with node := key } "field identifier" ≠ .ok name := by
      intro h
      rw [Document.keyText?_eq_some_iff.mpr (text_eq_ok_iff.mp h)] at hkey
      cases hkey
    rw [foldEntries]
    cases hread : Place.text { p with node := key } "field identifier" with
    | error e =>
      constructor
      · rintro ⟨⟩
      · rintro ⟨_, ⟨⟩, _⟩
    | ok name => exact absurd hread (hrefused name)
  | some name =>
    rw [foldEntries_cons hkey]
    simp only [Option.some.injEq, exists_eq_left']
    cases put a name { p with node := key } ⟨p.document, p.path ++ [step key], value⟩ with
    | error e =>
      constructor
      · rintro ⟨⟩
      · rintro ⟨_, ⟨⟩, _⟩
    | ok c => simp [Except.bind]

/-- Entries are read if all their keys are allowed and they make one thing of another, where `Step`
says what one entry makes of what was read before it and `Run` what all of them make of it. -/
theorem foldEntries_eq_ok_iff {p : Place} {allowed : String → Prop}
    (Step : String → Node → α → α → Prop) (Run : List (Node × Node) → α → α → Prop)
    (hput : ∀ a name keyPlace path value b, put a name keyPlace ⟨p.document, path, value⟩ = .ok b ↔
      allowed name ∧ Step name value a b)
    (hnil : ∀ a b, Run [] a b ↔ b = a)
    (hcons : ∀ key value name rest a b, p.document.keyText? key = some name →
      (Run ((key, value) :: rest) a b ↔ ∃ c, Step name value a c ∧ Run rest c b))
    {entries : List (Node × Node)} {a b : α} :
    p.foldEntries put entries a = .ok b ↔
      p.document.KeysIn allowed entries ∧ Run entries a b := by
  induction entries generalizing a with
  | nil =>
    rw [hnil]
    constructor
    · rintro ⟨⟩
      exact ⟨Document.keysIn_nil, rfl⟩
    · rintro ⟨-, rfl⟩
      rfl
  | cons entry rest ih =>
    obtain ⟨key, value⟩ := entry
    rw [foldEntries_cons_eq_ok_iff, Document.keysIn_cons]
    constructor
    · rintro ⟨name, hkey, c, hread, hrest⟩
      obtain ⟨hallowed, hstep⟩ := (hput _ _ _ _ _ _).mp hread
      obtain ⟨hkeys, hrun⟩ := ih.mp hrest
      exact ⟨⟨⟨name, hkey, hallowed⟩, hkeys⟩, (hcons _ _ _ _ _ _ hkey).mpr ⟨c, hstep, hrun⟩⟩
    · rintro ⟨⟨⟨name, hkey, hallowed⟩, hkeys⟩, hrun⟩
      obtain ⟨c, hstep, hrun⟩ := (hcons _ _ _ _ _ _ hkey).mp hrun
      exact ⟨name, hkey, c, (hput _ _ _ _ _ _).mpr ⟨hallowed, hstep⟩, ih.mpr ⟨hkeys, hrun⟩⟩

end Place

/-! ## Fields -/

/-- What the values of one key make of its field: none leave it as it is, and a single one of the
right kind sets it if it is not set. -/
inductive Takes {α : Type} (R : Node → α → Prop) : List Node → Option α → Option α → Prop
  | nothing (a : Option α) : Takes R [] a a
  | value {v : Node} {a : α} (h : R v a) : Takes R [v] none (some a)

/-- What an entry with the key `name` makes of the field with the key `own`: it leaves it as it is
if the keys differ, and otherwise sets it if it is not set. -/
def Puts {α : Type} (R : Node → α → Prop) (own name : String) (value : Node)
    (before after : Option α) : Prop :=
  if name = own then before = none ∧ ∃ a, R value a ∧ after = some a else after = before

section

variable {α : Type} {R : Node → α → Prop} {own name : String} {key value : Node}
  {before after : Option α}

/-- An entry with another key leaves the field as it is. -/
theorem puts_of_ne (hne : name ≠ own) :
    Puts R own name value before after ↔ after = before := by
  rw [Puts, if_neg hne]

/-- No values leave the field as it is. -/
theorem takes_nil : Takes R [] before after ↔ after = before := by
  constructor
  · rintro ⟨⟩
    rfl
  · rintro rfl
    exact .nothing after

/-- Of several values the first must set the field, and the others must leave it. -/
theorem takes_cons {values : List Node} :
    Takes R (value :: values) before after ↔
      before = none ∧ ∃ a, R value a ∧ Takes R values (some a) after := by
  constructor
  · rintro ⟨⟩
    next h => exact ⟨rfl, _, h, .nothing _⟩
  · rintro ⟨rfl, a, h, ⟨⟩⟩
    exact .value h

/-- The values of a key in some entries make of its field what the first entry and then the values
in the others make of it. -/
theorem takes_values_cons (hkey : d.keyText? key = some name) (rest : List (Node × Node)) :
    Takes R (d.values own ((key, value) :: rest)) before after ↔
      ∃ a, Puts R own name value before a ∧ Takes R (d.values own rest) a after := by
  unfold Puts
  by_cases hown : name = own
  · subst hown
    rw [Document.values_cons_of_key hkey, takes_cons]
    simp only [if_pos]
    constructor
    · rintro ⟨hnone, a, hvalue, hrest⟩
      exact ⟨some a, ⟨hnone, a, hvalue, rfl⟩, hrest⟩
    · rintro ⟨_, ⟨hnone, a, hvalue, rfl⟩, hrest⟩
      exact ⟨hnone, a, hvalue, hrest⟩
  · have hother : d.keyText? key ≠ some own := by
      rw [hkey]
      exact fun h => hown (Option.some.inj h)
    rw [Document.values_cons_of_ne hother]
    simp only [if_neg hown, exists_eq_left]

/-- A field that is read once is put by an entry with its key. -/
theorem once_iff_puts {p : Place} {read : Except DecodeError α}
    (hread : ∀ a, read = .ok a ↔ R value a) :
    p.once own before read = .ok after ↔ Puts R own own value before after := by
  rw [Place.once_eq_ok_iff, Puts, if_pos rfl]
  simp only [hread]

end

/-! ## The numbers of the device -/

/-- The node is a number of sixteen bits. -/
def IsWord16 (d : Document) (node : Node) (n : UInt16) : Prop := d.IsNatural node n.toNat

/-- The node is a number of sixty-four bits. -/
def IsWord64 (d : Document) (node : Node) (n : UInt64) : Prop := d.IsNatural node n.toNat

/-- The node is a mapping with the numbers of a device and nothing else. -/
def IsDevice (d : Document) (node : Node) (id : DeviceId) : Prop :=
  ∃ numbers, d.entries? node = some numbers ∧ d.KeysIn (· ∈ deviceKeys) numbers ∧
    Takes (IsWord16 d) (d.values "vendor_id" numbers) none (some id.vendor) ∧
    Takes (IsWord16 d) (d.values "product_id" numbers) none (some id.product)

/-- An entry of the mapping of the device's numbers is read if it is put into the field of its
key. -/
theorem DeviceFields.put_eq_ok_iff {p key : Place} {f g : DeviceFields} {name : String} :
    DeviceFields.put p f name key ⟨d, path, node⟩ = .ok g ↔
      name ∈ deviceKeys ∧ Puts (IsWord16 d) "vendor_id" name node f.vendor g.vendor ∧
        Puts (IsWord16 d) "product_id" name node f.product g.product := by
  have hread (n : UInt16) : Place.word16 ⟨d, path, node⟩ = .ok n ↔ IsWord16 d node n :=
    Place.word16_eq_ok_iff
  obtain ⟨vendor, product⟩ := g
  unfold DeviceFields.put
  split
  · rw [exists_of_return_eq_ok]
    simp only [once_iff_puts hread, puts_of_ne, ne_eq, String.reduceEq, not_false_eq_true]
    constructor
    · rintro ⟨_, hvendor, ⟨⟩⟩
      exact ⟨by decide, hvendor, rfl⟩
    · rintro ⟨-, hvendor, rfl⟩
      exact ⟨vendor, hvendor, rfl⟩
  · rw [exists_of_return_eq_ok]
    simp only [once_iff_puts hread, puts_of_ne, ne_eq, String.reduceEq, not_false_eq_true]
    constructor
    · rintro ⟨_, hproduct, ⟨⟩⟩
      exact ⟨by decide, rfl, hproduct⟩
    · rintro ⟨-, rfl, hproduct⟩
      exact ⟨product, hproduct, rfl⟩
  next hvendor hproduct =>
    constructor
    · rintro ⟨⟩
    · rintro ⟨hname, -⟩
      rcases List.mem_pair.mp hname with rfl | rfl
      · exact absurd rfl hvendor
      · exact absurd rfl hproduct

/-- The entries of the mapping of the device's numbers are read if all their keys are known and
their values are those of the fields. -/
theorem DeviceFields.fold_eq_ok_iff {p : Place} {entries : List (Node × Node)}
    {f g : DeviceFields} :
    p.foldEntries (DeviceFields.put p) entries f = .ok g ↔
      p.document.KeysIn (· ∈ deviceKeys) entries ∧
        Takes (IsWord16 p.document) (p.document.values "vendor_id" entries) f.vendor g.vendor ∧
        Takes (IsWord16 p.document) (p.document.values "product_id" entries) f.product
          g.product := by
  refine Place.foldEntries_eq_ok_iff
    (fun name value (f g : DeviceFields) =>
      Puts (IsWord16 p.document) "vendor_id" name value f.vendor g.vendor ∧
      Puts (IsWord16 p.document) "product_id" name value f.product g.product)
    (fun entries (f g : DeviceFields) =>
      Takes (IsWord16 p.document) (p.document.values "vendor_id" entries) f.vendor g.vendor ∧
      Takes (IsWord16 p.document) (p.document.values "product_id" entries) f.product g.product)
    (fun _ _ _ _ _ _ => put_eq_ok_iff) ?_ ?_
  · rintro f ⟨vendor, product⟩
    constructor
    · rintro ⟨hvendor, hproduct⟩
      obtain rfl := takes_nil.mp hvendor
      obtain rfl := takes_nil.mp hproduct
      rfl
    · rintro rfl
      exact ⟨.nothing _, .nothing _⟩
  · intro key value name rest f g hkey
    rw [takes_values_cons hkey, takes_values_cons hkey]
    constructor
    · rintro ⟨⟨vendor, hvendor, hvendors⟩, product, hproduct, hproducts⟩
      exact ⟨⟨vendor, product⟩, ⟨hvendor, hproduct⟩, hvendors, hproducts⟩
    · rintro ⟨c, ⟨hvendor, hproduct⟩, hvendors, hproducts⟩
      exact ⟨⟨_, hvendor, hvendors⟩, _, hproduct, hproducts⟩

/-- The device's numbers are complete if both are there. -/
theorem DeviceFields.finish_eq_ok_iff {p : Place} {f : DeviceFields} {id : DeviceId} :
    f.finish p = .ok id ↔ f = ⟨some id.vendor, some id.product⟩ := by
  obtain ⟨vendor, product⟩ := f
  obtain ⟨vendor', product'⟩ := id
  cases vendor with
  | none =>
    constructor
    · rintro ⟨⟩
    · rintro ⟨⟩
  | some vendor =>
    cases product with
    | none =>
      constructor
      · rintro ⟨⟩
      · rintro ⟨⟩
    | some product => simp [finish]

/-- What is read as the numbers of a device. -/
theorem decodeDevice_eq_ok_iff {id : DeviceId} :
    decodeDevice ⟨d, path, node⟩ = .ok id ↔ IsDevice d node id := by
  let p : Place := ⟨d, path, node⟩
  have hdecode : decodeDevice p = (p.entries "struct DeviceInfo").bind fun numbers =>
      (p.foldEntries (DeviceFields.put p) numbers {}).bind fun f => f.finish p := rfl
  change decodeDevice p = .ok id ↔ _
  rw [hdecode]
  constructor
  · intro h
    obtain ⟨numbers, hnumbers, h⟩ := bind_eq_ok_iff.mp h
    obtain ⟨f, hfold, hfinish⟩ := bind_eq_ok_iff.mp h
    obtain rfl := DeviceFields.finish_eq_ok_iff.mp hfinish
    exact ⟨numbers, Place.entries_eq_ok_iff.mp hnumbers, DeviceFields.fold_eq_ok_iff.mp hfold⟩
  · rintro ⟨numbers, hnumbers, h⟩
    refine bind_eq_ok_iff.mpr ⟨numbers, Place.entries_eq_ok_iff.mpr hnumbers, ?_⟩
    refine bind_eq_ok_iff.mpr ⟨⟨some id.vendor, some id.product⟩, ?_, rfl⟩
    exact DeviceFields.fold_eq_ok_iff.mpr h

/-! ## The log level -/

/-- The node is a mapping with the log level, or without it for the default. -/
def IsLogging (d : Document) (node : Node) (level : String) : Prop :=
  ∃ entries set, d.entries? node = some entries ∧ d.KeysIn (fun _ => True) entries ∧
    Takes d.IsText (d.values "level" entries) none set ∧ level = set.getD stockLevel

/-- An entry of the mapping of the log settings is read if it is put into the level, or is no
level. -/
theorem putLogLevel_eq_ok_iff {p key : Place} {before after : Option String} {name : String} :
    putLogLevel p before name key ⟨d, path, node⟩ = .ok after ↔
      Puts d.IsText "level" name node before after := by
  have hread (text : String) :
      Place.text ⟨d, path, node⟩ "a string" = .ok text ↔ d.IsText node text :=
    Place.text_eq_ok_iff
  unfold putLogLevel
  split
  · exact once_iff_puts hread
  next hlevel =>
    rw [puts_of_ne hlevel]
    exact ⟨fun h => (Except.ok.inj h).symm, fun h => congrArg Except.ok h.symm⟩

/-- The entries of the mapping of the log settings are read if all their keys are texts and their
levels are the level. -/
theorem foldLogLevel_eq_ok_iff {p : Place} {entries : List (Node × Node)}
    {before after : Option String} :
    p.foldEntries (putLogLevel p) entries before = .ok after ↔
      p.document.KeysIn (fun _ => True) entries ∧
        Takes p.document.IsText (p.document.values "level" entries) before after := by
  refine Place.foldEntries_eq_ok_iff (Puts p.document.IsText "level")
    (fun entries => Takes p.document.IsText (p.document.values "level" entries)) ?_
    (fun _ _ => takes_nil) ?_
  · intro before name key path value after
    rw [putLogLevel_eq_ok_iff, true_and]
  · intro key value name rest before after hkey
    exact takes_values_cons hkey rest

/-- What is read as a log level. -/
theorem decodeLogging_eq_ok_iff {level : String} :
    decodeLogging ⟨d, path, node⟩ = .ok level ↔ IsLogging d node level := by
  let p : Place := ⟨d, path, node⟩
  have hdecode : decodeLogging p = (p.entries "struct LoggingConfig").bind fun entries =>
      (p.foldEntries (putLogLevel p) entries none).bind fun set => .ok (set.getD stockLevel) := rfl
  change decodeLogging p = .ok level ↔ _
  rw [hdecode]
  constructor
  · intro h
    obtain ⟨entries, hentries, h⟩ := bind_eq_ok_iff.mp h
    obtain ⟨set, hfold, hlevel⟩ := bind_eq_ok_iff.mp h
    obtain ⟨hkeys, hset⟩ := foldLogLevel_eq_ok_iff.mp hfold
    exact ⟨entries, set, Place.entries_eq_ok_iff.mp hentries, hkeys, hset,
      (Except.ok.inj hlevel).symm⟩
  · rintro ⟨entries, set, hentries, hkeys, hset, rfl⟩
    refine bind_eq_ok_iff.mpr ⟨entries, Place.entries_eq_ok_iff.mpr hentries, ?_⟩
    exact bind_eq_ok_iff.mpr ⟨set, foldLogLevel_eq_ok_iff.mpr ⟨hkeys, hset⟩, rfl⟩

/-! ## Documents -/

/-- The values in the entries of a document are those of the fields. -/
structure Fields.TakenFrom (d : Document) (entries : List (Node × Node)) (before after : Fields) :
    Prop where
  device : Takes (IsDevice d) (d.values "device" entries) before.device after.device
  readTimeoutMillis : Takes (IsWord64 d) (d.values "read_timeout_ms" entries)
    before.readTimeoutMillis after.readTimeoutMillis
  pollInterval : Takes d.IsFloat (d.values "poll_interval" entries) before.pollInterval
    after.pollInterval
  logLevel : Takes (IsLogging d) (d.values "logging" entries) before.logLevel after.logLevel

/-- An entry of a document is put into the field of its key. -/
@[mk_iff]
structure Fields.PutFrom (d : Document) (name : String) (value : Node) (before after : Fields) :
    Prop where
  device : Puts (IsDevice d) "device" name value before.device after.device
  readTimeoutMillis : Puts (IsWord64 d) "read_timeout_ms" name value before.readTimeoutMillis
    after.readTimeoutMillis
  pollInterval : Puts d.IsFloat "poll_interval" name value before.pollInterval after.pollInterval
  logLevel : Puts (IsLogging d) "logging" name value before.logLevel after.logLevel

/-- An entry of a document is read if it is put into the field of its key, or has no known key. -/
theorem Fields.put_eq_ok_iff {p key : Place} {f g : Fields} {name : String} :
    Fields.put p f name key ⟨d, path, node⟩ = .ok g ↔ PutFrom d name node f g := by
  obtain ⟨device, timeout, interval, level⟩ := g
  have hdevice (id : DeviceId) :
      decodeDevice ⟨d, path, node⟩ = .ok id ↔ IsDevice d node id := decodeDevice_eq_ok_iff
  have htimeout (n : UInt64) :
      Place.word64 ⟨d, path, node⟩ = .ok n ↔ IsWord64 d node n := Place.word64_eq_ok_iff
  have hinterval (x : Binary64) :
      Place.float ⟨d, path, node⟩ = .ok x ↔ d.IsFloat node x := Place.float_eq_ok_iff
  have hlevel (level : String) :
      decodeLogging ⟨d, path, node⟩ = .ok level ↔ IsLogging d node level := decodeLogging_eq_ok_iff
  rw [putFrom_iff]
  unfold Fields.put
  split
  · rw [exists_of_return_eq_ok]
    simp only [once_iff_puts hdevice, puts_of_ne, ne_eq, String.reduceEq, not_false_eq_true]
    constructor
    · rintro ⟨_, hput, ⟨⟩⟩
      exact ⟨hput, rfl, rfl, rfl⟩
    · rintro ⟨hput, rfl, rfl, rfl⟩
      exact ⟨device, hput, rfl⟩
  · rw [exists_of_return_eq_ok]
    simp only [once_iff_puts htimeout, puts_of_ne, ne_eq, String.reduceEq, not_false_eq_true]
    constructor
    · rintro ⟨_, hput, ⟨⟩⟩
      exact ⟨rfl, hput, rfl, rfl⟩
    · rintro ⟨rfl, hput, rfl, rfl⟩
      exact ⟨timeout, hput, rfl⟩
  · rw [exists_of_return_eq_ok]
    simp only [once_iff_puts hinterval, puts_of_ne, ne_eq, String.reduceEq, not_false_eq_true]
    constructor
    · rintro ⟨_, hput, ⟨⟩⟩
      exact ⟨rfl, rfl, hput, rfl⟩
    · rintro ⟨rfl, rfl, hput, rfl⟩
      exact ⟨interval, hput, rfl⟩
  · rw [exists_of_return_eq_ok]
    simp only [once_iff_puts hlevel, puts_of_ne, ne_eq, String.reduceEq, not_false_eq_true]
    constructor
    · rintro ⟨_, hput, ⟨⟩⟩
      exact ⟨rfl, rfl, rfl, hput⟩
    · rintro ⟨rfl, rfl, rfl, hput⟩
      exact ⟨level, hput, rfl⟩
  next hdevice htimeout hinterval hlogging =>
    rw [puts_of_ne hdevice, puts_of_ne htimeout, puts_of_ne hinterval, puts_of_ne hlogging]
    constructor
    · rintro ⟨⟩
      exact ⟨rfl, rfl, rfl, rfl⟩
    · rintro ⟨rfl, rfl, rfl, rfl⟩
      rfl

/-- The entries of a document are read if all their keys are texts and their values are those of the
fields. -/
theorem Fields.fold_eq_ok_iff {p : Place} {entries : List (Node × Node)} {f g : Fields} :
    p.foldEntries (Fields.put p) entries f = .ok g ↔
      p.document.KeysIn (fun _ => True) entries ∧ TakenFrom p.document entries f g := by
  refine Place.foldEntries_eq_ok_iff (PutFrom p.document) (TakenFrom p.document) ?_ ?_ ?_
  · intro f name key path value g
    rw [put_eq_ok_iff, true_and]
  · rintro f ⟨device, timeout, interval, level⟩
    constructor
    · rintro ⟨hdevice, htimeout, hinterval, hlevel⟩
      obtain rfl := takes_nil.mp hdevice
      obtain rfl := takes_nil.mp htimeout
      obtain rfl := takes_nil.mp hinterval
      obtain rfl := takes_nil.mp hlevel
      rfl
    · rintro rfl
      exact ⟨.nothing _, .nothing _, .nothing _, .nothing _⟩
  · intro key value name rest f g hkey
    constructor
    · rintro ⟨hdevices, htimeouts, hintervals, hlevels⟩
      obtain ⟨device, hdevice, hdevices⟩ := (takes_values_cons hkey rest).mp hdevices
      obtain ⟨timeout, htimeout, htimeouts⟩ := (takes_values_cons hkey rest).mp htimeouts
      obtain ⟨interval, hinterval, hintervals⟩ := (takes_values_cons hkey rest).mp hintervals
      obtain ⟨level, hlevel, hlevels⟩ := (takes_values_cons hkey rest).mp hlevels
      exact ⟨⟨device, timeout, interval, level⟩, ⟨hdevice, htimeout, hinterval, hlevel⟩,
        hdevices, htimeouts, hintervals, hlevels⟩
    · rintro ⟨c, ⟨hdevice, htimeout, hinterval, hlevel⟩, hdevices, htimeouts, hintervals, hlevels⟩
      exact ⟨(takes_values_cons hkey rest).mpr ⟨_, hdevice, hdevices⟩,
        (takes_values_cons hkey rest).mpr ⟨_, htimeout, htimeouts⟩,
        (takes_values_cons hkey rest).mpr ⟨_, hinterval, hintervals⟩,
        (takes_values_cons hkey rest).mpr ⟨_, hlevel, hlevels⟩⟩

/-- What a document is read as: it is a mapping whose keys are texts, its values of known keys are
those of some fields, and these are finished with the defaults. -/
theorem ofDocument_eq_ok_iff {s : Settings} :
    ofDocument d = .ok s ↔
      ∃ entries f, d.entries? d.root = some entries ∧ d.KeysIn (fun _ => True) entries ∧
        Fields.TakenFrom d entries {} f ∧ s = f.finish := by
  let p : Place := ⟨d, [], d.root⟩
  have hdocument : ofDocument d = (p.entries "struct Config").bind fun entries =>
      (p.foldEntries (Fields.put p) entries {}).bind fun f => .ok f.finish := rfl
  rw [hdocument]
  constructor
  · intro h
    obtain ⟨entries, hentries, h⟩ := bind_eq_ok_iff.mp h
    obtain ⟨f, hfold, hfinish⟩ := bind_eq_ok_iff.mp h
    obtain ⟨hkeys, htaken⟩ := Fields.fold_eq_ok_iff.mp hfold
    exact ⟨entries, f, Place.entries_eq_ok_iff.mp hentries, hkeys, htaken,
      (Except.ok.inj hfinish).symm⟩
  · rintro ⟨entries, f, hentries, hkeys, htaken, rfl⟩
    refine bind_eq_ok_iff.mpr ⟨entries, Place.entries_eq_ok_iff.mpr hentries, ?_⟩
    exact bind_eq_ok_iff.mpr ⟨f, Fields.fold_eq_ok_iff.mpr ⟨hkeys, htaken⟩, rfl⟩

end Settings

end BatteryWatch
