import BatteryWatch.Proofs.Settings.Reading

/-!
# The content of documents

What a document is read as depends on nothing but its content. Where its nodes start and how its
references are numbered does not matter (`Yaml.Document.Alike`), and entries with unknown keys may
be added anywhere at the top of a document and in its log settings
(`Yaml.Document.Extends`, `Settings.ExtendsSettings`). `Settings.ofDocument_of_extends` says that
neither whether a document is accepted nor what is read from it changes by that.
-/

namespace BatteryWatch

namespace Yaml.Document

/-- Two nodes of two documents with the same content: the same scalars, sequences and mappings, with
all references followed. Where they start does not matter. -/
inductive Alike (d d' : Document) : Node → Node → Prop
  | scalar {node node' : Node} {mark mark' : Mark} {tag : Option String} {style : ScalarStyle}
      {text : String} (left : d.resolve node = .scalar mark tag style text)
      (right : d'.resolve node' = .scalar mark' tag style text) : Alike d d' node node'
  | sequence {node node' : Node} {mark mark' : Mark} {items items' : List Node}
      (left : d.resolve node = .sequence mark items)
      (right : d'.resolve node' = .sequence mark' items')
      (each : List.Forall₂ (Alike d d') items items') : Alike d d' node node'
  | mapping {node node' : Node} {mark mark' : Mark} {entries entries' : List (Node × Node)}
      (left : d.resolve node = .mapping mark entries)
      (right : d'.resolve node' = .mapping mark' entries')
      (keys : List.Forall₂ (Alike d d') (entries.map (·.1)) (entries'.map (·.1)))
      (values : List.Forall₂ (Alike d d') (entries.map (·.2)) (entries'.map (·.2))) :
      Alike d d' node node'

/-- Entries of one document that are those of another one and some more: their keys are texts that
are not known, and they stand anywhere. The values of known keys are related. -/
inductive Extends (d d' : Document) (known : String → Prop) (R : String → Node → Node → Prop) :
    List (Node × Node) → List (Node × Node) → Prop
  | nil : Extends d d' known R [] []
  | same {key key' value value' : Node} {entries entries' : List (Node × Node)}
      (named : d.keyText? key = d'.keyText? key')
      (valued : ∀ name, known name → d.keyText? key = some name → R name value value')
      (rest : Extends d d' known R entries entries') :
      Extends d d' known R ((key, value) :: entries) ((key', value') :: entries')
  | more {key' value' : Node} {name : String} {entries entries' : List (Node × Node)}
      (named : d'.keyText? key' = some name) (unknown : ¬known name)
      (rest : Extends d d' known R entries entries') :
      Extends d d' known R entries ((key', value') :: entries')

variable {d d' : Document} {node node' : Node} {entries entries' : List (Node × Node)}
  {known : String → Prop} {R : String → Node → Node → Prop}

/-! ## Nodes with the same content -/

/-- Nodes with the same content are the same texts. -/
theorem Alike.isText_iff (h : Alike d d' node node') (text : String) :
    d.IsText node text ↔ d'.IsText node' text := by
  unfold IsText
  rcases h with ⟨left, right⟩ | ⟨left, right, -⟩ | ⟨left, right, -, -⟩
  · simp [left, right]
  · simp [left, right]
  · simp [left, right]

/-- Nodes with the same content are the same keys. -/
theorem Alike.keyText?_eq (h : Alike d d' node node') : d.keyText? node = d'.keyText? node' := by
  apply Option.ext
  intro name
  rw [keyText?_eq_some_iff, keyText?_eq_some_iff]
  exact h.isText_iff name

/-- Nodes with the same content are the same numbers. -/
theorem Alike.isNumber_iff (h : Alike d d' node node') {α : Type} {kind : String}
    {read : List Char → Option α} (a : α) :
    d.IsNumber kind read node a ↔ d'.IsNumber kind read node' a := by
  unfold IsNumber
  rcases h with ⟨left, right⟩ | ⟨left, right, -⟩ | ⟨left, right, -, -⟩
  · simp [left, right]
  · simp [left, right]
  · simp [left, right]

/-- Entries whose keys and values have the same content are the same entries, whichever keys are
known. -/
theorem extends_of_alike
    (hkeys : List.Forall₂ (Alike d d') (entries.map (·.1)) (entries'.map (·.1)))
    (hvalues : List.Forall₂ (Alike d d') (entries.map (·.2)) (entries'.map (·.2))) :
    Extends d d' known (fun _ => Alike d d') entries entries' := by
  induction entries generalizing entries' with
  | nil =>
    cases entries' with
    | nil => exact .nil
    | cons entry' rest' => cases hkeys
  | cons entry rest ih =>
    cases entries' with
    | nil => cases hkeys
    | cons entry' rest' =>
      obtain ⟨hkey, hkeys⟩ := List.forall₂_cons.mp hkeys
      obtain ⟨hvalue, hvalues⟩ := List.forall₂_cons.mp hvalues
      exact .same hkey.keyText?_eq (fun _ _ _ => hvalue) (ih hkeys hvalues)

/-- Nodes with the same content are mappings with the same entries, or neither is a mapping. -/
theorem Alike.entries?_cases (h : Alike d d' node node') :
    (d.entries? node = none ∧ d'.entries? node' = none) ∨
      ∃ entries entries', d.entries? node = some entries ∧ d'.entries? node' = some entries' ∧
        ∀ known, Extends d d' known (fun _ => Alike d d') entries entries' := by
  cases h with
  | @scalar _ _ _ _ _ style text left right =>
    by_cases hempty : style = .plain ∧ text = ""
    · refine .inr ⟨[], [], ?_, ?_, fun _ => .nil⟩
      · simp only [entries?, left, if_pos hempty]
      · simp only [entries?, right, if_pos hempty]
    · refine .inl ⟨?_, ?_⟩
      · simp only [entries?, left, if_neg hempty]
      · simp only [entries?, right, if_neg hempty]
  | sequence left right _ =>
    refine .inl ⟨?_, ?_⟩
    · simp only [entries?, left]
    · simp only [entries?, right]
  | @mapping _ _ _ _ entries entries' left right keys values =>
    refine .inr ⟨entries, entries', ?_, ?_, fun _ => extends_of_alike keys values⟩
    · simp only [entries?, left]
    · simp only [entries?, right]

/-! ## More entries -/

/-- The keys of more entries are allowed if those of the entries before are and all unknown keys
are. -/
theorem Extends.keysIn_iff {allowed : String → Prop} (h : Extends d d' known R entries entries')
    (hallowed : ∀ name, ¬known name → allowed name) :
    d.KeysIn allowed entries ↔ d'.KeysIn allowed entries' := by
  induction h with
  | nil => exact ⟨fun _ => keysIn_nil, fun _ => keysIn_nil⟩
  | same named _ _ ih => rw [keysIn_cons, keysIn_cons, named, ih]
  | more named unknown _ ih =>
    rw [keysIn_cons, ih]
    exact ⟨fun h => ⟨⟨_, named, hallowed _ unknown⟩, h⟩, fun h => h.2⟩

/-- The values of a known key are related one by one. -/
theorem Extends.values (h : Extends d d' known R entries entries') {name : String}
    (hknown : known name) :
    List.Forall₂ (R name) (d.values name entries) (d'.values name entries') := by
  induction h with
  | nil => exact .nil
  | @same key key' value value' entries entries' named valued _ ih =>
    by_cases hkey : d.keyText? key = some name
    · rw [values_cons_of_key hkey, values_cons_of_key (named ▸ hkey)]
      exact .cons (valued name hknown hkey) ih
    · rw [values_cons_of_ne hkey, values_cons_of_ne (named ▸ hkey)]
      exact ih
  | @more key' _ other _ _ named unknown _ ih =>
    have hkey : d'.keyText? key' ≠ some name := by
      rw [named]
      exact fun h => unknown (Option.some.inj h ▸ hknown)
    rw [values_cons_of_ne hkey]
    exact ih

end Yaml.Document

namespace Settings

open Yaml (Document Node)

variable {d d' : Document} {node node' : Node} {entries entries' : List (Node × Node)}

/-- The keys that are known at the top of a document. -/
def documentKeys : List String := ["device", "read_timeout_ms", "poll_interval", "logging"]

/-- The node of one document is the log settings of another one, to which entries with other keys
than the level may be added, or has the same content. -/
def ExtendsLogging (d d' : Document) (node node' : Node) : Prop :=
  d.Alike d' node node' ∨ ∃ entries entries', d.entries? node = some entries ∧
    d'.entries? node' = some entries' ∧
    d.Extends d' (· = "level") (fun _ => d.Alike d') entries entries'

/-- The entries of one document are those of another one, to which entries with unknown keys may be
added, at the top and in the log settings. -/
def ExtendsSettings (d d' : Document) (entries entries' : List (Node × Node)) : Prop :=
  d.Extends d' (· ∈ documentKeys)
    (fun name => if name = "logging" then ExtendsLogging d d' else d.Alike d') entries entries'

/-- Fields take the same from values that are of the same kind one by one. -/
theorem takes_iff {α : Type} {R R' : Node → α → Prop} {values values' : List Node}
    {before after : Option α}
    (h : List.Forall₂ (fun value value' => ∀ a, R value a ↔ R' value' a) values values') :
    Takes R values before after ↔ Takes R' values' before after := by
  cases h with
  | nil => rw [takes_nil, takes_nil]
  | cons hvalue hrest =>
    rw [takes_cons, takes_cons]
    cases hrest with
    | nil => simp only [hvalue, takes_nil]
    | cons _ _ => simp only [takes_cons, reduceCtorEq, false_and, and_false, exists_false]

/-- Nodes with the same content are the same numbers of sixteen bits. -/
theorem isWord16_iff_of_alike (h : d.Alike d' node node') (n : UInt16) :
    IsWord16 d node n ↔ IsWord16 d' node' n :=
  h.isNumber_iff n.toNat

/-- Nodes with the same content are the same numbers of sixty-four bits. -/
theorem isWord64_iff_of_alike (h : d.Alike d' node node') (n : UInt64) :
    IsWord64 d node n ↔ IsWord64 d' node' n :=
  h.isNumber_iff n.toNat

/-- Nodes with the same content are the same devices. -/
theorem isDevice_iff_of_alike (h : d.Alike d' node node') (id : DeviceId) :
    IsDevice d node id ↔ IsDevice d' node' id := by
  unfold IsDevice
  rcases h.entries?_cases with ⟨hnode, hnode'⟩ | ⟨numbers, numbers', hnode, hnode', hsame⟩
  · simp [hnode, hnode']
  · have hextends := hsame fun _ => True
    have hkeys : d.KeysIn (· ∈ deviceKeys) numbers ↔ d'.KeysIn (· ∈ deviceKeys) numbers' :=
      hextends.keysIn_iff fun _ h => absurd trivial h
    have hword (name : String) (n : Option UInt16) :
        Takes (IsWord16 d) (d.values name numbers) none n ↔
          Takes (IsWord16 d') (d'.values name numbers') none n :=
      takes_iff ((hextends.values trivial).imp fun _ _ => isWord16_iff_of_alike)
    simp only [hnode, hnode', Option.some.injEq, exists_eq_left', hkeys, hword]

/-- Log settings to which other entries are added give the same level. -/
theorem isLogging_iff_of_extends (h : ExtendsLogging d d' node node') (level : String) :
    IsLogging d node level ↔ IsLogging d' node' level := by
  have hentries {entries entries' : List (Node × Node)} (hnode : d.entries? node = some entries)
      (hnode' : d'.entries? node' = some entries')
      (hextends : d.Extends d' (· = "level") (fun _ => d.Alike d') entries entries') :
      IsLogging d node level ↔ IsLogging d' node' level := by
    have hkeys : d.KeysIn (fun _ => True) entries ↔ d'.KeysIn (fun _ => True) entries' :=
      hextends.keysIn_iff fun _ _ => trivial
    have htext (set : Option String) :
        Takes d.IsText (d.values "level" entries) none set ↔
          Takes d'.IsText (d'.values "level" entries') none set :=
      takes_iff ((hextends.values rfl).imp fun _ _ halike => halike.isText_iff)
    unfold IsLogging
    simp only [hnode, hnode', Option.some.injEq, exists_and_left, exists_eq_left', hkeys, htext]
  rcases h with halike | ⟨entries, entries', hnode, hnode', hextends⟩
  · rcases halike.entries?_cases with ⟨hnode, hnode'⟩ | ⟨entries, entries', hnode, hnode', hsame⟩
    · simp [IsLogging, hnode, hnode']
    · exact hentries hnode hnode' (hsame _)
  · exact hentries hnode hnode' hextends

/-- The same fields are taken from a document to which entries with unknown keys are added. -/
theorem takenFrom_iff_of_extends (h : ExtendsSettings d d' entries entries') (f g : Fields) :
    Fields.TakenFrom d entries f g ↔ Fields.TakenFrom d' entries' f g := by
  have hvalues {name : String} (hname : name ∈ documentKeys) (hother : name ≠ "logging") :
      List.Forall₂ (d.Alike d') (d.values name entries) (d'.values name entries') := by
    have hvalues := h.values hname
    rwa [if_neg hother] at hvalues
  have hdevice : Takes (IsDevice d) (d.values "device" entries) f.device g.device ↔
      Takes (IsDevice d') (d'.values "device" entries') f.device g.device :=
    takes_iff ((hvalues (by decide) (by decide)).imp fun _ _ => isDevice_iff_of_alike)
  have htimeout : Takes (IsWord64 d) (d.values "read_timeout_ms" entries) f.readTimeoutMillis
      g.readTimeoutMillis ↔ Takes (IsWord64 d') (d'.values "read_timeout_ms" entries')
        f.readTimeoutMillis g.readTimeoutMillis :=
    takes_iff ((hvalues (by decide) (by decide)).imp fun _ _ => isWord64_iff_of_alike)
  have hinterval : Takes d.IsFloat (d.values "poll_interval" entries) f.pollInterval
      g.pollInterval ↔ Takes d'.IsFloat (d'.values "poll_interval" entries') f.pollInterval
        g.pollInterval :=
    takes_iff ((hvalues (by decide) (by decide)).imp fun _ _ halike => halike.isNumber_iff)
  have hlevel : Takes (IsLogging d) (d.values "logging" entries) f.logLevel g.logLevel ↔
      Takes (IsLogging d') (d'.values "logging" entries') f.logLevel g.logLevel := by
    have hknown : "logging" ∈ documentKeys := by decide
    have hvalues := h.values hknown
    rw [if_pos rfl] at hvalues
    exact takes_iff (hvalues.imp fun _ _ => isLogging_iff_of_extends)
  constructor
  · rintro ⟨h₁, h₂, h₃, h₄⟩
    exact ⟨hdevice.mp h₁, htimeout.mp h₂, hinterval.mp h₃, hlevel.mp h₄⟩
  · rintro ⟨h₁, h₂, h₃, h₄⟩
    exact ⟨hdevice.mpr h₁, htimeout.mpr h₂, hinterval.mpr h₃, hlevel.mpr h₄⟩

/-- A document to which entries with unknown keys are added is read as before. -/
theorem ofDocument_of_extends (hroot : d.entries? d.root = some entries)
    (hroot' : d'.entries? d'.root = some entries') (h : ExtendsSettings d d' entries entries')
    (s : Settings) : ofDocument d' = .ok s ↔ ofDocument d = .ok s := by
  have hkeys : d.KeysIn (fun _ => True) entries ↔ d'.KeysIn (fun _ => True) entries' :=
    h.keysIn_iff fun _ _ => trivial
  rw [ofDocument_eq_ok_iff, ofDocument_eq_ok_iff]
  simp only [hroot, hroot', Option.some.injEq, exists_and_left, exists_eq_left', hkeys,
    takenFrom_iff_of_extends h]

end Settings

end BatteryWatch
