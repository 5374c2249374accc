import BatteryWatch.Yaml.Token
import BatteryWatch.Yaml.Token.Scan

/-!
# Documents

Documents as trees, and the grammar that makes a tree of tokens.
-/

namespace BatteryWatch.Yaml

/-! ## Trees

A document is a tree of scalars, sequences and mappings. A reference in the tree stands for the node
that was given its name; references are looked up one step at a time, so that a node may refer to
a collection that contains it. -/

/-- A node of a document, with the position where it starts. -/
inductive Node where
  /-- A reference to the node with the given number. -/
  | alias (mark : Mark) (target : Nat)
  | scalar (mark : Mark) (tag : Option String) (style : ScalarStyle) (text : String)
  | sequence (mark : Mark) (items : List Node)
  | mapping (mark : Mark) (entries : List (Node × Node))

/-- The position where a node starts. -/
def Node.mark : Node → Mark
  | .alias mark _ => mark
  | .scalar mark _ _ _ => mark
  | .sequence mark _ => mark
  | .mapping mark _ => mark

/-- A node that is not written. -/
def Node.empty (mark : Mark) : Node := .scalar mark none .plain ""

/-- A node that was given a name: the number of the name and the place of the node in the order in
which the named nodes start. -/
structure Target where
  number : Nat
  order : Nat
  node : Node

/-- A document: its tree and its named nodes. -/
structure Document where
  root : Node
  targets : List Target

/-- A document without named nodes. -/
def Document.ofNode (root : Node) : Document := ⟨root, []⟩

/-- The later of two named nodes. -/
def Target.later (best : Option Target) (t : Target) : Option Target :=
  match best with
  | none => some t
  | some b => if b.order < t.order then some t else some b

/-- The node that a reference stands for: of several with its number the one that starts last. -/
def Document.target? (d : Document) (number : Nat) : Option Node :=
  ((d.targets.filter (·.number == number)).foldl Target.later none).map (·.node)

/-- A node with a reference at its top replaced by what it stands for. -/
def Document.resolve (d : Document) : Node → Node
  | .alias mark number => (d.target? number).getD (.empty mark)
  | node => node

/-! ## Documents from tokens

The grammar of documents: which tokens form a node, an entry of a collection or a document. Every
name is numbered by the number of distinct names before it, and a reference takes the number that
its name has at that point. -/

/-- The state of reading nodes: the tokens left, the tag abbreviations, the numbers of the names
and the named nodes read so far. -/
structure Reading where
  tokens : List Token
  handles : List (String × String)
  names : List (String × Nat)
  started : Nat
  targets : List Target

/-- A step of reading. -/
abbrev Reader (α : Type) : Type := StateT Reading (Except SyntaxError) α

namespace Reader

/-- The abbreviations of tags that need not be declared. -/
def defaultHandles : List (String × String) := [("!", "!"), ("!!", "tag:yaml.org,2002:")]

/-- The next token; the end of the text stays when it is reached. -/
def peek : Reader Token := do
  match (← get).tokens with
  | t :: _ => return t
  | [] => return ⟨.streamEnd, .start, .start⟩

/-- Passes a token. -/
def advance : Reader Unit := modify fun s => { s with tokens := s.tokens.tail }

/-- Passes a token and gives the next one. -/
def next : Reader Token := do
  advance
  peek

/-- Fails at a token. -/
def failAt {α : Type} (t : Token) (problem : String) : Reader α := throw ⟨problem, t.start⟩

/-- What a tag stands for. -/
def expandTag (t : Token) (handle suffix : String) : Reader String := do
  if handle.isEmpty then return suffix
  else
    match (← get).handles.lookup handle with
    | some expansion => return expansion ++ suffix
    | none => failAt t "found undefined tag handle"

/-- The properties before a node: its name and its tag, in either order. -/
structure Properties where
  mark : Mark
  name : Option String
  tag : Option String

/-- Reads the properties before a node. -/
def properties : Reader Properties := do
  let first ← peek
  match first.kind with
  | .anchor name =>
    let second ← next
    match second.kind with
    | .tag handle suffix =>
      advance
      return ⟨first.start, some name, some (← expandTag second handle suffix)⟩
    | _ => return ⟨first.start, some name, none⟩
  | .tag handle suffix =>
    let second ← next
    let tag ← expandTag first handle suffix
    match second.kind with
    | .anchor name =>
      advance
      return ⟨first.start, some name, some tag⟩
    | _ => return ⟨first.start, none, some tag⟩
  | _ => return ⟨first.start, none, none⟩

/-- Numbers a name; the result is the number and the place of the node among the named ones. -/
def declare (name : String) : Reader (Nat × Nat) := do
  let s ← get
  let number := s.names.length
  set { s with
    names := (name, number) :: s.names.filter (·.1 != name)
    started := s.started + 1 }
  return (number, s.started)

/-- Keeps a node under the number it was declared with. -/
def keep (declared : Option (Nat × Nat)) (node : Node) : Reader Node := do
  match declared with
  | none => return node
  | some (number, order) =>
    modify fun s => { s with targets := ⟨number, order, node⟩ :: s.targets }
    return node

/-- Whether a token is among some kinds. -/
def isOneOf (t : Token) (kinds : List TokenKind) : Bool := kinds.contains t.kind

/-- A tag as it counts for a scalar: a lone mark says nothing. -/
def scalarTag (tag : Option String) : Option String := tag.filter (· != "!")

mutual

/-- Reads a node; block collections are only read where they are allowed. -/
def node : Nat → Bool → Bool → Reader Node
  | 0, _, _ => do failAt (← peek) "nodes are nested too deeply"
  | fuel + 1, block, indentless => do
    let first ← peek
    match first.kind with
    | .alias name =>
      advance
      match (← get).names.lookup name with
      | some number => return .alias first.start number
      | none => failAt first "unknown anchor"
    | _ =>
      let p ← properties
      let declared ← p.name.mapM declare
      let t ← peek
      let content : Option (Reader Node) :=
        match t.kind with
        | .blockEntry =>
          if indentless then some (.sequence p.mark <$> indentlessSequence fuel []) else none
        | .scalar text style => some do
          advance
          return .scalar p.mark (scalarTag p.tag) style text
        | .flowSequenceStart => some do
          advance
          return .sequence p.mark (← flowSequence fuel true [])
        | .flowMappingStart => some do
          advance
          return .mapping p.mark (← flowMapping fuel true [])
        | .blockSequenceStart =>
          if block then some do
            advance
            return .sequence p.mark (← blockSequence fuel [])
          else none
        | .blockMappingStart =>
          if block then some do
            advance
            return .mapping p.mark (← blockMapping fuel [])
          else none
        | _ => none
      match content with
      | some read => keep declared (← read)
      | none =>
        if p.name.isSome || p.tag.isSome then
          keep declared (.scalar p.mark p.tag .plain "")
        else failAt t "did not find expected node content"

/-- Reads a node unless one of some tokens comes first, which leaves the node empty. -/
def nodeUnless : Nat → List TokenKind → Mark → Bool → Bool → Reader Node
  | 0, _, _, _, _ => do failAt (← peek) "nodes are nested too deeply"
  | fuel + 1, enders, mark, block, indentless => do
    if isOneOf (← peek) enders then return .empty mark else node fuel block indentless

/-- Reads the entries of a block sequence. -/
def blockSequence : Nat → List Node → Reader (List Node)
  | 0, _ => do failAt (← peek) "nodes are nested too deeply"
  | fuel + 1, items => do
    let t ← peek
    match t.kind with
    | .blockEntry =>
      advance
      let item ← nodeUnless fuel [.blockEntry, .blockEnd] t.stop true false
      blockSequence fuel (item :: items)
    | .blockEnd =>
      advance
      return items.reverse
    | _ => failAt t "did not find expected '-' indicator"

/-- Reads the entries of a block sequence that is not indented. -/
def indentlessSequence : Nat → List Node → Reader (List Node)
  | 0, _ => do failAt (← peek) "nodes are nested too deeply"
  | fuel + 1, items => do
    let t ← peek
    match t.kind with
    | .blockEntry =>
      advance
      let item ← nodeUnless fuel [.blockEntry, .key, .value, .blockEnd] t.stop true false
      indentlessSequence fuel (item :: items)
    | _ => return items.reverse

/-- Reads the entries of a block mapping. -/
def blockMapping : Nat → List (Node × Node) → Reader (List (Node × Node))
  | 0, _ => do failAt (← peek) "nodes are nested too deeply"
  | fuel + 1, entries => do
    let t ← peek
    match t.kind with
    | .key =>
      advance
      let key ← nodeUnless fuel [.key, .value, .blockEnd] t.stop true true
      let value ← blockValue fuel
      blockMapping fuel ((key, value) :: entries)
    | .blockEnd =>
      advance
      return entries.reverse
    | _ => failAt t "did not find expected key"

/-- Reads the value of an entry of a block mapping. -/
def blockValue : Nat → Reader Node
  | 0 => do failAt (← peek) "nodes are nested too deeply"
  | fuel + 1 => do
    let t ← peek
    match t.kind with
    | .value =>
      advance
      nodeUnless fuel [.key, .value, .blockEnd] t.stop true true
    | _ => return .empty t.start

/-- Reads the entries of a flow sequence. -/
def flowSequence : Nat → Bool → List Node → Reader (List Node)
  | 0, _, _ => do failAt (← peek) "nodes are nested too deeply"
  | fuel + 1, first, items => do
    let t ← peek
    if t.kind = .flowSequenceEnd then
      advance
      return items.reverse
    else
      let t ←
        if first then pure t
        else if t.kind = .flowEntry then next
        else failAt t "did not find expected ',' or ']'"
      match t.kind with
      | .key =>
        advance
        let item ← flowPair fuel t.start
        flowSequence fuel false (item :: items)
      | .flowSequenceEnd =>
        advance
        return items.reverse
      | _ =>
        let item ← node fuel false false
        flowSequence fuel false (item :: items)

/-- Reads a mapping of one entry inside a flow sequence. -/
def flowPair : Nat → Mark → Reader Node
  | 0, _ => do failAt (← peek) "nodes are nested too deeply"
  | fuel + 1, mark => do
    let t ← peek
    let key ←
      if isOneOf t [.value, .flowEntry, .flowSequenceEnd] then do
        advance
        pure (Node.empty t.stop)
      else node fuel false false
    let t ← peek
    let value ←
      if t.kind = .value then do
        let t ← next
        nodeUnless fuel [.flowEntry, .flowSequenceEnd] t.start false false
      else pure (Node.empty t.start)
    return .mapping mark [(key, value)]

/-- Reads the entries of a flow mapping. -/
def flowMapping : Nat → Bool → List (Node × Node) → Reader (List (Node × Node))
  | 0, _, _ => do failAt (← peek) "nodes are nested too deeply"
  | fuel + 1, first, entries => do
    let t ← peek
    if t.kind = .flowMappingEnd then
      advance
      return entries.reverse
    else
      let t ←
        if first then pure t
        else if t.kind = .flowEntry then next
        else failAt t "did not find expected ',' or '\x7d'"
      match t.kind with
      | .key =>
        let t ← next
        let key ← nodeUnless fuel [.value, .flowEntry, .flowMappingEnd] t.start false false
        let value ← flowValue fuel
        flowMapping fuel false ((key, value) :: entries)
      | .flowMappingEnd =>
        advance
        return entries.reverse
      | _ =>
        let key ← node fuel false false
        let value := Node.empty (← peek).start
        flowMapping fuel false ((key, value) :: entries)

/-- Reads the value of an entry of a flow mapping. -/
def flowValue : Nat → Reader Node
  | 0 => do failAt (← peek) "nodes are nested too deeply"
  | fuel + 1 => do
    let t ← peek
    if t.kind = .value then
      let t ← next
      nodeUnless fuel [.flowEntry, .flowMappingEnd] t.start false false
    else return .empty t.start

end

/-- Declares an abbreviation for tags. -/
def declareHandle (t : Token) (handle expansion : String) : Reader Unit := do
  if (← get).handles.any (·.1 == handle) then failAt t "found duplicate %TAG directive"
  else modify fun s => { s with handles := s.handles ++ [(handle, expansion)] }

/-- Reads the directives before a document. -/
def directives : Nat → Bool → Reader Unit
  | 0, _ => return ()
  | fuel + 1, versioned => do
    let t ← peek
    match t.kind with
    | .versionDirective major minor =>
      if versioned then failAt t "found duplicate %YAML directive"
      else if major = 1 ∧ (minor = 1 ∨ minor = 2) then
        advance
        directives fuel true
      else failAt t "found incompatible YAML document"
    | .tagDirective handle expansion =>
      declareHandle t handle expansion
      advance
      directives fuel versioned
    | _ => return ()

/-- Whether a token can only stand between documents. -/
def isBetweenDocuments (t : Token) : Bool :=
  match t.kind with
  | .versionDirective .. | .tagDirective .. | .documentStart | .documentEnd | .streamEnd => true
  | _ => false

/-- Reads the node of a document that is started explicitly. -/
def explicitContent (fuel : Nat) : Reader Node := do
  directives fuel false
  modify fun s => { s with handles := s.handles ++ defaultHandles }
  let t ← peek
  if t.kind = .documentStart then
    let t ← next
    if isBetweenDocuments t then return .empty t.start else node fuel true false
  else failAt t "did not find expected <document start>"

/-- Reads the node of the first document. -/
def content (fuel : Nat) : Reader Node := do
  let t ← peek
  match t.kind with
  | .streamEnd => return .empty .start
  | .versionDirective .. | .tagDirective .. | .documentStart => explicitContent fuel
  | _ =>
    modify fun s => { s with handles := defaultHandles }
    node fuel true false

/-- Passes the marks that end documents. -/
def documentEnds : Nat → Reader Unit
  | 0 => return ()
  | fuel + 1 => do
    if (← peek).kind = .documentEnd then
      advance
      documentEnds fuel

/-- Reads the only document of a text. -/
def document (fuel : Nat) : Reader Document := do
  let root ← content fuel
  documentEnds fuel
  let t ← peek
  if t.kind = .streamEnd then return ⟨root, (← get).targets⟩
  else if t.kind = .documentStart then
    failAt t "deserializing from YAML containing more than one document is not supported"
  else failAt t "did not find expected <document start>"

end Reader

/-- The document that tokens form. -/
def Document.ofTokens (tokens : List Token) : Except SyntaxError Document :=
  (Reader.document (4 * tokens.length + 8)).run' ⟨tokens, [], [], 0, []⟩

/-- The document that a text forms. -/
def Document.ofText (text : String) : Except SyntaxError Document := do
  ofTokens (← tokenize text)

end BatteryWatch.Yaml
