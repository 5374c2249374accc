import BatteryWatch.Log.Pattern
import BatteryWatch.Log.Pattern.Tree
import BatteryWatch.Text.CodeRanges

/-!
# The meaning of written patterns

What a written pattern stands for: sets of characters, choices between patterns, and the meaning of
every part under the flags that hold where it stands.
-/

namespace BatteryWatch.Log.Pattern

/-! ## Sets of characters

Sets as they come up while a pattern is read: their code points, and whether they are known to hold
every letter in both cases or in neither. Sets of ASCII letters can be closed under case. -/

open Text (CodeRanges)

/-- A set of characters. -/
structure CharSet where
  codes : CodeRanges
  /-- Whether it is known that case makes no difference to the set. -/
  caseless : Bool
deriving DecidableEq

namespace CharSet

/-- The set without characters. -/
def empty : CharSet := ⟨[], true⟩

/-- Whether a set has no characters. -/
def isEmpty (s : CharSet) : Bool := s.codes.isEmpty

/-- The set of some ranges. -/
def ofRanges (ranges : List (Nat × Nat)) : CharSet := ⟨CodeRanges.ofRanges ranges, ranges.isEmpty⟩

/-- A set with a range of characters. -/
def insert (s : CharSet) (first last : Char) : CharSet :=
  ⟨s.codes.union [(first.toNat, last.toNat)], false⟩

/-- The characters of either of two sets. -/
def union (s t : CharSet) : CharSet :=
  if t.isEmpty || s.codes == t.codes then s
  else ⟨s.codes.union t.codes, s.caseless && t.caseless⟩

/-- The characters of both of two sets. -/
def inter (s t : CharSet) : CharSet :=
  if s.isEmpty then s
  else if t.isEmpty then empty
  else ⟨s.codes.inter t.codes, s.caseless && t.caseless⟩

/-- The characters of the first of two sets only. -/
def difference (s t : CharSet) : CharSet :=
  if s.isEmpty || t.isEmpty then s
  else ⟨s.codes.difference t.codes, s.caseless && t.caseless⟩

/-- The characters of exactly one of two sets. -/
def symmetricDifference (s t : CharSet) : CharSet := (s.union t).difference (s.inter t)

/-- The characters outside of a set. -/
def complement (s : CharSet) : CharSet :=
  if s.isEmpty then ⟨.full, true⟩ else ⟨s.codes.complement, s.caseless⟩

/-- The set with the other case of each ASCII letter in it. -/
def withAsciiCases (s : CharSet) : CharSet :=
  let shifted (up : Bool) (range : Nat × Nat) :=
    if up then (range.1 - 32, range.2 - 32) else (range.1 + 32, range.2 + 32)
  let capitals := (s.codes.between 'a'.toNat 'z'.toNat).map (shifted true)
  let smalls := (s.codes.between 'A'.toNat 'Z'.toNat).map (shifted false)
  ⟨CodeRanges.ofRanges (s.codes ++ capitals ++ smalls), true⟩

end CharSet

/-! ## Choices

A choice between patterns of one character is one of their characters, and of patterns that start
with the same items the start is kept once. -/

/-- One pattern after the other. -/
def inSequence (ps : List Pattern) : Pattern := ps.foldr followedBy .empty

/-- The set of a pattern of one character. -/
def set? : Pattern → Option CodeRanges
  | .one set => some set
  | _ => none

/-- A choice between patterns, none of which starts like all others. -/
def choose (branches : List Pattern) : Pattern :=
  match branches.mapM set? with
  | some sets => .one (CodeRanges.ofRanges sets.flatten)
  | none =>
    match branches.reverse with
    | [] => .empty
    | final :: others => others.foldl (fun right left => .choice left right) final

/-- Whether a pattern matches one character only. -/
def isChar : Pattern → Bool
  | .one set => (CodeRanges.single? set).isSome
  | _ => false

/-- The patterns that a pattern is a sequence of. -/
def pieces : Pattern → List Pattern
  | .empty => []
  | .sequence first second => first.pieces ++ second.pieces
  | p => [p]

/-- The items that a pattern is a sequence of: characters that follow each other are one item. -/
def items (p : Pattern) : List (List Pattern) := p.pieces.splitBy fun q r => q.isChar && r.isChar

/-- Whether the place of a part of a pattern is kept. -/
def hasCapture : Pattern → Bool
  | .capture _ => true
  | .empty | .one _ | .anchor _ => false
  | .sequence first second => first.hasCapture || second.hasCapture
  | .choice left right => left.hasCapture || right.hasCapture
  | .repetition body _ _ => body.hasCapture

/-- The items with which two sequences start, up to the first whose place is kept. -/
def commonStart : List (List Pattern) → List (List Pattern) → List (List Pattern)
  | item :: rest, other :: others =>
    if item = other ∧ !item.any hasCapture then item :: commonStart rest others else []
  | _, _ => []

/-- The items with which all of some sequences start; there is none if one of them has only a single
item. -/
def sharedStart : List (List (List Pattern)) → List (List Pattern)
  | [] => []
  | first :: others =>
    if (first :: others).all (1 < ·.length) then others.foldl commonStart first else []

/-- A choice between patterns. -/
def oneOf (branches : List Pattern) : Pattern :=
  let rows := branches.map items
  let shared := sharedStart rows
  if shared.isEmpty then choose branches
  else
    let rest := rows.map fun row => inSequence (row.drop shared.length).flatten
    (inSequence shared.flatten).followedBy (choose rest)

/-! ## Meanings

What a written pattern stands for depends on the flags that hold where it stands. Patterns are for
text: what could match a part of a character is refused. Sets of characters that need tables of all
scripts are refused too, and so is to leave case out of account in all scripts; both are there for
ASCII alone. -/

/-- The flags that hold somewhere. -/
structure Mode where
  ignoreCase : Bool
  byLine : Bool
  dotAll : Bool
  unicode : Bool
  returns : Bool
deriving DecidableEq

namespace Mode

/-- The flags at the start of a pattern. -/
def initial : Mode := ⟨false, false, false, true, false⟩

/-- The flags after a change. -/
def change (m : Mode) (c : FlagChange) : Mode :=
  match c.flag with
  | .ignoreCase => { m with ignoreCase := c.on }
  | .byLine => { m with byLine := c.on }
  | .dotAll => { m with dotAll := c.on }
  | .unicode => { m with unicode := c.on }
  | .returns => { m with returns := c.on }
  | .reluctant => m
  | .verbose => m

/-- The flags after some changes. -/
def changeAll (m : Mode) (changes : List FlagChange) : Mode := changes.foldl change m

end Mode

/-! ### Sets -/

/-- A range of characters as a range of code points. -/
def charRange (first last : Char) : Nat × Nat := (first.toNat, last.toNat)

/-- The code points of a named set. -/
def AsciiSet.ranges : AsciiSet → List (Nat × Nat)
  | .alnum => [charRange '0' '9', charRange 'A' 'Z', charRange 'a' 'z']
  | .alpha => [charRange 'A' 'Z', charRange 'a' 'z']
  | .ascii => [charRange '\x00' '\x7f']
  | .blank => [charRange '\t' '\t', charRange ' ' ' ']
  | .cntrl => [charRange '\x00' '\x1f', charRange '\x7f' '\x7f']
  | .digit => [charRange '0' '9']
  | .graph => [charRange '!' '~']
  | .lower => [charRange 'a' 'z']
  | .print => [charRange ' ' '~']
  | .punct => [charRange '!' '/', charRange ':' '@', charRange '[' '\x60', charRange '\x7b' '~']
  | .space => [charRange '\t' '\r', charRange ' ' ' ']
  | .upper => [charRange 'A' 'Z']
  | .word => [charRange '0' '9', charRange 'A' 'Z', charRange '_' '_', charRange 'a' 'z']
  | .xdigit => [charRange '0' '9', charRange 'A' 'F', charRange 'a' 'f']

/-- The ASCII characters that a backslash and a letter stand for. -/
def LetterSet.ascii : LetterSet → AsciiSet
  | .digit => .digit
  | .space => .space
  | .word => .word

namespace Mode

/-- A set in which case makes no difference if the flags say so. -/
def fold (m : Mode) (span : Span) (s : CharSet) : Except Fault CharSet :=
  if !m.ignoreCase then .ok s
  else if !m.unicode then .ok s.withAsciiCases
  else if s.caseless || s.isEmpty then .ok { s with caseless := true }
  else .error (.at .noScriptCases span)

/-- The characters outside of a set, if they are asked for; outside of a set of bytes there are
bytes that are no characters. -/
def negate (m : Mode) (span : Span) (negated : Bool) (s : CharSet) : Except Fault CharSet :=
  if !negated then .ok s
  else if m.unicode then .ok s.complement
  else .error (.at .noText span)

/-- The character that a literal stands for; a byte beyond ASCII is no character. -/
def char (m : Mode) (l : Literal) : Except Fault Char :=
  if !m.unicode && l.isByte && '\x7f' < l.char then .error (.at .noText l.span) else .ok l.char

/-- The character that a literal stands for in a set, which has only ASCII if it is one of bytes. -/
def charInSet (m : Mode) (l : Literal) : Except Fault Char := do
  let c ← m.char l
  if !m.unicode && '\x7f' < c then .error (.at .unicodeNotAllowed l.span) else .ok c

/-- The set that a backslash and a letter stand for. -/
def letterSet (m : Mode) (span : Span) (set : LetterSet) (negated : Bool) :
    Except Fault CharSet :=
  if m.unicode then .error (.at .noScriptClasses span)
  else m.negate span negated (.ofRanges set.ascii.ranges)

/-- The set with a name between colons. -/
def namedSet (m : Mode) (span : Span) (set : AsciiSet) (negated : Bool) :
    Except Fault CharSet := do
  m.negate span negated (← m.fold span (.ofRanges set.ranges))

end Mode

/-- The name of a Unicode property in the form in which names are compared: without a prefix `is`,
case, spaces, dashes and underscores. -/
def propertyKey (name : String) : String :=
  let chars := name.toList
  let lower := chars.map Char.toLower
  let chars := if ['i', 's'].isPrefixOf lower then lower.drop 2 else lower
  String.ofList (chars.filter fun c => c ≤ '\x7f' && c != ' ' && c != '_' && c != '-')

/-- Why there is no set with a Unicode property. There are no tables of properties; three names are
not looked up among properties, but among the values of one. -/
def propertyFault (m : Mode) (span : Span) (name : String) : Fault :=
  let isPair := name.toList.any fun c => c == ':' || c == '='
  let key := propertyKey name
  if !m.unicode then .at .unicodeNotAllowed span
  else if !isPair && (key == "cf" || key == "sc" || key == "lc") then
    .at .unknownPropertyValue span
  else .at .unknownProperty span

/-- Two sets combined. -/
def SetOperation.apply : SetOperation → CharSet → CharSet → CharSet
  | .inter, s, t => s.inter t
  | .difference, s, t => s.difference t
  | .symmetricDifference, s, t => s.symmetricDifference t

mutual

/-- A set with what a written set adds to it. -/
def SetTree.addTo (m : Mode) : SetTree → CharSet → Except Fault CharSet
  | .empty _, s => .ok s
  | .literal l, s => do
    let c ← m.charInSet l
    return s.insert c c
  | .range _ first last, s => do
    let low ← m.charInSet first
    let high ← m.charInSet last
    return s.insert low high
  | .named span set negated, s => return s.union (← m.namedSet span set negated)
  | .letter span set negated, s => return s.union (← m.letterSet span set negated)
  | .property span name _, _ => .error (propertyFault m span name)
  | .bracketed span negated content, s => do
    let inside ← content.addTo m .empty
    return s.union (← m.negate span negated (← m.fold span inside))
  | .union _ items, s => SetTree.addAllTo m items s
  | .combined _ operation left right, s => do
    let leftSet ← left.addTo m .empty
    let rightSet ← right.addTo m .empty
    let rightSet ← m.fold right.span rightSet
    let leftSet ← m.fold left.span leftSet
    return s.union (operation.apply leftSet rightSet)

/-- A set with what some written sets add to it. -/
def SetTree.addAllTo (m : Mode) : List SetTree → CharSet → Except Fault CharSet
  | [], s => .ok s
  | item :: rest, s => do SetTree.addAllTo m rest (← item.addTo m s)

end

/-! ### Patterns -/

/-- The pattern of a character. -/
def ofChar (m : Mode) (l : Literal) : Except Fault Pattern := do
  let c ← m.char l
  let s := CharSet.empty.insert c c
  if !m.ignoreCase then return .one s.codes
  else if m.unicode then .error (.at .noScriptCases l.span)
  else return .one s.withAsciiCases.codes

/-- The pattern of a dot. -/
def ofDot (m : Mode) (span : Span) : Except Fault Pattern :=
  let ends :=
    if m.dotAll then []
    else if m.returns then [charRange '\n' '\n', charRange '\r' '\r']
    else [charRange '\n' '\n']
  if m.unicode then .ok (.one (CodeRanges.complement ends)) else .error (.at .noText span)

/-- The anchor that is written by a mark. -/
def anchorOf (m : Mode) : Mark → Anchor
  | .lineStart => if m.byLine then .lineStart m.returns else .start
  | .lineFinish => if m.byLine then .lineFinish m.returns else .finish
  | .textStart => .start
  | .textFinish => .finish
  | .edge edge => if m.unicode then .scriptWord edge else .word edge

mutual

/-- The pattern of a tree where some flags hold, and the flags that hold behind it. -/
def ofTree : Tree → Mode → Except Fault (Pattern × Mode)
  | .empty _, m => .ok (.empty, m)
  | .flags _ changes, m => .ok (.empty, m.changeAll changes)
  | .literal l, m => return (← ofChar m l, m)
  | .dot span, m => return (← ofDot m span, m)
  | .mark _ mark, m => .ok (.anchor (anchorOf m mark), m)
  | .set s, m => return (.one (← s.addTo m .empty).codes, m)
  | .repetition _ body low high, m => do
    let (p, m) ← ofTree body m
    return (p.times low high, m)
  | .group _ .capture content, m => do
    let (p, _) ← ofTree content m
    return (.capture p, m)
  | .group _ (.plain changes) content, m => do
    let (p, _) ← ofTree content (m.changeAll changes)
    return (p, m)
  | .choice _ branches, m => do
    let (ps, m) ← ofTrees branches m
    return (oneOf ps, m)
  | .sequence _ items, m => do
    let (ps, m) ← ofTrees items m
    return (inSequence ps, m)

/-- The patterns of some trees one behind the other. -/
def ofTrees : List Tree → Mode → Except Fault (List Pattern × Mode)
  | [], m => .ok ([], m)
  | tree :: rest, m => do
    let (p, m) ← ofTree tree m
    let (ps, m) ← ofTrees rest m
    return (p :: ps, m)

end

end BatteryWatch.Log.Pattern
