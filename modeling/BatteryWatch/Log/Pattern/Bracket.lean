import BatteryWatch.Log.Pattern.Escape

/-!
# Reading sets between brackets

A set between brackets has characters, ranges, named sets and further sets between brackets as its
items, and operations that combine what stands before them with what follows.
-/

namespace BatteryWatch.Log.Pattern

/-- The set with a name between colons. -/
def AsciiSet.ofName? : String → Option AsciiSet
  | "alnum" => some .alnum
  | "alpha" => some .alpha
  | "ascii" => some .ascii
  | "blank" => some .blank
  | "cntrl" => some .cntrl
  | "digit" => some .digit
  | "graph" => some .graph
  | "lower" => some .lower
  | "print" => some .print
  | "punct" => some .punct
  | "space" => some .space
  | "upper" => some .upper
  | "word" => some .word
  | "xdigit" => some .xdigit
  | _ => none

/-- Items of a set that stand side by side, last first, and the part that they are read from. -/
structure Items where
  span : Span
  items : List SetTree

namespace Items

/-- No items so far. -/
def startingAt (p : Place) : Items := ⟨.at p, []⟩

/-- One more item. -/
def push (i : Items) (item : SetTree) : Items :=
  let start := if i.items.isEmpty then item.span.start else i.span.start
  ⟨⟨start, item.span.finish⟩, item :: i.items⟩

/-- The set of all items. -/
def toSet (i : Items) : SetTree :=
  match i.items with
  | [] => .empty i.span
  | [item] => item
  | items => .union i.span items.reverse

end Items

/-- What has been read of a set between brackets: its first part, up to the items, perhaps an
operation with the set on its left, and the items since then. -/
structure OpenSet where
  opening : Span
  negated : Bool
  left : Option (SetOperation × SetTree)
  items : Items

namespace OpenSet

/-- The set that has been read, without its brackets. -/
def content (o : OpenSet) : SetTree :=
  let right := o.items.toSet
  match o.left with
  | none => right
  | some (operation, left) => .combined ⟨left.span.start, right.span.finish⟩ operation left right

/-- One more item. -/
def push (o : OpenSet) (item : SetTree) : OpenSet := { o with items := o.items.push item }

/-- An operation on what has been read, which ends at a place. -/
def combine (o : OpenSet) (operation : SetOperation) (p : Place) : OpenSet :=
  { o with left := some (operation, o.content), items := .startingAt p }

end OpenSet

namespace Reader

/-- Takes a character and fails if nothing follows in a set that starts at a place. -/
def nextInSet (start : Place) (toHere : Bool) : Reader Unit := do
  next
  if (← peek?).isNone then fail .unclosedSet (← if toHere then spanFrom start else pure (.at start))

/-- Takes dashes, which stand for themselves at the start of a set, as long as fuel lasts. -/
def leadingDashes (start : Place) : Nat → Items → Reader Items
  | 0, items => return items
  | fuel + 1, items => do
    if (← peek?) == some '-' then
      let span ← spanOf 1
      nextInSet start false
      leadingDashes start fuel (items.push (.literal ⟨span, '-', false⟩))
    else return items

/-- Reads the start of a set, at its opening bracket: whether it is negated, and dashes or else a
closing bracket that stand for themselves. -/
def openSet : Reader OpenSet := do
  let start ← place
  nextInSet start true
  let negated := (← peek?) == some '^'
  if negated then nextInSet start true
  let items ← leadingDashes start (← get).chars.length (.startingAt (← place))
  if items.items.isEmpty && (← peek?) == some ']' then
    let span ← spanOf 1
    nextInSet start true
    return ⟨← spanFrom start, negated, none, items.push (.literal ⟨span, ']', false⟩)⟩
  else return ⟨← spanFrom start, negated, none, items⟩

/-- Reads a set with a name between colons, if there is one. -/
def namedSet : Reader (Option SetTree) := do
  let start ← place
  match (← get).chars with
  | '[' :: ':' :: inside =>
    let negated := inside.head? == some '^'
    let inside := if negated then inside.tail else inside
    let name := inside.takeWhile (· != ':')
    if [':', ']'].isPrefixOf (inside.drop name.length) then
      match AsciiSet.ofName? (String.ofList name) with
      | none => return none
      | some set =>
        skip (name.length + if negated then 5 else 4)
        return some (.named (← spanFrom start) set negated)
    else return none
  | _ => return none

/-- Reads an escape or a character that stands for itself. -/
def setAtom : Reader Atom := do
  match ← peek? with
  | none => fail .unclosedSet (← here)
  | some '\\' => escape
  | some c =>
    let span ← spanOf 1
    skip 1
    return .literal ⟨span, c, false⟩

/-- The set that an atom stands for. -/
def setOfAtom : Atom → Reader SetTree
  | .literal l => return .literal l
  | .set s => return s
  | .mark span _ => fail .anchorInSet span

/-- The character that an atom stands for. -/
def charOfAtom : Atom → Reader Literal
  | .literal l => return l
  | atom => fail .setInRange atom.span

/-- Whether the rest goes on with a dash between the ends of a range. -/
def isRangeDash (c : Cursor) : Bool :=
  c.chars.head? == some '-' && c.ahead? != some ']' && c.ahead? != some '-'

/-- Reads a range, or an atom that starts none, in a set with an opening. -/
def rangeOrAtom (opening : Span) : Reader SetTree := do
  let low ← setAtom
  modify Cursor.skipIgnored
  if (← peek?).isNone then fail .unclosedSet opening
  else if isRangeDash (← get) then
    next
    if (← peek?).isNone then fail .unclosedSet opening
    else
      let high ← setAtom
      let span : Span := ⟨low.span.start, high.span.finish⟩
      let first ← charOfAtom low
      let last ← charOfAtom high
      if first.char ≤ last.char then return .range span first last
      else fail .reversedRange span
  else setOfAtom low

/-- The operation that a doubled character stands for, if it is there. -/
def operation? (c : Cursor) : Option SetOperation :=
  if c.startsWith "&&" then some .inter
  else if c.startsWith "--" then some .difference
  else if c.startsWith "~~" then some .symmetricDifference
  else none

/-- Reads a set up to its closing bracket, as long as fuel lasts. -/
def setItems : Nat → OpenSet → Reader SetTree
  | 0, o => return o.content
  | fuel + 1, o => do
    modify Cursor.skipIgnored
    match ← peek? with
    | none => fail .unclosedSet o.opening
    | some '[' =>
      match ← namedSet with
      | some named => setItems fuel (o.push named)
      | none =>
        let inner ← setItems fuel (← openSet)
        setItems fuel (o.push inner)
    | some ']' =>
      skip 1
      return .bracketed (← spanFrom o.opening.start) o.negated o.content
    | some _ =>
      match operation? (← get) with
      | some operation =>
        skip 2
        setItems fuel (o.combine operation (← place))
      | none => setItems fuel (o.push (← rangeOrAtom o.opening))

/-- Reads a set, at its opening bracket. -/
def bracketed : Reader SetTree := do
  let fuel := (← get).chars.length
  setItems fuel (← openSet)

end Reader

end BatteryWatch.Log.Pattern
