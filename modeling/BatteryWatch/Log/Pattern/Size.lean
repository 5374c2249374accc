import BatteryWatch.Log.Pattern

/-!
# Size of patterns

Patterns are refused if an automaton for them would be too large. The automaton reads bytes: it has
a state for each byte of a character, a table of byte ranges for a set, and forks for choices and
repetitions. It is built once for each direction; both share what they can of the characters in a
set, one at their ends and the other at their starts.
-/

namespace BatteryWatch.Log.Pattern

open Text (CodeRanges)

/-- In which direction an automaton reads. -/
inductive Direction where
  | forward
  | backward
deriving DecidableEq

/-- The size of a state. -/
def stateSize : Nat := 32

/-- The size of a way from a table of byte ranges. -/
def rangeSize : Nat := 8

/-- The size of a way from a fork. -/
def forkSize : Nat := 4

/-- The size of several parts together. -/
def total (sizes : List Nat) : Nat := sizes.foldl (· + ·) 0

/-! ### Sets as bytes -/

/-- The encodings of some characters: for each position the range of its bytes. -/
abbrev ByteRanges := List (Nat × Nat)

/-- The numbers between two others in digits of six bits, `k` of them behind the first: as few rows
of digit ranges as give exactly these numbers. -/
def digitRows (low high : Nat) : Nat → List ByteRanges
  | 0 => [[(low, high)]]
  | k + 1 =>
    let unit := 1 <<< (6 * (k + 1))
    let first := low / unit
    let last := high / unit
    let rows (digit low high : Nat) := (digitRows low high k).map ((digit, digit) :: ·)
    if first = last then rows first (low % unit) (high % unit)
    else
      let cutsFirst := low % unit ≠ 0
      let cutsLast := high % unit ≠ unit - 1
      let firstWhole := if cutsFirst then first + 1 else first
      let lastWhole := if cutsLast then last - 1 else last
      (if cutsFirst then rows first (low % unit) (unit - 1) else []) ++
        (if firstWhole ≤ lastWhole then
          [(firstWhole, lastWhole) :: List.replicate (k + 1) (0, 63)] else []) ++
        (if cutsLast then rows last 0 (high % unit) else [])

/-- A range of digits as a range of bytes. -/
def offset (n : Nat) (range : Nat × Nat) : Nat × Nat := (n + range.1, n + range.2)

/-- Rows of digit ranges as encodings whose first bytes start at `lead`. -/
def encodings (lead : Nat) : ByteRanges → ByteRanges
  | [] => []
  | first :: rest => offset lead first :: rest.map (offset 0x80)

/-- The code points whose encodings have one length: the first, the last, what is added to the first
byte and how many bytes follow it. -/
def encodingBlocks : List (Nat × Nat × Nat × Nat) :=
  [(0, 0x7F, 0, 0), (0x80, 0x7FF, 0xC0, 1), (0x800, 0xD7FF, 0xE0, 2), (0xE000, 0xFFFF, 0xE0, 2),
    (0x10000, 0x10FFFF, 0xF0, 3)]

/-- The encodings of the characters in a set, in increasing order. -/
def byteRows (set : CodeRanges) : List ByteRanges :=
  encodingBlocks.flatMap fun (low, high, lead, count) =>
    (set.between low high).flatMap fun range =>
      (digitRows range.1 range.2 count).map (encodings lead)

/-- The first bytes of some rows. -/
def firstBytes (rows : List ByteRanges) : List (Nat × Nat) := (rows.filterMap List.head?).eraseDups

/-- What follows a first byte in some rows. -/
def rowsBehind (first : Nat × Nat) (rows : List ByteRanges) : List ByteRanges :=
  (rows.filter (·.head? == some first)).map List.tail

/-- What is left to be read in rows of up to `n` bytes, and behind each of their starts that is no
whole row. -/
def remainders : Nat → List ByteRanges → List (List ByteRanges)
  | 0, _ => []
  | n + 1, rows =>
    if (firstBytes rows).isEmpty then []
    else rows :: (firstBytes rows).flatMap fun first => remainders n (rowsBehind first rows)

/-- The starts of a row. -/
def starts (row : ByteRanges) : List ByteRanges :=
  (List.range row.length).map fun i => row.take (i + 1)

/-- The size of a set: one table for ASCII, and else shared states for characters of several
bytes. -/
def setSize (d : Direction) (set : CodeRanges) : Nat :=
  let rows := byteRows set
  if set.isAscii then 2 * stateSize + rangeSize * set.length
  else
    match d with
    | .forward =>
      let tables := (remainders 4 rows).eraseDups
      let table (rows : List ByteRanges) := stateSize + rangeSize * (firstBytes rows).length
      stateSize + total (tables.map table)
    | .backward =>
      let shared := (rows.flatMap starts).eraseDups
      2 * stateSize + forkSize * rows.length + stateSize * shared.length

/-- The size of one character out of a set. -/
def oneSize (d : Direction) (set : CodeRanges) : Nat :=
  match CodeRanges.single? set with
  | some code => stateSize * (Char.ofNat code).utf8Size
  | none => setSize d set

/-! ### Texts as bytes -/

/-- The bytes of the one text that a pattern matches, if there is just one. -/
def literal? : Pattern → Option (List UInt8)
  | .one set => (CodeRanges.single? set).map fun code =>
      (String.singleton (Char.ofNat code)).toUTF8.toList
  | .sequence first second => do return (← first.literal?) ++ (← second.literal?)
  | _ => none

/-- The bytes of the texts that a choice is between, if it is between texts. -/
def literals? : Pattern → Option (List (List UInt8))
  | .choice left right => do return (← left.literals?) ++ (← right.literals?)
  | p => p.literal?.map ([·])

/-- Texts between the places where a text ends; at the start several ends are one. -/
def segments (texts : List (List UInt8)) : List (List (List UInt8)) :=
  let others := texts.dropWhile List.isEmpty
  let parts := others.splitOnP List.isEmpty
  if (texts.head?.map List.isEmpty).getD false then [] :: parts else parts

/-- What follows a byte in some texts. -/
def behind (first : UInt8) (texts : List (List UInt8)) : List (List UInt8) :=
  (texts.filter (·.head? == some first)).map List.tail

/-- The size of the states that read texts of up to `n` bytes together: those with the same start
share its states as long as no other ends in between. -/
def trieSize : Nat → List (List UInt8) → Nat
  | 0, _ => 0
  | n + 1, texts =>
    if texts.all List.isEmpty then 0
    else
      let parts := segments texts
      let bytes := parts.map fun part => (part.filterMap List.head?).eraseDups
      let tables := (bytes.filter (!·.isEmpty)).map fun firsts =>
        if firsts.length = 1 then stateSize else stateSize + rangeSize * firsts.length
      let forks := tables.length + (parts.length - 1)
      let inner := (parts.zip bytes).flatMap fun (part, firsts) =>
        firsts.map fun first => trieSize n (behind first part)
      total tables + stateSize + forkSize * forks + total inner

/-- The size of a choice between texts. -/
def textsSize (d : Direction) (texts : List (List UInt8)) : Nat :=
  let texts := match d with
    | .forward => texts
    | .backward => texts.map List.reverse
  stateSize + trieSize ((texts.map List.length).foldl max 0) texts

/-! ### Patterns -/

/-- The size of a pattern, whether it ends in a fork, which grows with what follows, and the size
of the pattern as one or, for a choice, several branches of a choice. -/
structure Size where
  bytes : Nat
  endsInFork : Bool
  asBranch : Nat
deriving DecidableEq

namespace Size

/-- How much the end of a pattern grows with what follows. -/
def growth (s : Size) : Nat := if s.endsInFork then forkSize else 0

/-- A size that is the same for a pattern and its end. -/
def of (bytes : Nat) (endsInFork : Bool) : Size :=
  ⟨bytes, endsInFork, bytes + forkSize + if endsInFork then forkSize else 0⟩

/-- One pattern, then another. -/
def followedBy (first second : Size) : Size :=
  .of (first.bytes + first.growth + second.bytes) second.endsInFork

/-- A choice between two patterns, given its size if it is one between texts. -/
def choice (left right : Size) (asTexts : Option Nat) : Size :=
  let branches := left.asBranch + right.asBranch
  ⟨asTexts.getD (2 * stateSize + branches), false, branches⟩

/-- A pattern `n` times. -/
def exactly (s : Size) : Nat → Size
  | 0 => .of stateSize false
  | n + 1 => .of ((n + 1) * s.bytes + n * s.growth) s.endsInFork

/-- A pattern at least `n` times; if it can be empty, `n = 0` needs a way around the fork. -/
def atLeast (s : Size) (isLong : Bool) : Nat → Size
  | 0 =>
    if isLong then .of (s.bytes + s.growth + stateSize + forkSize) true
    else .of (s.bytes + s.growth + 3 * stateSize + 4 * forkSize) false
  | n + 1 => .of ((n + 1) * (s.bytes + s.growth) + stateSize + forkSize) true

/-- A pattern `n` times and up to `more` times beyond that. -/
def upTo (s : Size) (n more : Nat) : Size :=
  let always := s.exactly n
  let each := stateSize + 2 * forkSize + s.bytes + s.growth
  .of (always.bytes + always.growth + stateSize + more * each) false

/-- A pattern once or not at all. -/
def optional (s : Size) : Size := .of (s.bytes + s.growth + 2 * stateSize + 2 * forkSize) false

/-- A repetition of a pattern. -/
def times (s : Size) (isLong : Bool) (low : Nat) : Option Nat → Size
  | none => s.atLeast isLong low
  | some 0 => s.exactly low
  | some (more + 1) => if low = 0 ∧ more = 0 then s.optional else s.upTo low (more + 1)

/-- A pattern whose place is kept, which it is in one direction only. -/
def capture (s : Size) : Direction → Size
  | .forward => .of (s.bytes + s.growth + 2 * stateSize) false
  | .backward => .of s.bytes s.endsInFork

end Size

/-- The length of the shortest match of a pattern, unless a part of it matches nothing. -/
def leastLength? : Pattern → Option Nat
  | .empty => some 0
  | .one set => if set.isEmpty then none else some 1
  | .anchor _ => some 0
  | .sequence first second => do return (← first.leastLength?) + (← second.leastLength?)
  | .choice left right => do return min (← left.leastLength?) (← right.leastLength?)
  | .repetition body low _ => do return (← body.leastLength?) * low
  | .capture body => body.leastLength?

/-- The size of a pattern. -/
def size (d : Direction) : Pattern → Size
  | .empty => .of stateSize false
  | .one set => .of (oneSize d set) false
  | .anchor _ => .of stateSize false
  | .sequence first second =>
    match d with
    | .forward => (first.size d).followedBy (second.size d)
    | .backward => (second.size d).followedBy (first.size d)
  | .choice left right =>
    (left.size d).choice (right.size d) ((literals? (.choice left right)).map (textsSize d))
  | .repetition body low more => (body.size d).times (body.leastLength?.any (0 < ·)) low more
  | .capture body => (body.size d).capture d

/-- Whether every match of a pattern starts at the start of the text or, read backward, at its
end. -/
def isAnchored (d : Direction) : Pattern → Bool
  | .anchor .start => d == .forward
  | .anchor .finish => d == .backward
  | .anchor _ | .empty | .one _ => false
  | .sequence first second =>
    match d with
    | .forward => first.isAnchored d || (first.staysInPlace && second.isAnchored d)
    | .backward => second.isAnchored d || (second.staysInPlace && first.isAnchored d)
  | .choice left right => left.isAnchored d && right.isAnchored d
  | .repetition body low _ => 0 < low && body.isAnchored d
  | .capture body => body.isAnchored d

/-- The size of what reads up to the start of a match, which may be any byte any number of times. -/
def leadSize (isAnchored : Bool) : Nat :=
  if isAnchored then stateSize else 3 * stateSize + rangeSize + 2 * forkSize

/-- The size of an automaton for a pattern, which keeps the place of the whole match. -/
def automatonSize (d : Direction) (p : Pattern) : Nat :=
  let s := (p.size d).capture d
  leadSize (p.isAnchored d) + s.bytes + s.growth + stateSize

end BatteryWatch.Log.Pattern
