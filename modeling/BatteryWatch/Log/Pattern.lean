import BatteryWatch.Text.CodeRanges

/-!
# Patterns

Regular expressions over the text of log records: characters, anchors, choice and repetition. A
pattern is matched by the places it can reach: from a set of places in a text, the places where a
match that starts at one of them can end. A text matches if any place is reached from any other.

A set of places is a number: place `i` belongs to it if bit `i` is set.
-/

namespace BatteryWatch.Log

open Text (CodeRanges)

/-- Where a pattern can ask for the edge of a word. -/
inductive Edge where
  | either
  | neither
  | start
  | finish
  /-- What comes before is no word. -/
  | startHalf
  /-- What comes after is no word. -/
  | finishHalf
deriving DecidableEq

/-- Whether the edge is between two characters, given whether they are parts of words. -/
def Edge.isBetween (before after : Bool) : Edge → Bool
  | .either => before != after
  | .neither => before == after
  | .start => !before && after
  | .finish => before && !after
  | .startHalf => !before
  | .finishHalf => !after

/-- Where an anchor holds. -/
inductive Anchor where
  | start
  | finish
  /-- Where a line starts, given that carriage returns end lines too or do not. -/
  | lineStart (returns : Bool)
  /-- Where a line ends, given that carriage returns end lines too or do not. -/
  | lineFinish (returns : Bool)
  /-- At an edge of a word of ASCII letters, digits and underscores. -/
  | word (edge : Edge)
  /-- At an edge of a word of any script, which no text is searched for. -/
  | scriptWord (edge : Edge)
deriving DecidableEq

/-- A regular expression. -/
inductive Pattern where
  | empty
  /-- One character of a set. -/
  | one (set : CodeRanges)
  | anchor (a : Anchor)
  | sequence (first second : Pattern)
  | choice (left right : Pattern)
  /-- At least `low` times, and at most `more` times beyond that if it is bounded. -/
  | repetition (body : Pattern) (low : Nat) (more : Option Nat)
  /-- A part whose place is kept. -/
  | capture (body : Pattern)
deriving DecidableEq

namespace Pattern

/-! ### Places -/

/-- The places up to the `n`th at which something holds. -/
def placesWhere (p : Nat → Bool) : Nat → Nat
  | 0 => if p 0 then 1 else 0
  | n + 1 => if p (n + 1) then placesWhere p n ||| 1 <<< (n + 1) else placesWhere p n

/-- Whether a character is part of a word. -/
def isWordChar (c : Char) : Bool := c.isAlphanum || c == '_'

/-- Whether a word goes on after a place. -/
def wordAfter (text : Array Char) (i : Nat) : Bool := (text[i]?).any isWordChar

/-- Whether a word goes on before a place. -/
def wordBefore (text : Array Char) (i : Nat) : Bool := 0 < i && wordAfter text (i - 1)

/-- The character before a place. -/
def charBefore? (text : Array Char) (i : Nat) : Option Char :=
  if i = 0 then none else text[i - 1]?

/-- Whether an anchor holds at a place. -/
def holdsAt (text : Array Char) (i : Nat) : Anchor → Bool
  | .start => i == 0
  | .finish => i == text.size
  | .lineStart returns =>
    i == 0 || charBefore? text i == some '\n' ||
      (returns && charBefore? text i == some '\r' && text[i]? != some '\n')
  | .lineFinish returns =>
    i == text.size || (returns && text[i]? == some '\r') ||
      (text[i]? == some '\n' && !(returns && charBefore? text i == some '\r'))
  | .word edge => edge.isBetween (wordBefore text i) (wordAfter text i)
  | .scriptWord _ => false

/-! ### Steps between places -/

/-- A step from sets of places to sets of places taken `n` times; a step that changes nothing need
not be taken again. -/
def iterate (step : Nat → Nat) : Nat → Nat → Nat
  | 0, places => places
  | n + 1, places =>
    let next := step places
    if next = places then places else iterate step n next

/-- The places reached by taking a step up to `n` times. -/
def closure (step : Nat → Nat) : Nat → Nat → Nat
  | 0, places => places
  | n + 1, places =>
    let more := places ||| step places
    if more = places then places else closure step n more

/-- The places where a match that starts at one of some places can end. -/
def reach (text : Array Char) : Pattern → Nat → Nat
  | .empty, places => places
  | .one set, places =>
    (places &&& placesWhere (fun i => (text[i]?).any fun c => set.contains c.toNat) text.size) <<< 1
  | .anchor a, places => places &&& placesWhere (fun i => holdsAt text i a) text.size
  | .sequence first second, places => second.reach text (first.reach text places)
  | .choice left right, places => left.reach text places ||| right.reach text places
  | .repetition body low more, places =>
    closure (body.reach text) (more.getD (text.size + 1)) (iterate (body.reach text) low places)
  | .capture body, places => body.reach text places

/-- Whether a pattern matches somewhere in a text. -/
def matchesIn (p : Pattern) (text : String) : Bool :=
  let chars := text.toList.toArray
  p.reach chars (placesWhere (fun _ => true) chars.size) != 0

/-! ### Making patterns -/

/-- One pattern after the other. -/
def followedBy : Pattern → Pattern → Pattern
  | .empty, second => second
  | first, .empty => first
  | first, second => .sequence first second

/-- Whether every match of a pattern is empty. -/
def staysInPlace : Pattern → Bool
  | .empty | .anchor _ => true
  | .one _ => false
  | .sequence first second => first.staysInPlace && second.staysInPlace
  | .choice left right => left.staysInPlace && right.staysInPlace
  | .repetition body _ _ => body.staysInPlace
  | .capture body => body.staysInPlace

/-- A pattern from `low` to `high` times: to stay in place once is to stay in place often. -/
def times (body : Pattern) (low : Nat) (high : Option Nat) : Pattern :=
  let (low, high) :=
    if body.staysInPlace then (min low 1, some (min (high.getD 1) 1)) else (low, high)
  match low, high with
  | 0, some 0 => .empty
  | 1, some 1 => body
  | low, high => .repetition body low (high.map (· - low))

/-- Whether a pattern asks for the edge of a word of any script. -/
def asksForScriptWord : Pattern → Bool
  | .anchor (.scriptWord _) => true
  | .anchor _ | .empty | .one _ => false
  | .sequence first second => first.asksForScriptWord || second.asksForScriptWord
  | .choice left right => left.asksForScriptWord || right.asksForScriptWord
  | .repetition body _ _ => body.asksForScriptWord
  | .capture body => body.asksForScriptWord

end Pattern

end BatteryWatch.Log
