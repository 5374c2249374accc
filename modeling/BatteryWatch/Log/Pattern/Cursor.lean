import BatteryWatch.Decimal
import BatteryWatch.Log.Pattern.Fault
import BatteryWatch.Text.CodeRanges

/-!
# Moving through a pattern

A cursor knows what is left of a pattern and where that is. Readers move it and fail with a fault.
Where blanks and comments are to be passed over, `next` passes over those behind the character that
it takes.
-/

namespace BatteryWatch.Log.Pattern

/-- What is left of a pattern, where that is, and what has to be remembered of the rest. -/
structure Cursor where
  chars : List Char
  place : Place
  /-- Whether blanks and comments are passed over. -/
  verbose : Bool
  /-- The names of the groups so far, and where they stand. -/
  names : List (String × Span)

/-- A step that reads something from a pattern. -/
abbrev Reader (α : Type) : Type := StateT Cursor (Except Fault) α

namespace Cursor

/-- A cursor at the start of a pattern. -/
def ofText (text : String) : Cursor := ⟨text.toList, .start, false, []⟩

/-- The cursor after `n` more characters. -/
def skip (c : Cursor) (n : Nat) : Cursor :=
  { c with chars := c.chars.drop n, place := (c.chars.take n).foldl Place.after c.place }

/-- How many characters at the start are blanks and comments, which go up to the end of a line. -/
def ignoredCount (inComment : Bool) : List Char → Nat
  | [] => 0
  | c :: rest =>
    if inComment then ignoredCount (c != '\n') rest + 1
    else if Text.isWhitespace c then ignoredCount false rest + 1
    else if c == '#' then ignoredCount true rest + 1
    else 0

/-- The cursor after the blanks and comments that are passed over. -/
def skipIgnored (c : Cursor) : Cursor :=
  if c.verbose then c.skip (ignoredCount false c.chars) else c

/-- The first character that is no blank and starts no comment; the text of a comment counts. -/
def firstAhead? (inComment : Bool) : List Char → Option Char
  | [] => none
  | c :: rest =>
    if Text.isWhitespace c then firstAhead? inComment rest
    else if !inComment && c == '#' then firstAhead? true rest
    else some c

/-- The character after the next one, past blanks if they are passed over and something follows
them. -/
def ahead? (c : Cursor) : Option Char :=
  let behind := c.chars.tail
  if c.verbose then (firstAhead? false behind).or behind.head? else behind.head?

/-- Whether the rest starts with a text. -/
def startsWith (c : Cursor) (text : String) : Bool := text.toList.isPrefixOf c.chars

end Cursor

namespace Reader

/-- Fails in a part of the pattern. -/
def fail {α : Type} (cause : Cause) (span : Span) : Reader α := throw (.at cause span)

/-- Where the cursor is. -/
def place : Reader Place := return (← get).place

/-- The next character, if there is one. -/
def peek? : Reader (Option Char) := return (← get).chars.head?

/-- Takes `n` characters. -/
def skip (n : Nat) : Reader Unit := modify (·.skip n)

/-- Takes a character and the blanks and comments behind it. -/
def next : Reader Unit := modify fun c => (c.skip 1).skipIgnored

/-- The part of the pattern from a place on to the cursor. -/
def spanFrom (start : Place) : Reader Span := return ⟨start, ← place⟩

/-- The part of the pattern where nothing has been read yet. -/
def here : Reader Span := return .at (← place)

/-- The part of the pattern that the next `n` characters make up. -/
def spanOf (n : Nat) : Reader Span := do
  let c ← get
  return ⟨c.place, (c.skip n).place⟩

/-- Takes the characters up to the first that fails a test, each with what is ignored behind it, as
long as fuel lasts. -/
def takeWhileUpTo (p : Char → Bool) : Nat → Reader (List Char)
  | 0 => return []
  | fuel + 1 => do
    match ← peek? with
    | none => return []
    | some c =>
      if p c then
        next
        return c :: (← takeWhileUpTo p fuel)
      else return []

/-- Takes the characters up to the first that fails a test, each with what is ignored behind it. -/
def takeWhile (p : Char → Bool) : Reader (List Char) := do takeWhileUpTo p (← get).chars.length

end Reader

end BatteryWatch.Log.Pattern
