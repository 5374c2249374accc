import BatteryWatch.Log.Pattern.Cursor
import BatteryWatch.Log.Pattern.Tree

/-!
# Reading escapes

What a backslash and the characters behind it stand for: a character, a set of characters or an
anchor.
-/

namespace BatteryWatch.Log.Pattern

/-- What is written without brackets. -/
inductive Atom where
  | literal (l : Literal)
  | set (s : SetTree)
  | mark (span : Span) (m : Mark)

/-- The part of a pattern that an atom is read from. -/
def Atom.span : Atom → Span
  | .literal l => l.span
  | .set s => s.span
  | .mark span _ => span

namespace Reader

/-! ### Characters by number -/

/-- The character with a hexadecimal number. -/
def scalar? (digits : List Char) : Option Char :=
  match Decimal.natural? 16 digits with
  | none => none
  | some n => if n.isValidChar then some (Char.ofNat n) else none

/-- Whether a character is a hexadecimal digit. -/
def isHexDigit (c : Char) : Bool := (Decimal.digitValue? 16 c).isSome

/-- Takes `n` hexadecimal digits. -/
def hexDigits : Nat → Reader (List Char)
  | 0 => return []
  | n + 1 => do
    match ← peek? with
    | none => fail .incompleteEscape (← here)
    | some c =>
      if isHexDigit c then
        next
        return c :: (← hexDigits n)
      else fail .invalidHexDigit (← spanOf 1)

/-- Reads a character by a fixed number of digits. -/
def fixedHex (start : Place) (count : Nat) : Reader Literal := do
  let first ← place
  let digits ← hexDigits count
  match scalar? digits with
  | none => fail .noScalarValue (← spanFrom first)
  | some c => return ⟨← spanFrom start, c, count == 2⟩

/-- Reads a character by digits between braces, of which the first is next. -/
def bracedHex (start : Place) : Reader Literal := do
  let brace ← place
  let first := (← spanOf 1).finish
  next
  let digits ← takeWhile isHexDigit
  match ← peek? with
  | none => fail .incompleteEscape (← spanFrom brace)
  | some '\x7d' =>
    let final ← place
    next
    if digits.isEmpty then fail .emptyHex (← spanFrom brace)
    else
      match scalar? digits with
      | none => fail .noScalarValue ⟨first, final⟩
      | some c => return ⟨← spanFrom start, c, false⟩
  | some _ => fail .invalidHexDigit (← spanOf 1)

/-- Reads a character by its number, at the letter that says how many digits it has. -/
def hex (start : Place) (count : Nat) : Reader Literal := do
  next
  if (← peek?) == some '\x7b' then bracedHex start else fixedHex start count

/-! ### Sets -/

/-- Reads a set with a Unicode property, at the letter that announces it. -/
def property (start : Place) (negated : Bool) : Reader SetTree := do
  next
  match ← peek? with
  | none => fail .incompleteEscape (← here)
  | some '\x7b' =>
    next
    let name ← takeWhile (· != '\x7d')
    if (← peek?).isNone then fail .incompleteEscape (← here)
    else
      skip 1
      return .property (← spanFrom start) (String.ofList name) negated
  | some '\\' => fail .invalidProperty (← spanOf 1)
  | some c =>
    next
    return .property (← spanFrom start) (String.singleton c) negated

/-- The set that a letter stands for, and whether it is the set of all other characters. -/
def letterSet? : Char → Option (LetterSet × Bool)
  | 'd' => some (.digit, false)
  | 's' => some (.space, false)
  | 'w' => some (.word, false)
  | 'D' => some (.digit, true)
  | 'S' => some (.space, true)
  | 'W' => some (.word, true)
  | _ => none

/-! ### Anchors -/

/-- The edge of a word that a name between braces stands for. -/
def edge? : String → Option Edge
  | "start" => some .start
  | "end" => some .finish
  | "start-half" => some .startHalf
  | "end-half" => some .finishHalf
  | _ => none

/-- Whether a character can stand in the name of an edge. -/
def isEdgeChar (c : Char) : Bool := c.isAlpha || c == '-'

/-- Reads the name of an edge between braces, if what follows the opening brace can be one. -/
def namedEdge (start : Place) : Reader (Option Edge) := do
  let brace ← get
  next
  let first ← place
  match ← peek? with
  | none => fail .unclosedEdgeOrCount (← spanFrom start)
  | some c =>
    if isEdgeChar c then
      let name ← takeWhile isEdgeChar
      if (← peek?) != some '\x7d' then fail .unclosedEdge (← spanFrom brace.place)
      else
        let final ← place
        skip 1
        match edge? (String.ofList name) with
        | none => fail .unknownEdge ⟨first, final⟩
        | some edge => return some edge
    else
      set brace
      return none

/-- Reads what may follow the letter of an edge. -/
def edge (start : Place) : Reader Edge := do
  if (← peek?) == some '\x7b' then return (← namedEdge start).getD .either else return .either

/-- The character that a letter after a backslash stands for. -/
def control? : Char → Option Char
  | 'a' => some '\x07'
  | 'f' => some '\x0c'
  | 't' => some '\t'
  | 'n' => some '\n'
  | 'r' => some '\r'
  | 'v' => some '\x0b'
  | _ => none

/-- Whether a backslash makes a character stand for itself. -/
def isSelf (c : Char) : Bool := c ≤ '\x7f' && !c.isAlphanum && c != '<' && c != '>'

/-- Reads what is left of an escape after the character behind its backslash. -/
def afterEscape (start : Place) (c : Char) : Reader Atom := do
  let span ← spanFrom start
  if isSelf c then return .literal ⟨span, c, false⟩
  else
    match control? c, c with
    | some control, _ => return .literal ⟨span, control, false⟩
    | none, 'A' => return .mark span .textStart
    | none, 'z' => return .mark span .textFinish
    | none, 'b' =>
      let found ← edge start
      return .mark (← spanFrom start) (.edge found)
    | none, 'B' => return .mark span (.edge .neither)
    | none, '<' => return .mark span (.edge .start)
    | none, '>' => return .mark span (.edge .finish)
    | none, _ => fail .unknownEscape span

/-- Reads an escape, at its backslash. -/
def escape : Reader Atom := do
  let start ← place
  skip 1
  match ← peek? with
  | none => fail .incompleteEscape (← spanFrom start)
  | some 'x' => return .literal (← hex start 2)
  | some 'u' => return .literal (← hex start 4)
  | some 'U' => return .literal (← hex start 8)
  | some 'p' => return .set (← property start false)
  | some 'P' => return .set (← property start true)
  | some c =>
    skip 1
    if c.isDigit then fail .backreference (← spanFrom start)
    else
      match letterSet? c with
      | some (set, negated) => return .set (.letter (← spanFrom start) set negated)
      | none => afterEscape start c

end Reader

end BatteryWatch.Log.Pattern
