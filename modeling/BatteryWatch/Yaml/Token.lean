/-!
# Tokens

The characters of a YAML text, read by a cursor that knows where it is, and the words they form.
-/

namespace BatteryWatch.Yaml

/-! ## Reading YAML text

Positions in a text, the characters that separate things in YAML, and a cursor that moves forward
through a text and knows where it is. A line ends at a line feed, a carriage return, both in this
order, or one of three rarer characters. -/

/-- A position in a text: the number of bytes before it, and its line and its column in characters,
counted from zero. -/
structure Mark where
  index : Nat
  line : Nat
  column : Nat
deriving DecidableEq

/-- The first position of a text. -/
def Mark.start : Mark := ⟨0, 0, 0⟩

/-- A position for people, who count from one; the first position goes without saying. -/
def Mark.suffix (m : Mark) : String :=
  if m.line = 0 ∧ m.column = 0 then "" else s!" at line {m.line + 1} column {m.column + 1}"

/-- Why a text is not YAML. -/
structure SyntaxError where
  problem : String
  mark : Mark
deriving DecidableEq

/-- The text of a syntax error. -/
def SyntaxError.message (e : SyntaxError) : String := e.problem ++ e.mark.suffix

/-- What stands for the end of a text; it is not allowed inside one. -/
def endOfText : Char := '\x00'

/-- Whether a character ends a line. -/
def isBreak (c : Char) : Bool :=
  c == '\n' || c == '\r' || c == '\u0085' || c == '\u2028' || c == '\u2029'

/-- Whether a character is a space or a tab. -/
def isBlank (c : Char) : Bool := c == ' ' || c == '\t'

/-- Whether a character ends a line or the text. -/
def isBreakOrEnd (c : Char) : Bool := isBreak c || c == endOfText

/-- Whether a character separates words. -/
def isSpaceOrEnd (c : Char) : Bool := isBlank c || isBreakOrEnd c

/-- The mark of byte order, which may start any line. -/
def byteOrderMark : Char := '\uFEFF'

/-- Whether a character can stand in a name. -/
def isNameChar (c : Char) : Bool := c.isAlphanum || c == '_' || c == '-'

/-- Whether a character is allowed in a text. -/
def isAllowed (c : Char) : Bool :=
  let n := c.toNat
  n == 0x09 || n == 0x0A || n == 0x0D || (0x20 ≤ n && n ≤ 0x7E) || n == 0x85 ||
    (0xA0 ≤ n && n ≤ 0xD7FF) || (0xE000 ≤ n && n ≤ 0xFFFD) || 0x10000 ≤ n

/-- What is left of a text, and where it starts. -/
structure Cursor where
  rest : List Char
  mark : Mark

namespace Cursor

/-- A cursor at the start of a text. -/
def ofText (text : List Char) : Cursor := ⟨text, .start⟩

/-- The character `n` places ahead. -/
def peek (c : Cursor) (n : Nat) : Char := c.rest.getD n endOfText

/-- The next character. -/
def head (c : Cursor) : Char := c.peek 0

/-- Whether nothing is left. -/
def atEnd (c : Cursor) : Bool := c.head == endOfText

/-- The number of bytes that the next `n` characters take. -/
def width (c : Cursor) (n : Nat) : Nat :=
  (c.rest.take n).foldl (fun bytes char => bytes + char.utf8Size) 0

/-- Passes `n` characters of the same line. -/
def skip (c : Cursor) (n : Nat) : Cursor :=
  ⟨c.rest.drop n,
    { c.mark with index := c.mark.index + c.width n, column := c.mark.column + n }⟩

/-- The characters of the line up to the first that fails a test, and the cursor behind them. -/
def takeWhile (c : Cursor) (p : Char → Bool) : List Char × Cursor :=
  let taken := c.rest.takeWhile p
  (taken, c.skip taken.length)

/-- Passes the characters of the line up to the first that fails a test. -/
def skipWhile (c : Cursor) (p : Char → Bool) : Cursor := (c.takeWhile p).2

/-- Passes `n` characters that end a line. -/
def newline (c : Cursor) (n : Nat) : Cursor :=
  ⟨c.rest.drop n, ⟨c.mark.index + c.width n, c.mark.line + 1, 0⟩⟩

/-- The end of a line as it counts in a scalar, and the cursor behind it. -/
def takeBreak (c : Cursor) : List Char × Cursor :=
  match c.rest with
  | '\r' :: '\n' :: _ => (['\n'], c.newline 2)
  | x :: _ =>
    if x == '\u2028' || x == '\u2029' then ([x], c.newline 1)
    else if isBreak x then (['\n'], c.newline 1)
    else ([], c)
  | [] => ([], c)

/-- Passes the end of a line. -/
def skipBreak (c : Cursor) : Cursor := c.takeBreak.2

/-- Passes a mark of byte order at the start of a line; it takes a column. -/
def skipByteOrderMark (c : Cursor) : Cursor :=
  if c.mark.column == 0 && c.head == byteOrderMark then c.skip 1 else c

/-- Passes a comment up to the end of the line. -/
def skipComment (c : Cursor) : Cursor :=
  if c.head == '#' then c.skipWhile fun x => !isBreakOrEnd x else c

/-- Whether the line starts with three equal characters and nothing more in the word. -/
def startsWithTriple (c : Cursor) (x : Char) : Bool :=
  c.mark.column == 0 && c.head == x && c.peek 1 == x && c.peek 2 == x && isSpaceOrEnd (c.peek 3)

/-- Whether the line starts or ends a document. -/
def atDocumentMarker (c : Cursor) : Bool := c.startsWithTriple '-' || c.startsWithTriple '.'

/-- Fails at the cursor's position. -/
def fail {α : Type} (c : Cursor) (problem : String) : Except SyntaxError α :=
  .error ⟨problem, c.mark⟩

end Cursor

/-! ## Words

The words of a YAML text: the marks that start and end documents and collections, the marks between
entries, the properties of a node and its scalar text. -/

/-- How a scalar is written. -/
inductive ScalarStyle where
  | plain
  | singleQuoted
  | doubleQuoted
  | literal
  | folded
deriving DecidableEq

/-- What a token is. -/
inductive TokenKind where
  | streamEnd
  | versionDirective (major minor : Nat)
  | tagDirective (handle expansion : String)
  | documentStart
  | documentEnd
  | blockSequenceStart
  | blockMappingStart
  | blockEnd
  | flowSequenceStart
  | flowSequenceEnd
  | flowMappingStart
  | flowMappingEnd
  | blockEntry
  | flowEntry
  | key
  | value
  | alias (name : String)
  | anchor (name : String)
  | tag (handle suffix : String)
  | scalar (text : String) (style : ScalarStyle)
deriving DecidableEq

/-- A token with the positions where it starts and where it ends. -/
structure Token where
  kind : TokenKind
  start : Mark
  stop : Mark
deriving DecidableEq

end BatteryWatch.Yaml
