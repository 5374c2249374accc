import BatteryWatch.Decimal
import BatteryWatch.Yaml.Token

/-!
# Scalar tokens

The four ways to write a scalar. In plain and quoted scalars line breaks are folded: one becomes a
space, of several the first is dropped. Block scalars keep their lines, the folded ones joining
lines that do not start with a blank. The number of steps of every loop is bounded by the length of
the text, which is passed along as `fuel`.
-/

namespace BatteryWatch.Yaml

/-- Blanks and line breaks between two words of a scalar, the last ones first. -/
structure Gap where
  /-- Whether a line has ended. -/
  broken : Bool
  blanks : List Char
  firstBreak : List Char
  moreBreaks : List Char

/-- No gap. -/
def Gap.none : Gap := ⟨false, [], [], []⟩

/-- What a gap counts for in the text of a scalar, in reverse. -/
def Gap.folded (g : Gap) : List Char :=
  if g.broken then
    if g.firstBreak.head? == some '\n' then
      if g.moreBreaks.isEmpty then [' '] else g.moreBreaks
    else g.moreBreaks ++ g.firstBreak
  else g.blanks

/-- Passes blanks and line breaks; `tabsFrom` is the column from which a tab may indent. -/
def Gap.scan (tabsFrom : Nat) : Nat → Gap → Cursor → Except SyntaxError (Gap × Cursor)
  | 0, g, c => .ok (g, c)
  | fuel + 1, g, c =>
    if isBlank c.head then
      if g.broken && c.mark.column < tabsFrom && c.head == '\t' then
        c.fail "found a tab character that violates indentation"
      else if g.broken then Gap.scan tabsFrom fuel g (c.skip 1)
      else Gap.scan tabsFrom fuel { g with blanks := c.head :: g.blanks } (c.skip 1)
    else if isBreak c.head then
      let (line, next) := c.takeBreak
      if g.broken then
        Gap.scan tabsFrom fuel { g with moreBreaks := line ++ g.moreBreaks } next
      else Gap.scan tabsFrom fuel { g with broken := true, blanks := [], firstBreak := line } next
    else .ok (g, c)

/-- Whether a character separates entries of a flow collection. -/
def isFlowIndicator (c : Char) : Bool :=
  c == ',' || c == '[' || c == ']' || c == '\x7b' || c == '\x7d'

/-- The length of the word of a plain scalar at the cursor. -/
def plainWordLength (flow : Bool) : List Char → Except String Nat
  | [] => .ok 0
  | x :: rest =>
    let next := rest.headD endOfText
    if isSpaceOrEnd x then .ok 0
    else if flow && x == ':' && (next == '?' || isFlowIndicator next) then
      .error "found unexpected ':'"
    else if x == ':' && isSpaceOrEnd next || flow && isFlowIndicator x then .ok 0
    else (plainWordLength flow rest).map (· + 1)

/-- The text of a plain scalar in reverse, the gap behind it, where it ends and the cursor behind
the gap. -/
structure PlainScan where
  text : List Char
  gap : Gap
  stop : Mark
  cursor : Cursor

/-- Reads a plain scalar word by word. -/
def PlainScan.continue (flow : Bool) (indent : Nat) :
    Nat → PlainScan → Except SyntaxError PlainScan
  | 0, s => .ok s
  | fuel + 1, s =>
    let c := s.cursor
    if c.atDocumentMarker || c.head == '#' then .ok s
    else
      match plainWordLength flow c.rest with
      | .error problem => c.fail problem
      | .ok 0 => .ok s
      | .ok length =>
        let next := c.skip length
        let text := (c.rest.take length).reverse ++ (s.gap.folded ++ s.text)
        if isBlank next.head || isBreak next.head then do
          let (gap, behind) ← Gap.scan indent fuel .none next
          let s : PlainScan := ⟨text, gap, next.mark, behind⟩
          if !flow && behind.mark.column < indent then return s
          else PlainScan.continue flow indent fuel s
        else .ok ⟨text, .none, next.mark, next⟩

/-- A plain scalar, the cursor behind it, and whether a line has ended behind it. -/
def plainScalar (fuel : Nat) (flow : Bool) (indent : Nat) (c : Cursor) :
    Except SyntaxError (Token × Cursor × Bool) := do
  let s ← PlainScan.continue flow indent fuel ⟨[], .none, c.mark, c⟩
  let text := String.ofList s.text.reverse
  return (⟨.scalar text .plain, c.mark, s.stop⟩, s.cursor, s.gap.broken)

/-- The character of a one-letter escape. -/
def simpleEscape? : Char → Option Char
  | '0' => some '\x00'
  | 'a' => some '\x07'
  | 'b' => some '\x08'
  | 't' => some '\t'
  | '\t' => some '\t'
  | 'n' => some '\n'
  | 'v' => some '\x0b'
  | 'f' => some '\x0c'
  | 'r' => some '\r'
  | 'e' => some '\x1b'
  | ' ' => some ' '
  | '"' => some '"'
  | '/' => some '/'
  | '\\' => some '\\'
  | 'N' => some '\u0085'
  | '_' => some '\u00a0'
  | 'L' => some '\u2028'
  | 'P' => some '\u2029'
  | _ => none

/-- The number of hexadecimal digits after the letter of an escape. -/
def escapeDigits? : Char → Option Nat
  | 'x' => some 2
  | 'u' => some 4
  | 'U' => some 8
  | _ => none

/-- The character of the escape at the cursor, and the cursor behind it. -/
def escape (c : Cursor) : Except SyntaxError (Char × Cursor) :=
  match simpleEscape? (c.peek 1), escapeDigits? (c.peek 1) with
  | some x, _ => .ok (x, c.skip 2)
  | none, none => c.fail "found unknown escape character"
  | none, some count =>
    let digits := (c.rest.drop 2).take count
    match if digits.length = count then Decimal.natural? 16 digits else none with
    | none => c.fail "did not find expected hexdecimal number"
    | some code =>
      if h : code.isValidChar then .ok (Char.ofNatAux code h, c.skip (2 + count))
      else c.fail "found invalid Unicode character escape code"

/-- A word of a quoted scalar: its text, the cursor behind it, and whether an escaped line break
ends it. -/
def quotedWord (double : Bool) :
    Nat → List Char → Cursor → Except SyntaxError (List Char × Cursor × Bool)
  | 0, text, c => .ok (text, c, false)
  | fuel + 1, text, c =>
    if isSpaceOrEnd c.head then .ok (text, c, false)
    else if double then
      if c.head == '"' then .ok (text, c, false)
      else if c.head == '\\' then
        if isBreak (c.peek 1) then .ok (text, (c.skip 1).skipBreak, true)
        else do
          let (x, next) ← escape c
          quotedWord double fuel (x :: text) next
      else quotedWord double fuel (c.head :: text) (c.skip 1)
    else if c.head == '\'' then
      if c.peek 1 == '\'' then quotedWord double fuel ('\'' :: text) (c.skip 2)
      else .ok (text, c, false)
    else quotedWord double fuel (c.head :: text) (c.skip 1)

/-- The text of a quoted scalar in reverse, and the cursor at its closing quote. -/
def quotedText (double : Bool) : Nat → List Char → Cursor → Except SyntaxError (List Char × Cursor)
  | 0, _, c => c.fail "found unexpected end of stream"
  | fuel + 1, text, c =>
    if c.atDocumentMarker then c.fail "found unexpected document indicator"
    else if c.atEnd then c.fail "found unexpected end of stream"
    else do
      let (text, next, broken) ← quotedWord double fuel text c
      if !broken && next.head == (if double then '"' else '\'') then return (text, next)
      let (gap, behind) ← Gap.scan 0 fuel { Gap.none with broken } next
      quotedText double fuel (gap.folded ++ text) behind

/-- A quoted scalar and the cursor behind it. -/
def quotedScalar (fuel : Nat) (double : Bool) (c : Cursor) :
    Except SyntaxError (Token × Cursor) := do
  let (text, next) ← quotedText double fuel [] (c.skip 1)
  let style := if double then ScalarStyle.doubleQuoted else .singleQuoted
  return (⟨.scalar (String.ofList text.reverse) style, c.mark, (next.skip 1).mark⟩, next.skip 1)

/-- What happens to the line breaks at the end of a block scalar. -/
inductive Chomping where
  | strip
  | clip
  | keep
deriving DecidableEq

/-- The chomping mark at the cursor, if there is one. -/
def chomping? (c : Cursor) : Option Chomping :=
  if c.head == '+' then some .keep else if c.head == '-' then some .strip else none

/-- The indentation mark at the cursor, if there is one. -/
def increment? (c : Cursor) : Except SyntaxError (Option Nat) :=
  if c.head == '0' then c.fail "found an indentation indicator equal to 0"
  else if c.head.isDigit then .ok (some (c.head.toNat - '0'.toNat))
  else .ok none

/-- The marks after the `|` or `>` of a block scalar, in either order, and the cursor behind
them. -/
def blockHeader (c : Cursor) : Except SyntaxError (Chomping × Option Nat × Cursor) := do
  match chomping? c with
  | some chomping =>
    let c := c.skip 1
    match ← increment? c with
    | some n => return (chomping, some n, c.skip 1)
    | none => return (chomping, none, c)
  | none =>
    match ← increment? c with
    | none => return (.clip, none, c)
    | some n =>
      let c := c.skip 1
      match chomping? c with
      | some chomping => return (chomping, some n, c.skip 1)
      | none => return (.clip, some n, c)

/-- Empty lines of a block scalar. -/
structure EmptyLines where
  breaks : List Char
  /-- The widest indentation seen. -/
  widest : Nat
  stop : Mark
  cursor : Cursor

/-- Passes indentation and empty lines; an indentation of zero is not known yet. -/
def EmptyLines.scan (indent : Nat) : Nat → EmptyLines → Except SyntaxError EmptyLines
  | 0, s => .ok s
  | fuel + 1, s =>
    let inside (x : Cursor) : Bool := indent == 0 || x.mark.column < indent
    let spaces := (s.cursor.takeWhile (· == ' ')).1.length
    let room := if indent = 0 then spaces else indent - s.cursor.mark.column
    let c := s.cursor.skip (min spaces room)
    let widest := max s.widest c.mark.column
    if inside c && c.head == '\t' then
      c.fail "found a tab character where an indentation space is expected"
    else if isBreak c.head then
      let (line, next) := c.takeBreak
      EmptyLines.scan indent fuel ⟨s.breaks ++ line, widest, next.mark, next⟩
    else .ok { s with widest, cursor := c }

/-- A block scalar while it is read: its text in reverse, the break at the end of the last line, the
empty lines after it, and whether the last line started with a blank. -/
structure BlockScan where
  text : List Char
  lineBreak : List Char
  breaks : List Char
  blankLine : Bool
  stop : Mark
  cursor : Cursor

/-- What stands between two lines of a block scalar. -/
def BlockScan.joint (literal : Bool) (s : BlockScan) (blank : Bool) : List Char :=
  if !literal && s.lineBreak.head? == some '\n' && !s.blankLine && !blank then
    if s.breaks.isEmpty then [' '] else s.breaks
  else s.lineBreak ++ s.breaks

/-- Reads the lines of a block scalar. -/
def BlockScan.lines (literal : Bool) (indent : Nat) :
    Nat → BlockScan → Except SyntaxError BlockScan
  | 0, s => .ok s
  | fuel + 1, s =>
    let c := s.cursor
    if c.mark.column = indent ∧ !c.atEnd then do
      let blank := isBlank c.head
      let (line, next) := c.takeWhile fun x => !isBreakOrEnd x
      let (lineBreak, next) := next.takeBreak
      let empty ← EmptyLines.scan indent fuel ⟨[], 0, next.mark, next⟩
      BlockScan.lines literal indent fuel
        ⟨line.reverse ++ (s.joint literal blank).reverse ++ s.text, lineBreak, empty.breaks, blank,
          empty.stop, empty.cursor⟩
    else .ok s

/-- A block scalar under a node indented by `parent`, minus one standing for the top, and the cursor
behind it. -/
def blockScalar (fuel : Nat) (literal : Bool) (parent : Int) (c : Cursor) :
    Except SyntaxError (Token × Cursor) := do
  let (chomping, increment, next) ← blockHeader (c.skip 1)
  let next := (next.skipWhile isBlank).skipComment
  if !isBreakOrEnd next.head then next.fail "did not find expected comment or line break"
  else
    let next := next.skipBreak
    let given := match increment with
      | some n => (max parent 0).toNat + n
      | none => 0
    let empty ← EmptyLines.scan given fuel ⟨[], 0, next.mark, next⟩
    let indent := if given = 0 then max (max empty.widest (parent + 1).toNat) 1 else given
    let s ← BlockScan.lines literal indent fuel
      ⟨[], [], empty.breaks, false, empty.stop, empty.cursor⟩
    let tail := match chomping with
      | .strip => []
      | .clip => s.lineBreak
      | .keep => s.lineBreak ++ s.breaks
    let style := if literal then ScalarStyle.literal else .folded
    return (⟨.scalar (String.ofList (s.text.reverse ++ tail)) style, c.mark, s.stop⟩, s.cursor)

end BatteryWatch.Yaml
