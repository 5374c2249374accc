import BatteryWatch.Yaml.Token.Property
import BatteryWatch.Yaml.Token.Scalar

/-!
# Finding tokens

Turns a text into its tokens. Indentation opens and closes block collections. Something that turns
out to be a key only when the `:` behind it is seen gets its key token put in front of it later, so
the places where a key could have started are remembered, one for every level of flow collections.
A remembered place is given up when its line ends or after 1024 bytes.
-/

namespace BatteryWatch.Yaml

/-- A place where a key could have started. -/
structure KeyPlace where
  /-- Whether a key must start here. -/
  required : Bool
  /-- The number of tokens before it. -/
  number : Nat
  mark : Mark

/-- The state of finding tokens. -/
structure Scan where
  cursor : Cursor
  /-- The tokens found, the last one first. -/
  tokens : List Token
  count : Nat
  /-- The indentation of the innermost block collection, minus one outside all of them. -/
  indent : Int
  indents : List Int
  /-- Whether a key may start here. -/
  keyAllowed : Bool
  /-- Where a key could have started, for every open flow collection and for the block around
  them. -/
  places : List (Option KeyPlace)
  flowLevel : Nat
  /-- Bounds the number of steps of every loop. -/
  fuel : Nat
  finished : Bool

namespace Scan

/-- The state at the start of a text. -/
def ofText (text : List Char) : Scan where
  cursor := .ofText text
  tokens := []
  count := 0
  indent := -1
  indents := []
  keyAllowed := true
  places := [none]
  flowLevel := 0
  fuel := 2 * text.length + 4
  finished := false

/-- Whether the cursor is inside a flow collection. -/
def inFlow (s : Scan) : Bool := s.flowLevel != 0

/-- The column of the cursor. -/
def column (s : Scan) : Nat := s.cursor.mark.column

/-- Adds a token at the end. -/
def push (s : Scan) (t : Token) : Scan := { s with tokens := t :: s.tokens, count := s.count + 1 }

/-- Adds a token of no length at the cursor. -/
def pushMark (s : Scan) (kind : TokenKind) : Scan := s.push ⟨kind, s.cursor.mark, s.cursor.mark⟩

/-- Adds the token made of the next `n` characters. -/
def pushChars (s : Scan) (kind : TokenKind) (n : Nat) : Scan :=
  let next := s.cursor.skip n
  { s.push ⟨kind, s.cursor.mark, next.mark⟩ with cursor := next }

/-- Adds a token behind the first `number` tokens. -/
def insert (s : Scan) (number : Nat) (t : Token) : Scan :=
  let newer := s.count - number
  { s with tokens := s.tokens.take newer ++ t :: s.tokens.drop newer, count := s.count + 1 }

/-- Fails at the cursor. -/
def fail {α : Type} (s : Scan) (problem : String) : Except SyntaxError α := s.cursor.fail problem

/-- Gives up a place where a key could have started; a required key must not be given up. -/
def giveUp (place : Option KeyPlace) : Except SyntaxError (Option KeyPlace) :=
  match place with
  | some place =>
    if place.required then .error ⟨"could not find expected ':'", place.mark⟩ else .ok none
  | none => .ok none

/-- Gives up the place of the current level. -/
def removePlace (s : Scan) : Except SyntaxError Scan := do
  match s.places with
  | [] => return s
  | place :: rest => return { s with places := (← giveUp place) :: rest }

/-- Whether a place is too far behind the cursor for a key to have started there. -/
def isStale (s : Scan) (place : KeyPlace) : Bool :=
  place.mark.line < s.cursor.mark.line || place.mark.index + 1024 < s.cursor.mark.index

/-- Gives up the places that are too far behind. -/
def dropStale (s : Scan) : Except SyntaxError Scan := do
  let places ← s.places.mapM fun place =>
    match place with
    | some p => if s.isStale p then giveUp place else .ok place
    | none => .ok none
  return { s with places }

/-- Remembers the cursor as a place where a key could start, if it can. -/
def savePlace (s : Scan) : Except SyntaxError Scan := do
  if s.keyAllowed then
    let required := !s.inFlow && s.indent == s.column
    let s ← s.removePlace
    return { s with places := some ⟨required, s.count, s.cursor.mark⟩ :: s.places.tail }
  else return s

/-- Opens a block collection if the column is deeper than the current one; its token goes behind the
first `number` tokens. -/
def roll (s : Scan) (column : Nat) (number : Nat) (kind : TokenKind) (mark : Mark) : Scan :=
  if !s.inFlow && s.indent < column then
    { s.insert number ⟨kind, mark, mark⟩ with
      indent := column, indents := s.indent :: s.indents }
  else s

/-- Closes the block collections that are deeper than a column. -/
def unrollFrom (column : Int) : List Int → Scan → Scan
  | [], s => { s with indents := [] }
  | outer :: rest, s =>
    if column < s.indent then
      unrollFrom column rest { s.pushMark .blockEnd with indent := outer, indents := rest }
    else s

/-- Closes the block collections that are deeper than a column, except inside flow collections. -/
def unroll (s : Scan) (column : Int) : Scan :=
  if s.inFlow then s else unrollFrom column s.indents s

/-- Passes blanks, comments and empty lines up to the next token. -/
def skipToToken : Nat → Scan → Scan
  | 0, s => s
  | fuel + 1, s =>
    let tabs := s.inFlow || !s.keyAllowed
    let c := s.cursor.skipByteOrderMark
    let c := (c.skipWhile fun x => x == ' ' || (tabs && x == '\t')).skipComment
    if isBreak c.head then
      skipToToken fuel
        { s with cursor := c.skipBreak, keyAllowed := s.keyAllowed || !s.inFlow }
    else { s with cursor := c }

/-- Ends the text. -/
def streamEnd (s : Scan) : Except SyntaxError Scan := do
  let mark := s.cursor.mark
  let mark := if mark.column = 0 then mark else { mark with line := mark.line + 1, column := 0 }
  let s ← (unroll { s with cursor := { s.cursor with mark } } (-1)).removePlace
  return { s.pushMark .streamEnd with keyAllowed := false, finished := true }

/-- Reads a directive. -/
def directive (s : Scan) : Except SyntaxError Scan := do
  let s ← (s.unroll (-1)).removePlace
  let (token, cursor) ← directiveToken s.fuel s.cursor
  return { s.push token with cursor, keyAllowed := false }

/-- Reads a mark that starts or ends a document. -/
def documentMarker (s : Scan) (kind : TokenKind) : Except SyntaxError Scan := do
  let s ← (s.unroll (-1)).removePlace
  return { s.pushChars kind 3 with keyAllowed := false }

/-- Opens a flow collection. -/
def flowStart (s : Scan) (kind : TokenKind) : Except SyntaxError Scan := do
  let s ← s.savePlace
  return { s.pushChars kind 1 with
    places := none :: s.places, flowLevel := s.flowLevel + 1, keyAllowed := true }

/-- Closes a flow collection. -/
def flowEnd (s : Scan) (kind : TokenKind) : Except SyntaxError Scan := do
  let s ← s.removePlace
  return { s.pushChars kind 1 with
    places := if s.inFlow then s.places.tail else s.places
    flowLevel := s.flowLevel - 1
    keyAllowed := false }

/-- Reads the mark between entries of a flow collection. -/
def flowEntry (s : Scan) : Except SyntaxError Scan := do
  let s ← s.removePlace
  return { s.pushChars .flowEntry 1 with keyAllowed := true }

/-- Reads the mark before an entry of a block sequence. -/
def blockEntry (s : Scan) : Except SyntaxError Scan := do
  if !s.inFlow && !s.keyAllowed then
    s.fail "block sequence entries are not allowed in this context"
  else
    let s ← (s.roll s.column s.count .blockSequenceStart s.cursor.mark).removePlace
    return { s.pushChars .blockEntry 1 with keyAllowed := true }

/-- Reads the mark before a key. -/
def keyMark (s : Scan) : Except SyntaxError Scan := do
  if !s.inFlow && !s.keyAllowed then s.fail "mapping keys are not allowed in this context"
  else
    let s ← (s.roll s.column s.count .blockMappingStart s.cursor.mark).removePlace
    return { s.pushChars .key 1 with keyAllowed := !s.inFlow }

/-- Reads the mark before a value; if a key could have started before, it did. -/
def valueMark (s : Scan) : Except SyntaxError Scan := do
  match s.places with
  | some place :: rest =>
    let s := s.insert place.number ⟨.key, place.mark, place.mark⟩
    let s := s.roll place.mark.column place.number .blockMappingStart place.mark
    return { s.pushChars .value 1 with places := none :: rest, keyAllowed := false }
  | _ =>
    if !s.inFlow && !s.keyAllowed then
      s.fail "mapping values are not allowed in this context"
    else
      let s := s.roll s.column s.count .blockMappingStart s.cursor.mark
      return { s.pushChars .value 1 with keyAllowed := !s.inFlow }

/-- Reads something that could be a key. -/
def keyLike (s : Scan) (read : Scan → Except SyntaxError (Token × Cursor)) :
    Except SyntaxError Scan := do
  let s ← s.savePlace
  let (token, cursor) ← read s
  return { s.push token with cursor, keyAllowed := false }

/-- Reads a block scalar. -/
def block (s : Scan) (literal : Bool) : Except SyntaxError Scan := do
  let s ← s.removePlace
  let (token, cursor) ← blockScalar s.fuel literal s.indent s.cursor
  return { s.push token with cursor, keyAllowed := true }

/-- Reads a plain scalar. -/
def plain (s : Scan) : Except SyntaxError Scan := do
  let s ← s.savePlace
  let (token, cursor, broken) ←
    plainScalar s.fuel s.inFlow (s.indent + 1).toNat s.cursor
  return { s.push token with cursor, keyAllowed := broken }

/-- Whether a plain scalar starts at the cursor. -/
def startsPlain (s : Scan) : Bool :=
  let x := s.cursor.head
  let next := s.cursor.peek 1
  !(isSpaceOrEnd x || "-?:,[]\x7b\x7d#&*!|>'\"%@`".toList.contains x) ||
    (x == '-' && !isBlank next) ||
    (!s.inFlow && (x == '?' || x == ':') && !isSpaceOrEnd next)

/-- Reads the token at the cursor. -/
def token (s : Scan) : Except SyntaxError Scan :=
  let c := s.cursor
  let wordEnds := isSpaceOrEnd (c.peek 1)
  if c.atEnd then s.streamEnd
  else if c.mark.column == 0 && c.head == '%' then s.directive
  else if c.startsWithTriple '-' then s.documentMarker .documentStart
  else if c.startsWithTriple '.' then s.documentMarker .documentEnd
  else if c.head == '[' then s.flowStart .flowSequenceStart
  else if c.head == '\x7b' then s.flowStart .flowMappingStart
  else if c.head == ']' then s.flowEnd .flowSequenceEnd
  else if c.head == '\x7d' then s.flowEnd .flowMappingEnd
  else if c.head == ',' then s.flowEntry
  else if c.head == '-' && wordEnds then s.blockEntry
  else if c.head == '?' && (s.inFlow || wordEnds) then s.keyMark
  else if c.head == ':' && (s.inFlow || wordEnds) then s.valueMark
  else if c.head == '*' then s.keyLike fun s => nameToken .alias s.cursor
  else if c.head == '&' then s.keyLike fun s => nameToken .anchor s.cursor
  else if c.head == '!' then s.keyLike fun s => tagToken s.fuel s.inFlow s.cursor
  else if c.head == '|' && !s.inFlow then s.block true
  else if c.head == '>' && !s.inFlow then s.block false
  else if c.head == '\'' then s.keyLike fun s => quotedScalar s.fuel false s.cursor
  else if c.head == '"' then s.keyLike fun s => quotedScalar s.fuel true s.cursor
  else if s.startsPlain then s.plain
  else s.fail "found character that cannot start any token"

/-- Reads token after token up to the end of the text. -/
def all : Nat → Scan → Except SyntaxError Scan
  | 0, s => .ok s
  | fuel + 1, s =>
    if s.finished then .ok s
    else do
      let s ← (skipToToken s.fuel s).dropStale
      all fuel (← (s.unroll s.column).token)

end Scan

/-- The first position of a character that is not allowed. -/
def forbidden? (text : List Char) : Option Nat := text.findIdx? fun c => !isAllowed c

/-- The tokens of a text. -/
def tokenize (text : String) : Except SyntaxError (List Token) :=
  let text := text.toList
  match forbidden? text with
  | some _ => .error ⟨"control characters are not allowed", .start⟩
  | none =>
    let s := Scan.ofText text
    (Scan.all s.fuel s).map fun s => s.tokens.reverse

end BatteryWatch.Yaml
