import BatteryWatch.Bytes
import BatteryWatch.Decimal
import BatteryWatch.Yaml.Token

/-!
# Directive, anchor and tag tokens

Directives at the start of a document, names given to nodes and references to them, and the tags
that say what a node is. Inside a tag a byte can be written as `%` and two hexadecimal digits. A tag
is kept as its bytes, one character for each, up to the first zero byte.
-/

namespace BatteryWatch.Yaml

/-- Whether a character can stand in a tag. -/
def isTagChar (c : Char) : Bool := isNameChar c || ";/?:@&=+$.%!~*'()".toList.contains c

/-- Whether a character can stand in a tag between angle brackets or in a directive. -/
def isVerbatimTagChar (c : Char) : Bool := isTagChar c || c == ',' || c == '[' || c == ']'

/-- The bytes written as `%` and two hexadecimal digits at the start of a text, and the rest. -/
def percentBytes : Nat → List Char → List UInt8 × List Char
  | 0, text => ([], text)
  | count + 1, '%' :: x :: y :: rest =>
    match Decimal.natural? 16 [x, y] with
    | some n =>
      let (bytes, rest) := percentBytes count rest
      (UInt8.ofNat n :: bytes, rest)
    | none => ([], '%' :: x :: y :: rest)
  | _, text => ([], text)

/-- How many bytes a character takes whose first byte is given. -/
def encodedWidth (first : UInt8) : Option Nat :=
  if first < 0x80 then some 1
  else if first &&& 0xE0 == 0xC0 then some 2
  else if first &&& 0xF0 == 0xE0 then some 3
  else if first &&& 0xF8 == 0xF0 then some 4
  else none

/-- The bytes of the character that is written in escaped bytes at the start of a text. That they
form a character is looked at no closer than the two highest bits of the bytes after the first. -/
def percentSequence (text : List Char) : Except String (List UInt8) :=
  match (percentBytes 1 text).1 with
  | [] => .error "did not find URI escaped octet"
  | first :: _ =>
    match encodedWidth first with
    | none => .error "found an incorrect leading UTF-8 octet"
    | some width =>
      let bytes := (percentBytes width text).1
      if bytes.tail.any fun b => b &&& 0xC0 != 0x80 then
        .error "found an incorrect trailing UTF-8 octet"
      else if bytes.length < width then .error "did not find URI escaped octet"
      else .ok bytes

/-- The text of a tag at the cursor, in reverse after what is already read. -/
def tagText (allowed : Char → Bool) :
    Nat → List Char → Cursor → Except SyntaxError (List Char × Cursor)
  | 0, text, c => .ok (text, c)
  | fuel + 1, text, c =>
    if c.head == '%' then
      match percentSequence c.rest with
      | .error problem => c.fail problem
      | .ok bytes =>
        tagText allowed fuel ((bytes.map Latin1.decodeByte).reverse ++ text)
          (c.skip (3 * bytes.length))
    else if allowed c.head then tagText allowed fuel (c.head :: text) (c.skip 1)
    else .ok (text, c)

/-- The tag text at the cursor after the start of it read as a handle, of which the first mark does
not count. -/
def tagSuffix (fuel : Nat) (allowed : Char → Bool) (handle : List Char) (c : Cursor) :
    Except SyntaxError (List Char × Cursor) := do
  let (text, next) ← tagText allowed fuel handle.tail.reverse c
  if handle.isEmpty && next.mark.index == c.mark.index then
    c.fail "did not find expected tag URI"
  else return (text.reverse.takeWhile (· != endOfText), next)

/-- A tag handle at the cursor: a mark, a name and perhaps another mark. -/
def tagHandle (directive : Bool) (c : Cursor) : Except SyntaxError (List Char × Cursor) :=
  if c.head != '!' then c.fail "did not find expected '!'"
  else
    let (name, next) := (c.skip 1).takeWhile isNameChar
    if next.head == '!' then .ok ('!' :: name ++ ['!'], next.skip 1)
    else if directive && !name.isEmpty then next.fail "did not find expected '!'"
    else .ok ('!' :: name, next)

/-- Whether a handle has a mark at both ends. -/
def isClosedHandle (handle : List Char) : Bool :=
  1 < handle.length && handle.getLast? == some '!'

/-- The handle and the suffix of the tag at the cursor, and the cursor behind it. -/
def tagParts (fuel : Nat) (c : Cursor) : Except SyntaxError (List Char × List Char × Cursor) := do
  if c.peek 1 == '<' then
    let (suffix, next) ← tagSuffix fuel isVerbatimTagChar [] (c.skip 2)
    if next.head == '>' then return ([], suffix, next.skip 1)
    else next.fail "did not find the expected '>'"
  else
    let (handle, next) ← tagHandle false c
    if isClosedHandle handle then
      let (suffix, next) ← tagSuffix fuel isTagChar [] next
      return (handle, suffix, next)
    else
      let (suffix, next) ← tagSuffix fuel isTagChar handle next
      if suffix.isEmpty then return ([], ['!'], next) else return (['!'], suffix, next)

/-- A tag and the cursor behind it. -/
def tagToken (fuel : Nat) (flow : Bool) (c : Cursor) : Except SyntaxError (Token × Cursor) := do
  let (handle, suffix, next) ← tagParts fuel c
  if isSpaceOrEnd next.head || (flow && next.head == ',') then
    return (⟨.tag (String.ofList handle) (String.ofList suffix), c.mark, next.mark⟩, next)
  else next.fail "did not find expected whitespace or line break"

/-- Whether a character can stand behind an anchor or an alias. -/
def endsName (c : Char) : Bool := isSpaceOrEnd c || "?:,]\x7d%@`".toList.contains c

/-- An anchor or an alias and the cursor behind it. -/
def nameToken (kind : String → TokenKind) (c : Cursor) : Except SyntaxError (Token × Cursor) :=
  let (name, next) := (c.skip 1).takeWhile isNameChar
  if name.isEmpty || !endsName next.head then
    next.fail "did not find expected alphabetic or numeric character"
  else .ok (⟨kind (String.ofList name), c.mark, next.mark⟩, next)

/-- A version number at the cursor. -/
def versionNumber (c : Cursor) : Except SyntaxError (Nat × Cursor) :=
  let (digits, next) := c.takeWhile Char.isDigit
  if 9 < digits.length then c.fail "found extremely long version number"
  else
    match Decimal.natural? 10 digits with
    | some n => .ok (n, next)
    | none => c.fail "did not find expected version number"

/-- What a directive says, and the cursor behind it. -/
def directiveKind (fuel : Nat) (name : String) (c : Cursor) :
    Except SyntaxError (TokenKind × Cursor) := do
  match name with
  | "YAML" =>
    let (major, next) ← versionNumber (c.skipWhile isBlank)
    if next.head != '.' then next.fail "did not find expected digit or '.' character"
    else
      let (minor, next) ← versionNumber (next.skip 1)
      return (.versionDirective major minor, next)
  | "TAG" =>
    let (handle, next) ← tagHandle true (c.skipWhile isBlank)
    if !isBlank next.head then next.fail "did not find expected whitespace"
    else
      let (text, next) ← tagSuffix fuel isVerbatimTagChar [] (next.skipWhile isBlank)
      if !isSpaceOrEnd next.head then
        next.fail "did not find expected whitespace or line break"
      else return (.tagDirective (String.ofList handle) (String.ofList text), next)
  | _ => c.fail "found unknown directive name"

/-- A directive and the cursor behind its line. -/
def directiveToken (fuel : Nat) (c : Cursor) : Except SyntaxError (Token × Cursor) := do
  let (name, next) := (c.skip 1).takeWhile isNameChar
  if name.isEmpty then next.fail "could not find expected directive name"
  else if !isSpaceOrEnd next.head then next.fail "found unexpected non-alphabetical character"
  else
    let (kind, next) ← directiveKind fuel (String.ofList name) next
    let behind := (next.skipWhile isBlank).skipComment
    if isBreakOrEnd behind.head then return (⟨kind, c.mark, next.mark⟩, behind.skipBreak)
    else behind.fail "did not find expected comment or line break"

end BatteryWatch.Yaml
