/-!
# Faults in patterns

Places in the text of a pattern, what can be wrong with a pattern at a place, and how a fault is
shown: the lines of the pattern with marks under the faulty part and, of two parts that exclude each
other, under the first as well.
-/

namespace BatteryWatch.Log.Pattern

/-- A place in a text: its line and its column in characters, counted from one. -/
structure Place where
  line : Nat
  column : Nat
deriving DecidableEq

/-- The first place. -/
def Place.start : Place := ⟨1, 1⟩

/-- The place after a character. -/
def Place.after (p : Place) (c : Char) : Place :=
  if c == '\n' then ⟨p.line + 1, 1⟩ else ⟨p.line, p.column + 1⟩

/-- Whether a place is not after another. -/
def Place.notAfter (p q : Place) : Bool :=
  p.line < q.line || (p.line == q.line && p.column ≤ q.column)

/-- A part of a text, from a place up to another. -/
structure Span where
  start : Place
  finish : Place
deriving DecidableEq

/-- The empty part at a place. -/
def Span.at (p : Place) : Span := ⟨p, p⟩

/-- Whether a part lies in one line. -/
def Span.isInLine (s : Span) : Bool := s.start.line == s.finish.line

/-- The depth up to which groups, sets and the like may lie in each other. -/
def depthLimit : Nat := 250

/-- What can be wrong with a pattern. -/
inductive Cause where
  | anchorInSet
  | reversedRange
  | setInRange
  | unclosedSet
  | invalidNumber
  | emptyHex
  | noScalarValue
  | invalidHexDigit
  | incompleteEscape
  | unknownEscape
  | danglingNegation
  | duplicateFlag
  | repeatedNegation
  | unclosedFlags
  | unknownFlag
  | duplicateName
  | emptyName
  | invalidName
  | unclosedName
  | unclosedGroup
  | unopenedGroup
  | tooDeep
  | reversedCount
  | missingCount
  | unclosedCount
  | nothingToRepeat
  | unclosedEdge
  | unknownEdge
  | unclosedEdgeOrCount
  | invalidProperty
  | backreference
  | lookAround
  | unicodeNotAllowed
  | noText
  | unknownProperty
  | unknownPropertyValue
  | noScriptClasses
  | noScriptCases
deriving DecidableEq

/-- The text of a cause. -/
def Cause.message : Cause → String
  | .anchorInSet => "invalid escape sequence found in character class"
  | .reversedRange => "invalid character class range, the start must be <= the end"
  | .setInRange => "invalid range boundary, must be a literal"
  | .unclosedSet => "unclosed character class"
  | .invalidNumber => "decimal literal invalid"
  | .emptyHex => "hexadecimal literal empty"
  | .noScalarValue => "hexadecimal literal is not a Unicode scalar value"
  | .invalidHexDigit => "invalid hexadecimal digit"
  | .incompleteEscape => "incomplete escape sequence, reached end of pattern prematurely"
  | .unknownEscape => "unrecognized escape sequence"
  | .danglingNegation => "dangling flag negation operator"
  | .duplicateFlag => "duplicate flag"
  | .repeatedNegation => "flag negation operator repeated"
  | .unclosedFlags => "expected flag but got end of regex"
  | .unknownFlag => "unrecognized flag"
  | .duplicateName => "duplicate capture group name"
  | .emptyName => "empty capture group name"
  | .invalidName => "invalid capture group character"
  | .unclosedName => "unclosed capture group name"
  | .unclosedGroup => "unclosed group"
  | .unopenedGroup => "unopened group"
  | .tooDeep =>
    "exceed the maximum number of nested parentheses/brackets (" ++ toString depthLimit ++ ")"
  | .reversedCount => "invalid repetition count range, the start must be <= the end"
  | .missingCount => "repetition quantifier expects a valid decimal"
  | .unclosedCount => "unclosed counted repetition"
  | .nothingToRepeat => "repetition operator missing expression"
  | .unclosedEdge =>
    "special word boundary assertion is either unclosed or contains an invalid character"
  | .unknownEdge =>
    "unrecognized special word boundary assertion, valid choices are: start, end, start-half " ++
      "or end-half"
  | .unclosedEdgeOrCount =>
    "found either the beginning of a special word boundary or a bounded repetition on a \\b " ++
      "with an opening brace, but no closing brace"
  | .invalidProperty => "invalid Unicode character class"
  | .backreference => "backreferences are not supported"
  | .lookAround => "look-around, including look-ahead and look-behind, is not supported"
  | .unicodeNotAllowed => "Unicode not allowed here"
  | .noText => "pattern can match invalid UTF-8"
  | .unknownProperty => "Unicode property not found"
  | .unknownPropertyValue => "Unicode property value not found"
  | .noScriptClasses =>
    "Unicode-aware Perl class not found (make sure the unicode-perl feature is enabled)"
  | .noScriptCases =>
    "Unicode-aware case insensitivity matching is not available " ++
      "(make sure the unicode-case feature is enabled)"

/-- A fault: what is wrong with which part of a pattern and, if two parts exclude each other, the
first of them. -/
structure Fault where
  cause : Cause
  span : Span
  first : Option Span
deriving DecidableEq

/-- A fault in one part of a pattern. -/
def Fault.at (cause : Cause) (span : Span) : Fault := ⟨cause, span, none⟩

namespace Fault

/-- The faulty parts from left to right. -/
def spans (f : Fault) : List Span :=
  match f.first with
  | none => [f.span]
  | some first => if first.start.notAfter f.span.start then [first, f.span] else [f.span, first]

/-- The lines of a text: a line feed ends one, and a carriage return before it belongs to the end.
What follows the last line feed is a line unless it is empty. -/
def lines (pattern : String) : List String :=
  let parts := pattern.splitOn "\n"
  let ended := parts.dropLast.map fun line =>
    if line.endsWith "\r" then String.ofList line.toList.dropLast else line
  match parts.getLast? with
  | none => ended
  | some last => if last.isEmpty then ended else ended ++ [last]

/-- Some characters of one kind. -/
def row (n : Nat) (c : Char) : String := String.ofList (List.replicate n c)

/-- The marks of some parts of a line from a column on; an empty part has a mark too. -/
def marksFrom (column : Nat) : List Span → String
  | [] => ""
  | span :: rest =>
    let length := max 1 (span.finish.column - span.start.column)
    row (span.start.column - column) ' ' ++ row length '^' ++
      marksFrom (max column span.start.column + length) rest

/-- A text moved to the end of a column of some width. -/
def alignRight (width : Nat) (text : String) : String := row (width - text.length) ' ' ++ text

/-- A line of a pattern, with a line of marks under it if parts of it are faulty; the start of the
line depends on its number. -/
def annotated (margin : Nat → String) (marked : List Span) (line : String) (number : Nat) :
    String :=
  let start := margin number
  let here := marked.filter (·.start.line == number)
  start ++ line ++ "\n" ++
    (if here.isEmpty then "" else row start.length ' ' ++ marksFrom 1 here ++ "\n")

/-- A faulty part that ends in another line than it starts in. -/
def longNote (s : Span) : String :=
  s!"on line {s.start.line} (column {s.start.column}) through line {s.finish.line} " ++
    s!"(column {s.finish.column - 1})\n"

/-- The number of lines on which a fault can lie. -/
def lineCount (pattern : String) : Nat :=
  (lines pattern).length + if pattern.endsWith "\n" then 1 else 0

/-- The margin of a numbered line; a single line has no number. -/
def margin (lineCount number : Nat) : String :=
  if lineCount ≤ 1 then row 4 ' '
  else alignRight (toString lineCount).length (toString number) ++ ": "

/-- A fault shown with its pattern. -/
def message (pattern : String) (f : Fault) : String :=
  let (inLine, long) := f.spans.partition Span.isInLine
  let annotatedLines := (lines pattern).zipIdx.map fun (line, i) =>
    annotated (margin (lineCount pattern)) inLine line (i + 1)
  let shown := String.join annotatedLines
  let divider := if pattern.toList.contains '\n' then row 79 '~' ++ "\n" else ""
  "regex parse error:\n" ++ divider ++ shown ++ divider ++ String.join (long.map longNote) ++
    "error: " ++ f.cause.message

end Fault

end BatteryWatch.Log.Pattern
