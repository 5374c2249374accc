import BatteryWatch.Log.Pattern
import BatteryWatch.Log.Pattern.Fault

/-!
# Written patterns

Patterns as they are written: what stands where. What a character or a set stands for depends on the
flags around it and is not decided here.
-/

namespace BatteryWatch.Log.Pattern

/-- A written character. -/
structure Literal where
  span : Span
  char : Char
  /-- Whether it is written as the two hexadecimal digits of a byte. -/
  isByte : Bool
deriving DecidableEq

/-- The sets that a backslash and a letter stand for. -/
inductive LetterSet where
  | digit
  | space
  | word
deriving DecidableEq

/-- The sets of ASCII characters that have a name between colons. -/
inductive AsciiSet where
  | alnum
  | alpha
  | ascii
  | blank
  | cntrl
  | digit
  | graph
  | lower
  | print
  | punct
  | space
  | upper
  | word
  | xdigit
deriving DecidableEq

/-- What two sets can be combined by. -/
inductive SetOperation where
  | inter
  | difference
  | symmetricDifference
deriving DecidableEq

/-- A written set of characters. -/
inductive SetTree where
  /-- Nothing is written. -/
  | empty (span : Span)
  | literal (l : Literal)
  | range (span : Span) (first last : Literal)
  | named (span : Span) (set : AsciiSet) (negated : Bool)
  | letter (span : Span) (set : LetterSet) (negated : Bool)
  /-- A set with a Unicode property, given by its name or its name and value. -/
  | property (span : Span) (name : String) (negated : Bool)
  | bracketed (span : Span) (negated : Bool) (content : SetTree)
  | union (span : Span) (items : List SetTree)
  | combined (span : Span) (operation : SetOperation) (left right : SetTree)

/-- The part of a pattern where a set is written. -/
def SetTree.span : SetTree → Span
  | .empty span => span
  | .literal l => l.span
  | .range span .. => span
  | .named span .. => span
  | .letter span .. => span
  | .property span .. => span
  | .bracketed span .. => span
  | .union span .. => span
  | .combined span .. => span

/-- A written anchor. -/
inductive Mark where
  /-- `^`. -/
  | lineStart
  /-- `$`. -/
  | lineFinish
  | textStart
  | textFinish
  | edge (edge : Edge)
deriving DecidableEq

/-- A way to understand a part of a pattern, switched by a letter. -/
inductive Flag where
  /-- `i`: case makes no difference. -/
  | ignoreCase
  /-- `m`: `^` and `$` hold at the ends of lines. -/
  | byLine
  /-- `s`: `.` stands for the end of a line too. -/
  | dotAll
  /-- `U`: repetitions prefer to be short, which makes no difference here. -/
  | reluctant
  /-- `u`: characters are those of all scripts. -/
  | unicode
  /-- `R`: carriage returns end lines. -/
  | returns
  /-- `x`: blanks and comments are passed over. -/
  | verbose
deriving DecidableEq

/-- A change of a flag: whether it is switched on. -/
structure FlagChange where
  flag : Flag
  on : Bool
deriving DecidableEq

/-- How a group starts. -/
inductive GroupKind where
  | capture
  | plain (changes : List FlagChange)
deriving DecidableEq

/-- A written pattern. -/
inductive Tree where
  /-- Nothing is written. -/
  | empty (span : Span)
  /-- A change of flags for the rest of the group around it. -/
  | flags (span : Span) (changes : List FlagChange)
  | literal (l : Literal)
  | dot (span : Span)
  | mark (span : Span) (m : Mark)
  | set (s : SetTree)
  | repetition (span : Span) (body : Tree) (low : Nat) (high : Option Nat)
  | group (span : Span) (kind : GroupKind) (content : Tree)
  | choice (span : Span) (branches : List Tree)
  | sequence (span : Span) (items : List Tree)

/-- The part of a pattern that a tree is read from. -/
def Tree.span : Tree → Span
  | .empty span => span
  | .flags span _ => span
  | .literal l => l.span
  | .dot span => span
  | .mark span _ => span
  | .set s => s.span
  | .repetition span .. => span
  | .group span .. => span
  | .choice span _ => span
  | .sequence span _ => span

end BatteryWatch.Log.Pattern
