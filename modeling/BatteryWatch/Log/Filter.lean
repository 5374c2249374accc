import BatteryWatch.Log.Pattern.Read
import BatteryWatch.Text.CodeRanges
import BatteryWatch.Trace

/-!
# Log filters

A filter is written as directives between commas and perhaps a pattern after a slash. A directive is
a level, a source, or a source and a level; it speaks for every source that starts with its own, and
of the directives that speak for a record the one with the longest source decides. A pattern lets
only records through whose text matches. What cannot be understood is passed over with a warning.
-/

namespace BatteryWatch.Log

/-- A directive: which sources it speaks for, all if none is named, and the rank of the least grave
level it lets through, zero for none at all. -/
structure Directive where
  source : Option String
  rank : Nat
deriving DecidableEq

/-- A filter: its directives, in increasing length of their sources, and its pattern. -/
structure Filter where
  directives : List Directive
  pattern : Option Pattern

/-- The rank that lets every level through. -/
def maxRank : Nat := Level.trace.rank

/-- The rank of a level given by its name in any case. -/
def rankOfName? (name : String) : Option Nat :=
  match name.map Char.toLower with
  | "off" => some 0
  | "error" => some Level.error.rank
  | "warn" => some Level.warn.rank
  | "info" => some Level.info.rank
  | "debug" => some Level.debug.rank
  | "trace" => some Level.trace.rank
  | _ => none

/-- A text without the blanks around it. -/
def trimBlanks (text : List Char) : List Char :=
  ((text.dropWhile Text.isWhitespace).reverse.dropWhile Text.isWhitespace).reverse

/-- The parts of a text between the places where a character stands. -/
def splitAt (mark : Char) : List Char → List (List Char)
  | [] => [[]]
  | c :: rest =>
    match splitAt mark rest with
    | [] => [[c]]
    | first :: others => if c = mark then [] :: first :: others else (c :: first) :: others

/-- A directive, or why a text is none. -/
def Directive.ofText (text : List Char) : Except String Directive :=
  match splitAt '=' text with
  | [part] =>
    match rankOfName? (String.ofList part) with
    | some rank => .ok ⟨none, rank⟩
    | none => .ok ⟨some (String.ofList part), maxRank⟩
  | [source, level] =>
    let level := trimBlanks level
    if level.isEmpty then .ok ⟨some (String.ofList source), maxRank⟩
    else
      match rankOfName? (String.ofList level) with
      | some rank => .ok ⟨some (String.ofList source), rank⟩
      | none => .error ("invalid logging spec '" ++ String.ofList level ++ "'")
  | _ => .error ("invalid logging spec '" ++ String.ofList text ++ "'")

/-- Adds a directive; an earlier one for the same source is replaced where it stands. -/
def insertDirective (directives : List Directive) (d : Directive) : List Directive :=
  if directives.any (·.source == d.source) then
    directives.map fun old => if old.source == d.source then d else old
  else directives ++ [d]

/-- The size of a directive's source. -/
def Directive.size (d : Directive) : Nat := (d.source.map String.utf8ByteSize).getD 0

/-- The filter of some directives, which lets errors through if there are none. -/
def Filter.ofDirectives (directives : List Directive) (pattern : Option Pattern) : Filter :=
  if directives.isEmpty then ⟨[⟨none, Level.error.rank⟩], pattern⟩
  else ⟨(directives.foldl insertDirective []).mergeSort fun a b => a.size ≤ b.size, pattern⟩

/-- The texts of the directives in a part of a filter. -/
def directiveTexts (text : List Char) : List (List Char) :=
  ((splitAt ',' text).map trimBlanks).filter (!·.isEmpty)

/-- The warning about something that cannot be understood. -/
def warning (problem : String) : String := "warning: " ++ problem ++ ", ignoring it"

/-- The pattern after the slash of a filter, or the warning that it is refused. -/
def filterPattern (text : List Char) : Option Pattern × List String :=
  let text := String.ofList text
  match Pattern.ofText text with
  | .ok p => (some p, [])
  | .error refusal => (none, ["invalid regex filter - " ++ refusal.message text])

/-- The error of a directive, if it is faulty. -/
def faultOf (d : Except String Directive) : Option String :=
  match d with
  | .ok _ => none
  | .error problem => some problem

/-- The filter that a text writes, and the warnings about it. -/
def Filter.ofText (text : String) : Filter × List String :=
  let withDirectives (part : List Char) (pattern : Option Pattern × List String) :=
    let directives := (directiveTexts part).map Directive.ofText
    (Filter.ofDirectives (directives.filterMap Except.toOption) pattern.1,
      (directives.filterMap faultOf ++ pattern.2).map warning)
  match splitAt '/' text.toList with
  | [part] => withDirectives part (none, [])
  | [part, pattern] => withDirectives part (filterPattern pattern)
  | _ => (Filter.ofDirectives [] none,
      [warning ("invalid logging spec '" ++ text ++ "' (too many '/'s)")])

/-- Whether a directive speaks for a source. -/
def Directive.covers (d : Directive) (source : Source) : Bool :=
  match d.source with
  | none => true
  | some name => name.toList.isPrefixOf source.path.toList

/-- Whether a filter lets a record through. -/
def Filter.allows (f : Filter) (r : Record) : Bool :=
  (match f.directives.reverse.find? (·.covers r.source) with
    | some d => r.level.rank ≤ d.rank
    | none => false) &&
  (match f.pattern with
    | some p => p.matchesIn r.text
    | none => true)

end BatteryWatch.Log
