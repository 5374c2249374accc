import BatteryWatch.Log.Pattern.Bracket
import BatteryWatch.Log.Pattern.Group
import BatteryWatch.Log.Pattern.Meaning
import BatteryWatch.Log.Pattern.Size
import BatteryWatch.Log.Pattern.Tree

/-!
# Reading patterns

How the text of a pattern is read into a tree, how deep the tree may be, and which texts are
patterns in the end.
-/

namespace BatteryWatch.Log.Pattern

/-! ## Depth of patterns

How deep groups, sets, repetitions, sequences and choices lie in each other. The first part of a
pattern, from the outside in and from left to right, that lies too deep is a fault. -/

/-- The depth inside of a part at some depth. -/
def enter (span : Span) (depth : Nat) : Except Fault Nat :=
  if depth < depthLimit then .ok (depth + 1) else .error (.at .tooDeep span)

mutual

/-- Fails if a part of a set at some depth lies too deep. -/
def SetTree.checkDepth : SetTree → Nat → Except Fault Unit
  | .bracketed span _ content, depth => do content.checkDepth (← enter span depth)
  | .union span items, depth => do SetTree.checkDepths items (← enter span depth)
  | .combined span _ left right, depth => do
    let depth ← enter span depth
    left.checkDepth depth
    right.checkDepth depth
  | .empty _, _ => .ok ()
  | .literal _, _ => .ok ()
  | .range .., _ => .ok ()
  | .named .., _ => .ok ()
  | .letter .., _ => .ok ()
  | .property .., _ => .ok ()

/-- Fails if a part of some sets at some depth lies too deep. -/
def SetTree.checkDepths : List SetTree → Nat → Except Fault Unit
  | [], _ => .ok ()
  | set :: rest, depth => do
    set.checkDepth depth
    SetTree.checkDepths rest depth

end

mutual

/-- Fails if a part of a pattern at some depth lies too deep. -/
def Tree.checkDepth : Tree → Nat → Except Fault Unit
  | .set s, depth => s.checkDepth depth
  | .repetition span body _ _, depth => do body.checkDepth (← enter span depth)
  | .group span _ content, depth => do content.checkDepth (← enter span depth)
  | .choice span branches, depth => do Tree.checkDepths branches (← enter span depth)
  | .sequence span items, depth => do Tree.checkDepths items (← enter span depth)
  | .empty _, _ => .ok ()
  | .flags _ _, _ => .ok ()
  | .literal _, _ => .ok ()
  | .dot _, _ => .ok ()
  | .mark _ _, _ => .ok ()

/-- Fails if a part of some patterns at some depth lies too deep. -/
def Tree.checkDepths : List Tree → Nat → Except Fault Unit
  | [], _ => .ok ()
  | tree :: rest, depth => do
    tree.checkDepth depth
    Tree.checkDepths rest depth

end

/-! ## Branches and items

A pattern is a choice between branches, and a branch a sequence of items, each perhaps with
repetitions behind it. Groups are read from the outside in; the flag that blanks are passed over
holds up to the end of the group in which it is switched. -/

/-- What has been read of a pattern or of the content of a group: the finished branches and the
items of the current one, last first, and where the first and the current branch start. -/
structure Content where
  start : Place
  branches : List Tree
  branchStart : Place
  items : List Tree

namespace Content

/-- No content so far. -/
def startingAt (p : Place) : Content := ⟨p, [], p, []⟩

/-- The current branch, which ends at a place. -/
def branch (c : Content) (finish : Place) : Tree :=
  match c.items with
  | [] => .empty ⟨c.branchStart, finish⟩
  | [item] => item
  | items => .sequence ⟨c.branchStart, finish⟩ items.reverse

/-- All content, which ends at a place. -/
def toTree (c : Content) (finish : Place) : Tree :=
  match c.branches with
  | [] => c.branch finish
  | branches => .choice ⟨c.start, finish⟩ (c.branch finish :: branches).reverse

/-- One more item. -/
def push (c : Content) (item : Tree) : Content := { c with items := item :: c.items }

/-- A new branch: the current one ends at `finish` and the new one starts at `next`. -/
def divide (c : Content) (finish next : Place) : Content :=
  { c with branches := c.branch finish :: c.branches, branchStart := next, items := [] }

end Content

namespace Reader

/-! ### Repetitions -/

/-- Takes the blanks at the cursor, and comments behind them where they are passed over. -/
def blanks (thenComments : Bool) : Nat → Reader Unit
  | 0 => return ()
  | fuel + 1 => do
    if (← peek?).any Text.isWhitespace then
      if thenComments then next else skip 1
      blanks thenComments fuel

/-- Reads a number with blanks around it, or what is wrong with it. -/
def number : Reader (Except Fault Nat) := do
  blanks false (← get).chars.length
  let start ← place
  let digits ← takeWhile Char.isDigit
  let span ← spanFrom start
  blanks true (← get).chars.length
  match Decimal.natural? 10 digits with
  | none => return .error (.at .missingCount span)
  | some n => return if n < UInt32.size then .ok n else .error (.at .invalidNumber span)

/-- Reads how often something is repeated, behind the opening brace at a place. -/
def countBounds (start : Place) : Reader (Nat × Option Nat) := do
  let low ← number
  match ← peek? with
  | none => fail .unclosedCount (← spanFrom start)
  | some ',' =>
    next
    match ← peek? with
    | none => fail .unclosedCount (← spanFrom start)
    | some '\x7d' => return (← low, none)
    | some _ =>
      let low : Nat ← low
      return (low, some (← (← number)))
  | some _ =>
    let low : Nat ← low
    return (low, some low)

/-- Takes the mark of a repetition that prefers to be short, which makes no difference here. -/
def reluctance : Reader Unit := do
  if (← peek?) == some '?' then skip 1

/-- Reads a counted repetition, at its opening brace. -/
def counted : Reader (Nat × Option Nat) := do
  let start ← place
  next
  if (← peek?).isNone then fail .unclosedCount (← spanFrom start)
  else
    let (low, high) ← countBounds start
    if (← peek?) != some '\x7d' then fail .unclosedCount (← spanFrom start)
    else
      next
      reluctance
      if high.any (· < low) then fail .reversedCount (← spanFrom start) else return (low, high)

/-- Reads a repetition that a single character stands for. -/
def uncounted (low : Nat) (high : Option Nat) : Reader (Nat × Option Nat) := do
  skip 1
  reluctance
  return (low, high)

/-- Reads how often something is repeated, at the character that says so. -/
def bounds : Char → Reader (Nat × Option Nat)
  | '?' => uncounted 0 (some 1)
  | '*' => uncounted 0 none
  | '+' => uncounted 1 none
  | _ => counted

/-- Whether a character says that what stands before it is repeated. -/
def isRepetition (c : Char) : Bool := c == '?' || c == '*' || c == '+' || c == '\x7b'

/-- Reads a repetition of the last item, at the character that says so. -/
def repetition (content : Content) (c : Char) : Reader Content := do
  match content.items with
  | [] => fail .nothingToRepeat (← here)
  | .flags .. :: _ => fail .nothingToRepeat (← here)
  | item :: others =>
    let (low, high) ← bounds c
    let repeated := Tree.repetition (← spanFrom item.span.start) item low high
    return { content with items := repeated :: others }

/-! ### Items -/

/-- The tree of what is written without brackets. -/
def treeOfAtom : Atom → Tree
  | .literal l => .literal l
  | .set s => .set s
  | .mark span m => .mark span m

/-- Reads an item that is no group. -/
def item (c : Char) : Reader Tree := do
  let span ← spanOf 1
  let single (tree : Tree) : Reader Tree := do
    skip 1
    return tree
  match c with
  | '[' => return .set (← bracketed)
  | '\\' => return treeOfAtom (← escape)
  | '.' => single (.dot span)
  | '^' => single (.mark span .lineStart)
  | '$' => single (.mark span .lineFinish)
  | c => single (.literal ⟨span, c, false⟩)

/-- What some changes of flags say about passing over blanks, if anything. -/
def verbosity? (changes : List FlagChange) : Option Bool :=
  (changes.find? (·.flag == .verbose)).map (·.on)

/-- The changes of flags at the start of a group. -/
def changesOf : GroupKind → List FlagChange
  | .capture => []
  | .plain changes => changes

/-- Takes changes of flags as far as they say whether blanks are passed over. -/
def setVerbosity (changes : List FlagChange) : Reader Unit :=
  modify fun c => { c with verbose := (verbosity? changes).getD c.verbose }

/-- Reads content up to the end of the pattern or, in a group with an opening parenthesis, up to the
closing one, as long as fuel lasts. -/
def tree (parenthesis : Option Span) : Nat → Content → Reader Tree
  | 0, content => return content.toTree (← place)
  | fuel + 1, content => do
    modify Cursor.skipIgnored
    match ← peek? with
    | none =>
      match parenthesis with
      | some span => fail .unclosedGroup span
      | none => return content.toTree (← place)
    | some ')' =>
      if parenthesis.isSome then return content.toTree (← place)
      else fail .unopenedGroup (← spanOf 1)
    | some '|' =>
      let finish ← place
      skip 1
      tree parenthesis fuel (content.divide finish (← place))
    | some '(' =>
      let span ← spanOf 1
      let verbose := (← get).verbose
      match ← opening with
      | .flags changes =>
        setVerbosity changes
        tree parenthesis fuel (content.push (.flags (← spanFrom span.start) changes))
      | .group kind =>
        setVerbosity (changesOf kind)
        let inside ← tree (some span) fuel (.startingAt (← place))
        skip 1
        modify fun c => { c with verbose }
        let group := Tree.group (← spanFrom span.start) kind inside
        tree parenthesis fuel (content.push group)
    | some c =>
      if isRepetition c then tree parenthesis fuel (← repetition content c)
      else tree parenthesis fuel (content.push (← item c))

end Reader

/-- The tree of a written pattern. -/
def Tree.ofText (text : String) : Except Fault Tree := do
  let reader := Reader.tree none (text.length + 1) (.startingAt .start)
  let (tree, _) ← reader.run (.ofText text)
  tree.checkDepth 0
  return tree

/-! ## Patterns from text

A text writes a pattern if it is read without a fault and its pattern can be searched for: it asks
for edges of ASCII words only, and it is not too large. -/

/-- Why a text is refused as a pattern. -/
inductive Refusal where
  | faulty (f : Fault)
  | scriptWord
  | tooLarge
deriving DecidableEq

/-- The size up to which patterns are searched for. -/
def sizeLimit : Nat := 10485760

/-- The text of a refusal of a pattern. -/
def Refusal.message (pattern : String) : Refusal → String
  | .faulty f => f.message pattern
  | .scriptWord => "error building NFA"
  | .tooLarge => "Compiled regex exceeds size limit of " ++ toString sizeLimit ++ " bytes."

/-- The pattern that a text writes. -/
def ofText (text : String) : Except Refusal Pattern := do
  let tree ← (Tree.ofText text).mapError .faulty
  let (p, _) ← (ofTree tree .initial).mapError .faulty
  if sizeLimit < p.automatonSize .forward then .error .tooLarge
  else if p.asksForScriptWord then .error .scriptWord
  else if sizeLimit < p.automatonSize .backward then .error .tooLarge
  else .ok p

end BatteryWatch.Log.Pattern
