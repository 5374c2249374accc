import BatteryWatch.Log.Pattern.Cursor
import BatteryWatch.Log.Pattern.Tree

/-!
# Reading the starts of groups

What stands between an opening parenthesis and the content of its group: a name, flags, or nothing.
Flags without a colon behind them start no group, but hold for the rest of the group around them.
-/

namespace BatteryWatch.Log.Pattern

namespace Reader

/-! ### Flags -/

/-- The flag that a letter stands for. -/
def flag? : Char → Option Flag
  | 'i' => some .ignoreCase
  | 'm' => some .byLine
  | 's' => some .dotAll
  | 'U' => some .reluctant
  | 'u' => some .unicode
  | 'R' => some .returns
  | 'x' => some .verbose
  | _ => none

/-- A flag, or the dash behind which flags are switched off, and the part it is read from. -/
structure FlagItem where
  span : Span
  flag : Option Flag

/-- The items that are read so far with one more, which may not be among them already. -/
def addFlag (items : List FlagItem) (item : FlagItem) : Reader (List FlagItem) :=
  match items.find? (·.flag == item.flag) with
  | none => return items ++ [item]
  | some first =>
    let cause := if item.flag.isNone then Cause.repeatedNegation else .duplicateFlag
    throw ⟨cause, item.span, some first.span⟩

/-- Reads the item that a character stands for. -/
def flagItem (c : Char) : Reader FlagItem := do
  let span ← spanOf 1
  if c == '-' then return ⟨span, none⟩
  else
    match flag? c with
    | none => fail .unknownFlag span
    | some flag => return ⟨span, some flag⟩

/-- Reads flags up to a colon or a closing parenthesis, with those read so far, as long as fuel
lasts. -/
def flagItems : Nat → List FlagItem → Reader (List FlagItem)
  | 0, items => return items
  | fuel + 1, items => do
    match ← peek? with
    | none => fail .unclosedFlags (← here)
    | some ':' => return items
    | some ')' => return items
    | some c =>
      let items ← addFlag items (← flagItem c)
      skip 1
      flagItems fuel items

/-- The changes that flags make: those behind a dash are switched off. -/
def changes (on : Bool) : List FlagItem → List FlagChange
  | [] => []
  | ⟨_, none⟩ :: rest => changes false rest
  | ⟨_, some flag⟩ :: rest => ⟨flag, on⟩ :: changes on rest

/-- Reads flags up to a colon or a closing parenthesis; the last may not be a dash. -/
def flags : Reader (List FlagChange) := do
  let items ← flagItems ((← get).chars.length + 1) []
  match items.getLast? with
  | some ⟨span, none⟩ => fail .danglingNegation span
  | _ => return changes true items

/-! ### Names -/

/-- Whether a character can stand in a name, at its start or behind it. -/
def isNameChar (atStart : Bool) (c : Char) : Bool :=
  c == '_' || Text.isAlphabetic c ||
    (!atStart && (c == '.' || c == '[' || c == ']' || Text.isNumeric c))

/-- How many characters belong to a name, up to one that has no place in it. -/
def nameLength : List Char → Nat
  | [] => 0
  | c :: rest => if isNameChar true c then (rest.takeWhile (isNameChar false)).length + 1 else 0

/-- Reads the name of a group up to its closing bracket. -/
def name : Reader Unit := do
  let start ← place
  let chars := (← get).chars
  let length := nameLength chars
  skip length
  match ← peek? with
  | none => fail .unclosedName (← here)
  | some '>' =>
    let span ← spanFrom start
    let name := String.ofList (chars.take length)
    skip 1
    if name.isEmpty then fail .emptyName span
    else
      match (← get).names.find? (·.1 == name) with
      | some (_, first) => throw ⟨.duplicateName, span, some first⟩
      | none => modify fun c => { c with names := (name, span) :: c.names }
  | some _ => fail .invalidName (← spanOf 1)

/-! ### Groups -/

/-- What an opening parenthesis starts. -/
inductive Opening where
  | group (kind : GroupKind)
  | flags (changes : List FlagChange)

/-- How many characters announce that a group looks at the text around it. -/
def lookAroundLength (c : Cursor) : Nat :=
  if c.startsWith "?=" || c.startsWith "?!" then 2
  else if c.startsWith "?<=" || c.startsWith "?<!" then 3
  else 0

/-- Reads flags and the character that ends them; `question` is the place of the question mark
before them and `span` the opening parenthesis. -/
def flagOpening (span : Span) (question : Place) : Reader Opening := do
  if (← peek?).isNone then fail .unclosedGroup span
  else
    let changes ← flags
    let ending ← peek?
    skip 1
    if ending == some ':' then return .group (.plain changes)
    else if changes.isEmpty then fail .nothingToRepeat (.at question)
    else return .flags changes

/-- Reads the start of a group, at its opening parenthesis. -/
def opening : Reader Opening := do
  let span ← spanOf 1
  next
  let c ← get
  if 0 < lookAroundLength c then
    skip (lookAroundLength c)
    fail .lookAround (← spanFrom span.start)
  else if c.startsWith "?P<" || c.startsWith "?<" then
    skip (if c.startsWith "?P<" then 3 else 2)
    name
    return .group .capture
  else if c.startsWith "?" then
    skip 1
    flagOpening span c.place
  else return .group .capture

end Reader

end BatteryWatch.Log.Pattern
