/-!
# Text without terminal controls

A terminal takes some characters as commands: single control characters, and sequences that start
with an escape character. `visible` leaves them out. A sequence is followed by its state, one
character at a time; the blanks that end or divide lines are kept inside most sequences, and what
follows such a blank is shown as if no sequence had begun, until the next control character.
-/

namespace BatteryWatch.Text

/-- What a sequence with numbers is meant for: the terminal, or a device behind it. -/
inductive SequenceKind where
  | control
  | device
deriving DecidableEq

/-- How far a terminal is into a sequence. -/
inductive ControlState where
  /-- Outside of sequences. -/
  | ground
  /-- After an escape character. -/
  | escape
  /-- After an escape character and marks. -/
  | selection
  /-- At the start of a sequence with numbers. -/
  | start (kind : SequenceKind)
  /-- Among the numbers of a sequence. -/
  | numbers (kind : SequenceKind)
  /-- Among the marks that follow the numbers of a sequence. -/
  | marks (kind : SequenceKind)
  /-- In a malformed sequence for the terminal, up to its last character. -/
  | malformed
  /-- In text for a device or for nobody. -/
  | hidden
  /-- In text for the system around the terminal. -/
  | system
deriving DecidableEq

/-- The state after a character that has no place in a sequence. -/
def SequenceKind.afterFault : SequenceKind → ControlState
  | .control => .malformed
  | .device => .hidden

/-- The state after the last character of a sequence. -/
def SequenceKind.afterLast : SequenceKind → ControlState
  | .control => .ground
  | .device => .hidden

namespace ControlState

/-- Whether a character lies between two others, both included. -/
def within (low high c : Char) : Bool := low ≤ c && c ≤ high

/-- Whether a blank that ends or divides lines takes effect where it stands. -/
def keepsBlanks : ControlState → Bool
  | .start .device | .numbers .device | .marks .device | .hidden | .system => false
  | _ => true

/-- The state after an escape character and another character. -/
def afterEscape (c : Char) : ControlState :=
  if within ' ' '/' c then .selection
  else if c == '[' then .start .control
  else if c == 'P' then .start .device
  else if c == ']' then .system
  else if c == 'X' || c == '^' || c == '_' then .hidden
  else if within '0' '~' c then .ground
  else .escape

/-- The state after an ASCII character. -/
def next (s : ControlState) (c : Char) : ControlState :=
  if c == '\x18' || c == '\x1a' then .ground
  else if c == '\x1b' then .escape
  else
    match s with
    | .ground => .ground
    | .escape => afterEscape c
    | .selection => if within '0' '~' c then .ground else s
    | .start kind =>
      if within ' ' '/' c then .marks kind
      else if within '0' '?' c then .numbers kind
      else if within '@' '~' c then kind.afterLast
      else s
    | .numbers kind =>
      if within ' ' '/' c then .marks kind
      else if within '<' '?' c then kind.afterFault
      else if within '@' '~' c then kind.afterLast
      else s
    | .marks kind =>
      if within '0' '?' c then kind.afterFault
      else if within '@' '~' c then kind.afterLast
      else s
    | .malformed => if within '@' '~' c then .ground else s
    | .hidden => .hidden
    | .system => if c == '\x07' then .ground else .system

/-- The state after a character beyond ASCII that is not shown: the byte `9c` ends hidden text. -/
def nextWide (s : ControlState) (c : Char) : ControlState :=
  if s == .hidden && (String.singleton c).toUTF8.toList.contains 0x9c then .ground else s

/-- Whether an ASCII character is shown. -/
def shows (s : ControlState) (c : Char) : Bool :=
  (s == .ground && within ' ' '~' c) ||
    (s.keepsBlanks && (c == '\t' || c == '\n' || c == '\x0c' || c == '\r'))

end ControlState

/-- What a terminal has made of a text so far. -/
structure Terminal where
  state : ControlState
  /-- Whether the last character was shown. -/
  showing : Bool

namespace Terminal

/-- The terminal before the first character. -/
def initial : Terminal := ⟨.ground, false⟩

/-- The terminal after a character. -/
def step (t : Terminal) (c : Char) : Terminal :=
  if '\x7f' < c then
    if t.showing || t.state == .ground then ⟨.ground, true⟩ else ⟨t.state.nextWide c, false⟩
  else if (t.showing && ControlState.ground.shows c) || t.state.shows c then ⟨t.state, true⟩
  else ⟨t.state.next c, false⟩

/-- The characters that are shown, from a terminal on. -/
def shown : Terminal → List Char → List Char
  | _, [] => []
  | t, c :: rest =>
    let t := t.step c
    if t.showing then c :: t.shown rest else t.shown rest

end Terminal

/-- A text without what a terminal takes as commands. -/
def visible (text : String) : String := String.ofList (Terminal.initial.shown text.toList)

end BatteryWatch.Text
