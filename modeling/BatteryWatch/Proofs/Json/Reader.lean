import BatteryWatch.Decimal
import BatteryWatch.Text.Quoted

/-!
# A reader of JSON texts

Reads any JSON text, not only the flat objects that this program writes. `Reader.step` takes one
character: it is part of a string or of a bare word, or it is a token by itself, or a blank. Tokens
are put in their places by `Place.step`, which keeps the arrays and objects that are still open.
`read?` gives what a whole text says, with the members of an object in the order of the text, or
nothing if it is not one JSON value.
-/

namespace BatteryWatch.Json

/-- What a JSON text says. -/
inductive Data where
  | null
  | boolean (b : Bool)
  /-- A number without fraction and exponent. -/
  | integer (n : Int)
  /-- Any other number: an integer times a power of ten. -/
  | decimal (digits power : Int)
  | text (s : String)
  | array (items : List Data)
  | object (members : List (String × Data))

/-! ## Strings -/

/-- The character that is written as a backslash and the given character. -/
def escaped? : Char → Option Char
  | '"' => some '"'
  | '\\' => some '\\'
  | '/' => some '/'
  | 'b' => some '\x08'
  | 'f' => some '\x0c'
  | 'n' => some '\n'
  | 'r' => some '\r'
  | 't' => some '\t'
  | _ => none

/-- The codes written between the quotes of a string: of characters, and of halves of characters
where they are escaped as such. Control characters must be escaped. -/
def codes? : List Char → Option (List Nat)
  | [] => some []
  | '\\' :: 'u' :: a :: b :: c :: d :: rest =>
    (Decimal.natural? 16 [a, b, c, d]).bind fun code => (codes? rest).map (code :: ·)
  | '\\' :: c :: rest => (escaped? c).bind fun c => (codes? rest).map (c.toNat :: ·)
  | c :: rest =>
    if c = '\\' ∨ c.toNat < 0x20 then none else (codes? rest).map (c.toNat :: ·)

/-- Whether a code is that of the first half of a character. -/
def isFirstHalf (code : Nat) : Bool := 0xD800 ≤ code && code < 0xDC00

/-- Whether a code is that of the second half of a character. -/
def isSecondHalf (code : Nat) : Bool := 0xDC00 ≤ code && code < 0xE000

/-- The characters with the given codes, the first half of one being read already if it is given;
two halves make a character, and none stands alone. -/
def chars? : Option Nat → List Nat → Option (List Char)
  | none, [] => some []
  | none, code :: rest =>
    if isFirstHalf code then chars? (some code) rest
    else if isSecondHalf code then none
    else (chars? none rest).map (Char.ofNat code :: ·)
  | some _, [] => none
  | some half, code :: rest =>
    if isSecondHalf code then
      (chars? none rest).map (Char.ofNat (0x10000 + (half - 0xD800) * 0x400 + (code - 0xDC00)) :: ·)
    else none

/-- The string written between quotes. -/
def text? (raw : List Char) : Option String :=
  ((codes? raw).bind (chars? none)).map String.ofList

/-! ## Bare words -/

/-- The digits behind a point, if there is one, and what follows them. -/
def fraction? : List Char → Option (List Char × List Char)
  | '.' :: rest =>
    if rest.takeWhile Char.isDigit = [] then none
    else some (rest.takeWhile Char.isDigit, rest.dropWhile Char.isDigit)
  | rest => some ([], rest)

/-- The power of ten behind an exponent mark, if there is one. -/
def power? : List Char → Option Int
  | [] => some 0
  | c :: rest => if c = 'e' ∨ c = 'E' then Decimal.exponent? rest else none

/-- The number with a sign and the digits of a bare word; there must be a digit in front of a point,
and a zero in front of other digits is refused. -/
def unsigned? (sign : Int) (raw : List Char) : Option Data :=
  let whole := raw.takeWhile Char.isDigit
  let rest := raw.dropWhile Char.isDigit
  if whole = [] ∨ whole.head? = some '0' ∧ 1 < whole.length then none
  else if rest = [] then (Decimal.natural? 10 whole).map fun n : Nat => .integer (sign * n)
  else do
    let (part, rest) ← fraction? rest
    let power ← power? rest
    let digits ← Decimal.natural? 10 (whole ++ part)
    return .decimal (sign * digits) (power - part.length)

/-- The number of a bare word. -/
def number? : List Char → Option Data
  | '-' :: raw => unsigned? (-1) raw
  | raw => unsigned? 1 raw

/-- What a bare word says. -/
def word? (raw : List Char) : Option Data :=
  if raw = ['n', 'u', 'l', 'l'] then some .null
  else if raw = ['t', 'r', 'u', 'e'] then some (.boolean true)
  else if raw = ['f', 'a', 'l', 's', 'e'] then some (.boolean false)
  else number? raw

/-! ## Places -/

/-- What texts are put together from. -/
inductive Token where
  /-- A string or a bare word. -/
  | scalar (d : Data)
  | openArray
  | closeArray
  | openObject
  | closeObject
  | colon
  | comma

/-- The token that a character is by itself. -/
def Token.ofChar? : Char → Option Token
  | '[' => some .openArray
  | ']' => some .closeArray
  | '\x7b' => some .openObject
  | '\x7d' => some .closeObject
  | ':' => some .colon
  | ',' => some .comma
  | _ => none

/-- An array or object that is open while one of its values is read. -/
inductive Container where
  | array (items : List Data)
  /-- An object with its members so far and the key of the value that is read. -/
  | object (members : List (String × Data)) (key : String)

/-- Where the next token stands, and what is open around it. -/
inductive Place where
  | beforeValue (within : List Container)
  /-- Behind the bracket that opens an array. -/
  | inArray (within : List Container)
  /-- Behind the brace that opens an object. -/
  | inObject (within : List Container)
  /-- Before another key of an object. -/
  | beforeKey (members : List (String × Data)) (within : List Container)
  /-- Behind a key of an object. -/
  | afterKey (members : List (String × Data)) (key : String) (within : List Container)
  | afterValue (d : Data) (within : List Container)

namespace Place

/-- The place behind the first token of a value. -/
def start (within : List Container) : Token → Option Place
  | .scalar d => some (.afterValue d within)
  | .openArray => some (.inArray within)
  | .openObject => some (.inObject within)
  | _ => none

/-- The place behind a token. -/
def step : Place → Token → Option Place
  | .beforeValue within, t => start within t
  | .inArray within, .closeArray => some (.afterValue (.array []) within)
  | .inArray within, t => start (.array [] :: within) t
  | .inObject within, .closeObject => some (.afterValue (.object []) within)
  | .inObject within, .scalar (.text key) => some (.afterKey [] key within)
  | .beforeKey members within, .scalar (.text key) => some (.afterKey members key within)
  | .afterKey members key within, .colon => some (.beforeValue (.object members key :: within))
  | .afterValue d (.array items :: within), .comma =>
    some (.beforeValue (.array (items ++ [d]) :: within))
  | .afterValue d (.array items :: within), .closeArray =>
    some (.afterValue (.array (items ++ [d])) within)
  | .afterValue d (.object members key :: within), .comma =>
    some (.beforeKey (members ++ [(key, d)]) within)
  | .afterValue d (.object members key :: within), .closeObject =>
    some (.afterValue (.object (members ++ [(key, d)])) within)
  | _, _ => none

/-- What a text says that ends at a place. -/
def finish : Place → Option Data
  | .afterValue d [] => some d
  | _ => none

end Place

/-! ## Texts -/

/-- What the last character belongs to, if it is part of something longer. -/
inductive Pending where
  | nothing
  /-- A string, and whether its last character is a backslash that escapes the next one. -/
  | string (raw : List Char) (escaping : Bool)
  | word (raw : List Char)

/-- How far a text is read. -/
structure Reader where
  pending : Pending
  place : Place

/-- Whether a character stands between tokens only to divide them. -/
def isBlank (c : Char) : Bool := c == ' ' || c == '\t' || c == '\n' || c == '\r'

/-- Whether a character cannot be part of a bare word. -/
def endsWord (c : Char) : Bool := isBlank c || c == '"' || (Token.ofChar? c).isSome

namespace Reader

/-- The reader before the first character. -/
def initial : Reader := ⟨.nothing, .beforeValue []⟩

/-- The reader after the first character of what stands at a place. -/
def enter (place : Place) (c : Char) : Option Reader :=
  if isBlank c then some ⟨.nothing, place⟩
  else if c = '"' then some ⟨.string [] false, place⟩
  else
    match Token.ofChar? c with
    | some t => (place.step t).map (⟨.nothing, ·⟩)
    | none => some ⟨.word [c], place⟩

/-- The place behind a bare word. -/
def endWord (place : Place) (raw : List Char) : Option Place :=
  (word? raw).bind fun d => place.step (.scalar d)

/-- The reader after a character. -/
def step : Reader → Char → Option Reader
  | ⟨.nothing, place⟩, c => enter place c
  | ⟨.string raw true, place⟩, c => some ⟨.string (raw ++ [c]) false, place⟩
  | ⟨.string raw false, place⟩, c =>
    if c = '"' then
      (text? raw).bind fun s => (place.step (.scalar (.text s))).map (⟨.nothing, ·⟩)
    else some ⟨.string (raw ++ [c]) (c == '\\'), place⟩
  | ⟨.word raw, place⟩, c =>
    if endsWord c then (endWord place raw).bind (enter · c)
    else some ⟨.word (raw ++ [c]), place⟩

/-- The reader after some characters. -/
def run (r : Reader) (cs : List Char) : Option Reader := cs.foldlM step r

/-- What a text says that ends here. -/
def finish : Reader → Option Data
  | ⟨.nothing, place⟩ => place.finish
  | ⟨.string _ _, _⟩ => none
  | ⟨.word raw, place⟩ => (endWord place raw).bind Place.finish

end Reader

/-- What a text says, if it is a JSON value. -/
def read? (text : String) : Option Data := (Reader.initial.run text.toList).bind Reader.finish

/-- Nested containers, escapes and a number with all its parts. -/
example : read? " [-0.5e+3, \x7b\"\\u00e9\\ud83d\\ude00\": [null, true]\x7d]\n" =
    some (.array [.decimal (-5) 2, .object [("é😀", .array [.null, .boolean true])]]) := by
  cbv

/-- A comma without a value, a needless zero, half a character and two values are refused. -/
example : ["[1,]", "01", "\"\\ud83d\"", "1 2"].map (fun text => (read? text).isSome) =
    [false, false, false, false] := by
  cbv

end BatteryWatch.Json
