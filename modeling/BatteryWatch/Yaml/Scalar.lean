import BatteryWatch.Decimal
import BatteryWatch.Text.Quoted
import BatteryWatch.Yaml.Token

/-!
# What scalars mean

A plain scalar stands for nothing, a truth value, an integer, a floating point number or its own
text; a tag can say which. Integers may be written in hexadecimal, octal or binary, and a decimal
integer does not start with a needless zero.
-/

namespace BatteryWatch.Yaml

/-- What a node stands for. -/
inductive Meaning where
  | null
  | boolean (b : Bool)
  | integer (n : Int)
  | float (x : Binary64)
  | text (s : String)
  | sequence
  | mapping
deriving DecidableEq

/-- An integer as messages show it: one of more than sixty-four bits with the type that holds it. -/
def integerMessage (n : Int) : String :=
  let shown := "integer `" ++ toString n ++ "`"
  if (UInt64.size : Int) ≤ n then shown ++ " as u128"
  else if n < Int64.minValue.toInt then shown ++ " as i128"
  else shown

/-- What a node stands for, as messages show it. -/
def Meaning.message : Meaning → String
  | .null => "unit value"
  | .boolean b => "boolean `" ++ toString b ++ "`"
  | .integer n => integerMessage n
  | .float x => "floating point `" ++ Decimal.pointedText x ++ "`"
  | .text s => "string " ++ Text.quoted s
  | .sequence => "sequence"
  | .mapping => "map"

/-- Whether a text starts with a sign. -/
def isSigned (text : List Char) : Bool := text.head? == some '+' || text.head? == some '-'

/-- A text without a plus sign at its start. -/
def dropPlus : List Char → List Char
  | '+' :: rest => rest
  | text => text

/-- A text without a sign at its start. -/
def dropSign : List Char → List Char
  | '+' :: rest => rest
  | '-' :: rest => rest
  | text => text

/-- Whether a text is digits with a needless zero in front, which is not a number. -/
def isPadded (text : List Char) : Bool :=
  match dropSign text with
  | '0' :: c :: rest => (c :: rest).all Char.isDigit
  | _ => false

/-- The natural number after a mark that gives its radix. -/
def radixNatural? : List Char → Option Nat
  | '0' :: 'x' :: rest => Decimal.natural? 16 rest
  | '0' :: 'o' :: rest => Decimal.natural? 8 rest
  | '0' :: 'b' :: rest => Decimal.natural? 2 rest
  | _ => none

/-- The natural number that a text stands for. -/
def natural? (text : List Char) : Option Nat :=
  match radixNatural? (dropPlus text) with
  | some n => some n
  | none => if isPadded text then none else Decimal.natural? 10 (dropPlus text)

/-- The natural number behind the minus sign of a text. -/
def negated? : List Char → Option Nat
  | '-' :: rest =>
    match radixNatural? rest with
    | some n => some n
    | none => if isPadded rest then none else Decimal.natural? 10 rest
  | _ => none

/-- The integer that a text stands for, if it has at most 128 bits. -/
def integer? (text : List Char) : Option Int :=
  match natural? text, negated? text with
  | some n, _ => if n < 1 <<< 128 then some n else none
  | none, some n => if n ≤ 1 <<< 127 then some (-n) else none
  | none, none => none

/-- The floating point number that a text stands for. -/
def float? (text : List Char) : Option Binary64 :=
  let rest := dropPlus text
  if text.head? == some '+' && isSigned rest then none
  else if rest = ".inf".toList ∨ rest = ".Inf".toList ∨ rest = ".INF".toList then
    some (.infinity false)
  else if text = "-.inf".toList ∨ text = "-.Inf".toList ∨ text = "-.INF".toList then
    some (.infinity true)
  else if text = ".nan".toList ∨ text = ".NaN".toList ∨ text = ".NAN".toList then
    some .notANumber
  else (Decimal.float? rest).filter Binary64.isFinite

/-- Whether a text stands for nothing. -/
def isNull (text : String) : Bool :=
  text == "null" || text == "Null" || text == "NULL" || text == "~"

/-- The truth value that a text stands for. -/
def boolean? (text : String) : Option Bool :=
  if text == "true" || text == "True" || text == "TRUE" then some true
  else if text == "false" || text == "False" || text == "FALSE" then some false
  else none

/-- What a plain scalar stands for. -/
def plainMeaning (text : String) : Meaning :=
  let chars := text.toList
  if text == "" || isNull text then .null
  else
    match boolean? text, integer? chars with
    | some b, _ => .boolean b
    | none, some n => .integer n
    | none, none =>
      match if isPadded chars then none else float? chars with
      | some x => .float x
      | none => .text text

/-- The tags that say what a scalar is. -/
def coreTag (name : String) : String := "tag:yaml.org,2002:" ++ name

/-- What a scalar stands for, or what its tag promises in vain. -/
def scalarMeaning (tag : Option String) (style : ScalarStyle) (text : String) :
    Except String Meaning :=
  let promised (expected : String) (m : Option Meaning) : Except String Meaning :=
    match m with
    | some m => .ok m
    | none => .error expected
  match tag with
  | none => .ok (if style = .plain then plainMeaning text else .text text)
  | some tag =>
    if tag == coreTag "bool" then promised "a boolean" ((boolean? text).map .boolean)
    else if tag == coreTag "int" then promised "an integer" ((integer? text.toList).map .integer)
    else if tag == coreTag "float" then promised "a float" ((float? text.toList).map .float)
    else if tag == coreTag "null" then promised "null" (if isNull text then some .null else none)
    else if tag.startsWith "!" && style = .plain then .ok (plainMeaning text)
    else .ok (.text text)

end BatteryWatch.Yaml
