/-!
# Floating point numbers, decimal texts and durations

Sixty-four-bit floating point numbers, the shortest decimal texts that read back as them, the
reading of decimal texts, and spans of time.
-/

namespace BatteryWatch

/-! ## Binary64 numbers

Sixty-four-bit floating point numbers by their bits. Every finite one is a whole multiple of the
smallest positive one, `2 ^ (-1074)`; `Binary64.value` gives that multiple as a mantissa below
`2 ^ 53` and a power of two, and `Binary64.ofRatio` rounds a fraction to the nearest number, a tie
going to the even mantissa. All arithmetic is on natural numbers. -/

/-- A floating point number by its bits. -/
structure Binary64 where
  bits : UInt64
deriving DecidableEq

namespace Binary64

/-- What the bits of a number say. -/
inductive Value where
  | nan
  | infinite (negative : Bool)
  /-- The number `mantissa * 2 ^ scale` in units of `2 ^ (-1074)`. -/
  | finite (negative : Bool) (mantissa scale : Nat)
deriving DecidableEq

/-- How many of the smallest positive number make one. -/
def unit : Nat := 1 <<< 1074

/-- The lowest exponent bit. It is also the mantissa bit that normal numbers have in front of their
fraction bits. -/
def exponentUnit : Nat := 0x10000000000000

/-- The sign bit, above all others. -/
def signUnit : Nat := 0x8000000000000000

/-- The fraction bits. -/
def fraction (x : Binary64) : Nat := x.bits.toNat % exponentUnit

/-- The exponent bits. -/
def exponent (x : Binary64) : Nat := x.bits.toNat / exponentUnit % 2048

/-- The sign bit. -/
def negative (x : Binary64) : Bool := signUnit ≤ x.bits.toNat

/-- The number that the bits stand for. -/
def value (x : Binary64) : Value :=
  if x.exponent = 2047 then
    if x.fraction = 0 then .infinite x.negative else .nan
  else if x.exponent = 0 then .finite x.negative x.fraction 0
  else .finite x.negative (exponentUnit + x.fraction) (x.exponent - 1)

/-- Whether a number is neither infinite nor undefined. -/
def isFinite (x : Binary64) : Bool := x.exponent != 2047

/-- Whether a number is undefined. -/
def isNaN (x : Binary64) : Bool := x.exponent == 2047 && x.fraction != 0

/-- The quotient of two natural numbers rounded to the nearest one, a tie going to the even one. -/
def roundDiv (n d : Nat) : Nat :=
  let q := n / d
  let r := n % d
  if d < 2 * r || (2 * r == d && q % 2 == 1) then q + 1 else q

/-- The bits of positive infinity. -/
def infinityBits : Nat := 2047 * exponentUnit

/-- The number with a sign and the bits below the sign. -/
def ofMagnitude (negative : Bool) (magnitude : Nat) : Binary64 :=
  ⟨UInt64.ofNat (magnitude + if negative then signUnit else 0)⟩

/-- The number nearest to a fraction, infinity when it is too large. -/
def ofRatio (negative : Bool) (numerator denominator : Nat) : Binary64 :=
  let units := numerator * unit
  let scale := (units / denominator).log2 - 52
  let mantissa := roundDiv units (denominator <<< scale)
  ofMagnitude negative (min (mantissa + scale * exponentUnit) infinityBits)

/-- An infinite number. -/
def infinity (negative : Bool) : Binary64 := ofMagnitude negative infinityBits

/-- The number that is not one. -/
def notANumber : Binary64 := ⟨0x7FF8000000000000⟩

end Binary64

/-! ## Shortest decimal text

A finite number is written with the fewest digits that read back as the same number, of these the
nearest, a tie going up, and always positionally. The numbers that read back as `m * 2 ^ s` units
form an interval around it that reaches halfway to its neighbours and holds its ends if `m` is even
(`Interval.ofValue`); on the grid of multiples of a power of ten at most two points can be nearest
(`Interval.onGrid`). -/

namespace Decimal

/-- The fractions `low / den` to `high / den` that read back as `mid / den`. -/
structure Interval where
  low : Nat
  mid : Nat
  high : Nat
  den : Nat
  /-- Whether the ends read back as well. -/
  closed : Bool

/-- The interval of a positive number given in units of `2 ^ (-1074)`. -/
def Interval.ofValue (mantissa scale : Nat) : Interval where
  low := (4 * mantissa - if mantissa = Binary64.exponentUnit ∧ 0 < scale then 1 else 2) <<< scale
  mid := (4 * mantissa) <<< scale
  high := (4 * mantissa + 2) <<< scale
  den := 4 * Binary64.unit
  closed := mantissa % 2 = 0

/-- The interval with its fractions multiplied by a power of ten. -/
def Interval.shift (i : Interval) (power : Nat) : Interval :=
  let factor := Nat.pow 10 power
  { i with low := i.low * factor, mid := i.mid * factor, high := i.high * factor }

/-- The interval with its fractions divided by a power of ten. -/
def Interval.unshift (i : Interval) (power : Nat) : Interval :=
  { i with den := i.den * Nat.pow 10 power }

/-- Whether a natural number lies in the interval. -/
def Interval.contains (i : Interval) (n : Nat) : Bool :=
  let x := n * i.den
  if i.closed then i.low ≤ x && x ≤ i.high else i.low < x && x < i.high

/-- The natural number in the interval nearest to its middle, if there is one. -/
def Interval.nearest? (i : Interval) : Option Nat :=
  let below := i.mid / i.den
  let above := below + 1
  match i.contains below, i.contains above with
  | true, true => if i.mid - below * i.den < above * i.den - i.mid then some below else some above
  | true, false => some below
  | false, true => some above
  | false, false => none

/-- The interval in units of a power of ten. -/
def Interval.onGrid (i : Interval) (power : Int) : Interval :=
  if power < 0 then i.shift (-power).toNat else i.unshift power.toNat

/-- The number of zeros after the point of a fraction below one, at most `limit`. -/
def leadingZeros : Nat → Nat → Nat → Nat
  | 0, _, _ => 0
  | limit + 1, n, d => if d ≤ 10 * n then 0 else leadingZeros limit (10 * n) d + 1

/-- The number of digits before the point; zeros after the point count negatively. -/
def magnitude (i : Interval) : Int :=
  let whole := i.mid / i.den
  if whole = 0 then -(leadingZeros 400 i.mid i.den : Int) else (Nat.toDigits 10 whole).length

/-- The first of `count` ever finer grids with a point in the interval, and that point. -/
def firstGrid (i : Interval) : Nat → Int → Option (Nat × Int)
  | 0, _ => none
  | count + 1, power =>
    match (i.onGrid power).nearest? with
    | some digits => some (digits, power)
    | none => firstGrid i count (power - 1)

/-- The shortest digits of a positive number and the power of ten they are multiplied by. -/
def shortest (mantissa scale : Nat) : Nat × Int :=
  let i := Interval.ofValue mantissa scale
  let power := magnitude i - 1
  let finest := i.onGrid (power - 16)
  (firstGrid i 17 power).getD (finest.mid / finest.den, power - 16)

/-- Digits without the zeros at their end. -/
def dropTrailingZeros (digits : List Char) : List Char :=
  (digits.reverse.dropWhile (· == '0')).reverse

/-- The positional text of `digits * 10 ^ power`. -/
def positional (digits : Nat) (power : Int) : String :=
  if 0 ≤ power then String.ofList (Nat.toDigits 10 digits ++ List.replicate power.toNat '0')
  else
    let places := (-power).toNat
    let whole := digits / Nat.pow 10 places
    let part := Nat.toDigits 10 (digits % Nat.pow 10 places)
    let part := dropTrailingZeros (List.replicate (places - part.length) '0' ++ part)
    String.ofList (Nat.toDigits 10 whole ++ if part.isEmpty then [] else '.' :: part)

/-- The text of a number: the shortest digits, positional, without a point on whole numbers. -/
def text (x : Binary64) : String :=
  match x.value with
  | .nan => "NaN"
  | .infinite negative => if negative then "-inf" else "inf"
  | .finite negative mantissa scale =>
    let digits :=
      if mantissa = 0 then "0"
      else
        let (digits, power) := shortest mantissa scale
        positional digits power
    if negative then "-" ++ digits else digits

/-- The text of a number that always has a point if the number is finite. -/
def pointedText (x : Binary64) : String :=
  let t := text x
  if x.isFinite && !t.toList.contains '.' then t ++ ".0" else t

end Decimal

/-! ## Reading numbers

Decimal texts as exact fractions, rounded to the nearest floating point number, and digit strings
in a radix as natural numbers. -/

namespace Decimal

/-- The value of a digit in a radix, letters of either case standing for ten and more. -/
def digitValue? (radix : Nat) (c : Char) : Option Nat :=
  let value :=
    if c.isDigit then c.toNat - '0'.toNat
    else if c.isLower then c.toNat - 'a'.toNat + 10
    else if c.isUpper then c.toNat - 'A'.toNat + 10
    else radix
  if value < radix then some value else none

/-- The natural number written by digits in a radix; there must be at least one digit. -/
def natural? (radix : Nat) (digits : List Char) : Option Nat :=
  if digits.isEmpty then none
  else digits.foldlM (fun n c => (digitValue? radix c).map (radix * n + ·)) 0

/-- A decimal number: its digits as one natural number, how many there are without leading zeros,
and the power of ten they are multiplied by. -/
structure Parts where
  digits : Nat
  count : Nat
  power : Int

/-- The number of digits of a decimal text without its leading zeros. -/
def significant (digits : List Char) : Nat := (digits.dropWhile (· == '0')).length

/-- The digits after the exponent mark, with an optional sign. -/
def exponent? : List Char → Option Int
  | '+' :: rest => (natural? 10 rest).map Int.ofNat
  | '-' :: rest => (natural? 10 rest).map fun n => -Int.ofNat n
  | rest => (natural? 10 rest).map Int.ofNat

/-- A decimal number without sign: digits with an optional point, at least one of them, and an
optional exponent. -/
def parts? (text : List Char) : Option Parts :=
  let whole := text.takeWhile Char.isDigit
  let rest := text.dropWhile Char.isDigit
  let (part, rest) :=
    match rest with
    | '.' :: rest => (rest.takeWhile Char.isDigit, rest.dropWhile Char.isDigit)
    | rest => ([], rest)
  let exponent :=
    match rest with
    | [] => some 0
    | c :: rest => if c == 'e' || c == 'E' then exponent? rest else none
  match natural? 10 (whole ++ part), exponent with
  | some digits, some power =>
    some ⟨digits, significant (whole ++ part), power - part.length⟩
  | _, _ => none

/-- The floating point number nearest to a decimal number; far outside the range the digits are not
looked at. -/
def Parts.round (negative : Bool) (p : Parts) : Binary64 :=
  if p.digits = 0 ∨ p.power + p.count < -400 then .ofMagnitude negative 0
  else if 400 < p.power + p.count then .infinity negative
  else if 0 ≤ p.power then .ofRatio negative (p.digits * Nat.pow 10 p.power.toNat) 1
  else .ofRatio negative p.digits (Nat.pow 10 (-p.power).toNat)

/-- The words for infinite and undefined numbers, in any case. -/
def word? (negative : Bool) (text : List Char) : Option Binary64 :=
  match String.ofList (text.map Char.toLower) with
  | "inf" | "infinity" => some (.infinity negative)
  | "nan" => some .notANumber
  | _ => none

/-- A floating point number without sign. -/
def unsigned? (negative : Bool) (text : List Char) : Option Binary64 :=
  match parts? text with
  | some p => some (p.round negative)
  | none => word? negative text

/-- A floating point number with an optional sign. -/
def float? (text : List Char) : Option Binary64 :=
  match text with
  | '-' :: rest => unsigned? true rest
  | '+' :: rest => unsigned? false rest
  | rest => unsigned? false rest

end Decimal

/-! ## Durations

A duration is a number of whole seconds and a number of nanoseconds below one second. A number of
seconds is a duration if it is not negative and below `2 ^ 64`; it is rounded to the nearest
nanosecond, a tie going to the even one. -/

/-- A span of time. -/
structure Duration where
  seconds : Nat
  nanos : Nat
  nanos_lt : nanos < 1000000000
deriving DecidableEq

namespace Duration

/-- The duration of a number of nanoseconds. -/
def ofNanos (n : Nat) : Duration :=
  ⟨n / 1000000000, n % 1000000000, Nat.mod_lt _ (by decide)⟩

/-- The duration of a number of milliseconds. -/
def ofMillis (n : Nat) : Duration := ofNanos (n * 1000000)

/-- The whole duration in nanoseconds. -/
def toNanos (d : Duration) : Nat := d.seconds * 1000000000 + d.nanos

/-- The whole milliseconds of a duration. -/
def millis (d : Duration) : Nat := d.toNanos / 1000000

/-- A duration is the number of nanoseconds it was made of. -/
@[simp] theorem toNanos_ofNanos (n : Nat) : (ofNanos n).toNanos = n := by
  simp only [ofNanos, toNanos]
  omega

/-- A duration of milliseconds has that many of them. -/
@[simp] theorem millis_ofMillis (n : Nat) : (ofMillis n).millis = n := by
  simp [ofMillis, millis]

/-- Why a number of seconds is no duration. -/
inductive SecondsError where
  | negative
  | tooBigOrUndefined
deriving DecidableEq

/-- The text of a conversion error. -/
def SecondsError.message : SecondsError → String
  | .negative => "cannot convert float seconds to Duration: value is negative"
  | .tooBigOrUndefined =>
    "cannot convert float seconds to Duration: value is either too big or NaN"

/-- The duration of a number of seconds. -/
def ofSeconds (x : Binary64) : Except SecondsError Duration :=
  match x.value with
  | .nan => .error .tooBigOrUndefined
  | .infinite negative => .error (if negative then .negative else .tooBigOrUndefined)
  | .finite negative mantissa scale =>
    let units := mantissa <<< scale
    if negative ∧ units ≠ 0 then .error .negative
    else if UInt64.size * Binary64.unit ≤ units then .error .tooBigOrUndefined
    else .ok (ofNanos (Binary64.roundDiv (units * 1000000000) Binary64.unit))

end Duration

end BatteryWatch
