import BatteryWatch.Decimal
import BatteryWatch.Device
import BatteryWatch.Yaml.Node
import BatteryWatch.Yaml.Scalar

/-!
# Settings

What the program can be told by its configuration file, what a document makes of it, and how the
file is loaded.
-/

namespace BatteryWatch

/-! ## Settings and their defaults

What the program can be told by its configuration file, with a default for everything. -/

/-- The program's settings. -/
structure Settings where
  device : DeviceId
  readTimeoutMillis : UInt64
  /-- The seconds between polls. -/
  pollInterval : Binary64
  logLevel : String
deriving DecidableEq

namespace Settings

/-- The seconds between polls unless others are set. -/
def stockInterval : Binary64 := ⟨0x4014000000000000⟩

/-- The log level unless another is set. -/
def stockLevel : String := "info"

/-- The settings without a configuration file. -/
def stock : Settings := ⟨.stock, UInt64.ofNat Device.stockTimeoutMillis, stockInterval, stockLevel⟩

/-- The time to wait for an answer. -/
def readTimeout (s : Settings) : Duration := .ofMillis s.readTimeoutMillis.toNat

/-- Why a number of seconds between polls cannot be used. -/
structure IntervalError where
  /-- Where the number comes from. -/
  what : String
  seconds : Binary64
  cause : Duration.SecondsError
deriving DecidableEq

/-- The text of an interval error. -/
def IntervalError.message (e : IntervalError) : String :=
  "Invalid " ++ e.what ++ ": " ++ Decimal.text e.seconds ++ ": " ++ e.cause.message

/-- The duration of a number of seconds that comes from `what`. -/
def interval (what : String) (seconds : Binary64) : Except IntervalError Duration :=
  (Duration.ofSeconds seconds).mapError fun cause => ⟨what, seconds, cause⟩

/-- The time between polls. -/
def pollDuration (s : Settings) : Except IntervalError Duration :=
  interval "poll interval" s.pollInterval

end Settings

/-! ## Settings from documents

A document gives settings if it is a mapping whose known keys have values of the right type. A
value is never made to fit: a number out of range, a number in quotes or a known key given twice
is an error. Unknown keys are passed over, except in the mapping of the device's numbers. -/

namespace Settings

open Yaml (Document Node Mark Meaning ScalarStyle)

/-- The keys that lead from the top of a document to a value. -/
abbrev Path : Type := List String

/-- A path for people; the top of the document goes without saying. -/
def pathText (path : Path) : String :=
  if path.isEmpty then "" else ".".intercalate path ++ ": "

/-- What is wrong with a document that should give settings. -/
inductive Problem where
  /-- A node of another type than expected. -/
  | wrongType (found : Meaning) (expected : String)
  /-- A value of the right type that is not one of those expected. -/
  | wrongValue (found : Meaning) (expected : String)
  | missingField (name : String)
  | duplicateField (name : String)
  | unknownField (name : String) (known : List String)
deriving DecidableEq

/-- The text of a problem. -/
def Problem.message : Problem → String
  | .wrongType found expected => "invalid type: " ++ found.message ++ ", expected " ++ expected
  | .wrongValue found expected => "invalid value: " ++ found.message ++ ", expected " ++ expected
  | .missingField name => "missing field `" ++ name ++ "`"
  | .duplicateField name => "duplicate field `" ++ name ++ "`"
  | .unknownField name known =>
    "unknown field `" ++ name ++ "`, expected " ++
      " or ".intercalate (known.map fun k => "`" ++ k ++ "`")

/-- A problem with the place where it is. -/
structure DecodeError where
  problem : Problem
  path : Path
  mark : Mark
deriving DecidableEq

/-- The text of an error in a document. -/
def DecodeError.message (e : DecodeError) : String :=
  pathText e.path ++ e.problem.message ++ e.mark.suffix

/-- A value to be decoded: its document, the path to it and the node. -/
structure Place where
  document : Document
  path : Path
  node : Node

namespace Place

/-- The node with a reference at its top followed. -/
def target (p : Place) : Node := p.document.resolve p.node

/-- Fails at the node, or at what it refers to. -/
def fail {α : Type} (p : Place) (problem : Problem) : Except DecodeError α :=
  .error ⟨problem, p.path, p.target.mark⟩

/-- Fails because the node is of another type than expected. -/
def wrongType {α : Type} (p : Place) (expected : String) : Except DecodeError α :=
  match p.target with
  | .scalar _ tag style text =>
    match Yaml.scalarMeaning tag style text with
    | .ok found => p.fail (.wrongType found expected)
    | .error promised => p.fail (.wrongValue (.text text) promised)
  | .sequence .. => p.fail (.wrongType .sequence expected)
  | .mapping .. => p.fail (.wrongType .mapping expected)
  | .alias .. => p.fail (.wrongType .null expected)

/-- Whether a scalar is read as a number: if it is plain, or a literal block with the tag of the
number. -/
def isNumeric (tagName : String) (tag : Option String) (style : ScalarStyle) : Bool :=
  style == .plain || (style == .literal && tag == some (Yaml.coreTag tagName))

/-- The natural number below `2 ^ 64` that a node stands for. -/
def natural64 (p : Place) (expected : String) : Except DecodeError Nat :=
  match p.target with
  | .scalar _ tag style text =>
    match if isNumeric "int" tag style then Yaml.natural? text.toList else none with
    | some n => if n < UInt64.size then .ok n else p.wrongType expected
    | none => p.wrongType expected
  | _ => p.wrongType expected

/-- The number of sixty-four bits that a node stands for. -/
def word64 (p : Place) : Except DecodeError UInt64 := (p.natural64 "u64").map UInt64.ofNat

/-- The number of sixteen bits that a node stands for. -/
def word16 (p : Place) : Except DecodeError UInt16 := do
  let n ← p.natural64 "u16"
  if n < UInt16.size then return UInt16.ofNat n else p.fail (.wrongValue (.integer n) "u16")

/-- The floating point number that a node stands for. -/
def float (p : Place) : Except DecodeError Binary64 :=
  match p.target with
  | .scalar _ tag style text =>
    match if isNumeric "float" tag style then Yaml.float? text.toList else none with
    | some x => .ok x
    | none => p.wrongType "f64"
  | _ => p.wrongType "f64"

/-- The text of a scalar node of any kind. -/
def text (p : Place) (expected : String) : Except DecodeError String :=
  match p.target with
  | .scalar _ _ _ text => .ok text
  | _ => p.wrongType expected

/-- The key by which a path goes on: a reference or a collection has no name. -/
def step : Node → String
  | .scalar _ _ _ text => text
  | _ => "?"

/-- The entries of a mapping; a plain scalar without text counts as an empty mapping. -/
def entries (p : Place) (expected : String) : Except DecodeError (List (Node × Node)) :=
  match p.target with
  | .mapping _ entries => .ok entries
  | .scalar _ _ style text =>
    if style = .plain ∧ text = "" then .ok [] else (p.wrongType expected)
  | _ => p.wrongType expected

/-- Reads the entries of a mapping one after the other; `put` is given what is read so far, the key
with its place and the place of the value. -/
def foldEntries {α : Type} (p : Place)
    (put : α → String → Place → Place → Except DecodeError α) :
    List (Node × Node) → α → Except DecodeError α
  | [], a => .ok a
  | (key, value) :: rest, a => do
    let keyPlace := { p with node := key }
    let name ← keyPlace.text "field identifier"
    let a ← put a name keyPlace { p with path := p.path ++ [step key], node := value }
    foldEntries p put rest a

/-- Reads a field that must not have been read before. -/
def once {α : Type} (p : Place) (name : String) (before : Option α)
    (read : Except DecodeError α) : Except DecodeError (Option α) :=
  match before with
  | some _ => p.fail (.duplicateField name)
  | none => read.map some

end Place

/-- The device's numbers read so far. -/
structure DeviceFields where
  vendor : Option UInt16 := none
  product : Option UInt16 := none

/-- The keys of the device's numbers. -/
def deviceKeys : List String := ["vendor_id", "product_id"]

/-- Reads one entry of the mapping at `p` of the device's numbers. -/
def DeviceFields.put (p : Place) (f : DeviceFields) (name : String) (key value : Place) :
    Except DecodeError DeviceFields :=
  match name with
  | "vendor_id" => return { f with vendor := ← p.once name f.vendor value.word16 }
  | "product_id" => return { f with product := ← p.once name f.product value.word16 }
  | _ => key.fail (.unknownField name deviceKeys)

/-- The device's numbers, both of which are needed. -/
def DeviceFields.finish (p : Place) (f : DeviceFields) : Except DecodeError DeviceId :=
  match f.vendor, f.product with
  | some vendor, some product => .ok ⟨vendor, product⟩
  | none, _ => p.fail (.missingField "vendor_id")
  | some _, none => p.fail (.missingField "product_id")

/-- The device's numbers that a node gives. -/
def decodeDevice (p : Place) : Except DecodeError DeviceId := do
  let entries ← p.entries "struct DeviceInfo"
  (← p.foldEntries (DeviceFields.put p) entries {}).finish p

/-- Reads one entry of the mapping at `p` of the log settings. -/
def putLogLevel (p : Place) (level : Option String) (name : String) (_key value : Place) :
    Except DecodeError (Option String) :=
  match name with
  | "level" => p.once name level (value.text "a string")
  | _ => return level

/-- The log level that a node gives. -/
def decodeLogging (p : Place) : Except DecodeError String := do
  let entries ← p.entries "struct LoggingConfig"
  return (← p.foldEntries (putLogLevel p) entries none).getD stockLevel

/-- The settings read so far. -/
structure Fields where
  device : Option DeviceId := none
  readTimeoutMillis : Option UInt64 := none
  pollInterval : Option Binary64 := none
  logLevel : Option String := none

/-- Reads one entry of the mapping at `p` of the settings. -/
def Fields.put (p : Place) (f : Fields) (name : String) (_key value : Place) :
    Except DecodeError Fields :=
  match name with
  | "device" => return { f with device := ← p.once name f.device (decodeDevice value) }
  | "read_timeout_ms" =>
    return { f with readTimeoutMillis := ← p.once name f.readTimeoutMillis value.word64 }
  | "poll_interval" => return { f with pollInterval := ← p.once name f.pollInterval value.float }
  | "logging" => return { f with logLevel := ← p.once name f.logLevel (decodeLogging value) }
  | _ => return f

/-- The settings with the default for everything that was not read. -/
def Fields.finish (f : Fields) : Settings where
  device := f.device.getD stock.device
  readTimeoutMillis := f.readTimeoutMillis.getD stock.readTimeoutMillis
  pollInterval := f.pollInterval.getD stock.pollInterval
  logLevel := f.logLevel.getD stock.logLevel

/-- The settings that a document gives. -/
def ofDocument (d : Document) : Except DecodeError Settings := do
  let p : Place := ⟨d, [], d.root⟩
  let entries ← p.entries "struct Config"
  return (← p.foldEntries (Fields.put p) entries {}).finish

end Settings

/-! ## Loading settings

Settings come from a configuration file or, without one, are the stock settings. -/

namespace Settings

/-- Why settings could not be loaded. -/
inductive LoadError where
  /-- The file cannot be read. -/
  | unreadable (path cause : String)
  /-- The text is not one document. -/
  | malformed (e : Yaml.SyntaxError)
  /-- The document does not give settings. -/
  | unsuitable (e : DecodeError)
deriving DecidableEq

/-- The text of a loading error. -/
def LoadError.message : LoadError → String
  | .unreadable path cause =>
    "Failed to read config file: " ++ Text.quoted path ++ ": " ++ cause
  | .malformed e => "Failed to parse YAML config: " ++ e.message
  | .unsuitable e => "Failed to parse YAML config: " ++ e.message

/-- What is wrong with a file that is no text. -/
def notText : String := "stream did not contain valid UTF-8"

/-- The settings in a text. -/
def ofText (text : String) : Except LoadError Settings :=
  match Yaml.Document.ofText text with
  | .error e => .error (.malformed e)
  | .ok document => (ofDocument document).mapError .unsuitable

/-- The settings in a file, given its content or why it cannot be read. -/
def ofFile (path : String) (content : Except String ByteArray) : Except LoadError Settings :=
  match content with
  | .error cause => .error (.unreadable path cause)
  | .ok bytes =>
    match String.fromUTF8? bytes with
    | none => .error (.unreadable path notText)
    | some text => ofText text

/-- The settings in a file if one is given, and else the stock settings. -/
def load (read : String → Except String ByteArray) : Option String → Except LoadError Settings
  | none => .ok stock
  | some path => ofFile path (read path)

end Settings

end BatteryWatch
