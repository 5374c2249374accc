import BatteryWatch.CommandLine.Options
import BatteryWatch.Text.Terminal

/-!
# Reading the command line

Arguments are read from left to right. An option without a value, or with a value in the same
argument, takes effect at once; a value in an argument of its own takes effect only when the next
option does, or at the end. The first fault that takes effect ends reading, and so does a question
for help or the version.
-/

namespace BatteryWatch.CommandLine

/-- What is wrong with a command line. -/
inductive UsageError where
  | unexpectedArgument (argument : String)
  | unexpectedValue (value : String) (name : OptionName)
  | missingValue (setting : Setting)
  | repeated (name : OptionName)
  | invalidValue (value : String) (setting : Setting) (reason : String)
deriving DecidableEq

/-- The text of a usage error; what terminals take as commands is left out of arguments. -/
def UsageError.message : UsageError → String
  | .unexpectedArgument argument =>
    "unexpected argument '" ++ Text.visible argument ++ "' found"
  | .unexpectedValue value name =>
    "unexpected value '" ++ Text.visible value ++ "' for '" ++ name.display ++
      "' found; no more were expected"
  | .missingValue setting =>
    "a value is required for '" ++ (OptionName.setting setting).display ++
      "' but none was supplied"
  | .repeated name => "the argument '" ++ name.display ++ "' cannot be used multiple times"
  | .invalidValue value setting reason =>
    "invalid value '" ++ Text.visible value ++ "' for '" ++ (OptionName.setting setting).display ++
      "': " ++ reason

/-- Why reading the command line ends before its end. -/
inductive Stop where
  | help
  | version
  | error (e : UsageError)
deriving DecidableEq

/-- How far the command line has been read. -/
structure Progress where
  options : Options
  /-- The options that have taken effect. -/
  given : List OptionName
  /-- An option that has not taken effect yet, with the value that it waits for. -/
  pending : Option (Setting × Option String)

namespace Progress

/-- The state before the first argument. -/
def start : Progress := ⟨{}, [], none⟩

/-- Lets an option with a value take effect. -/
def apply (p : Progress) (setting : Setting) (value : Option String) : Except Stop Progress :=
  match value with
  | none => .error (.error (.missingValue setting))
  | some text =>
    if p.given.contains (.setting setting) then .error (.error (.repeated (.setting setting)))
    else if setting = .config ∧ text = "" then .error (.error (.missingValue setting))
    else
      match p.options.setValue setting text with
      | .error reason => .error (.error (.invalidValue text setting reason))
      | .ok options => .ok { p with options, given := .setting setting :: p.given }

/-- Lets the pending option take effect, if there is one. -/
def resolve (p : Progress) : Except Stop Progress :=
  match p.pending with
  | none => .ok p
  | some (setting, value) => { p with pending := none }.apply setting value

/-- Lets a flag take effect. -/
def applyFlag (p : Progress) (flag : Flag) : Except Stop Progress := do
  let p ← p.resolve
  if p.given.contains (.flag flag) then .error (.error (.repeated (.flag flag)))
  else .ok { p with options := p.options.setFlag flag, given := .flag flag :: p.given }

/-- Lets an option without a value take effect. -/
def applyBare (p : Progress) (name : OptionName) : Except Stop Progress := do
  match name with
  | .flag flag => p.applyFlag flag
  | .help =>
    let _ ← p.resolve
    .error .help
  | .version =>
    let _ ← p.resolve
    .error .version
  | .setting setting => return { ← p.resolve with pending := some (setting, none) }

/-- Reads an option with a value, which may be in the same argument. -/
def takeSetting (p : Progress) (setting : Setting) (attached : Option String) :
    Except Stop Progress := do
  match attached with
  | some value => (← p.resolve).apply setting (some value)
  | none => p.applyBare (.setting setting)

/-- Reads an argument that starts with two dashes, given without them. -/
def takeLong (p : Progress) (argument : List Char) : Except Stop Progress :=
  let name := String.ofList (argument.takeWhile (· != '='))
  let attached := match argument.dropWhile (· != '=') with
    | [] => none
    | _ :: value => some (String.ofList value)
  match OptionName.ofLong? name, attached with
  | none, _ => .error (.error (.unexpectedArgument ("--" ++ name)))
  | some (.setting setting), value => p.takeSetting setting value
  | some name, some value => .error (.error (.unexpectedValue value name))
  | some name, none => p.applyBare name

/-- Reads the letters of an argument that starts with one dash. -/
def takeShort : List Char → Progress → Except Stop Progress
  | [], p => .ok p
  | letter :: rest, p =>
    match OptionName.ofShort? letter with
    | none => .error (.error (.unexpectedArgument ("-" ++ String.singleton letter)))
    | some (.setting setting) =>
      p.takeSetting setting <|
        match rest with
        | [] => none
        | '=' :: value => some (String.ofList value)
        | value => some (String.ofList value)
    | some name => do takeShort rest (← p.applyBare name)

/-- Reads an argument that is no option: the value that an option waits for, or one too many. -/
def takeValue (p : Progress) (argument : String) : Except Stop Progress :=
  match p.pending with
  | some (setting, none) => .ok { p with pending := some (setting, some argument) }
  | _ => .error (.error (.unexpectedArgument argument))

/-- Reads one argument. -/
def take (p : Progress) (argument : String) : Except Stop Progress :=
  match argument.toList with
  | '-' :: '-' :: rest => p.takeLong rest
  | '-' :: letter :: rest => takeShort (letter :: rest) p
  | _ => p.takeValue argument

/-- Reads all arguments; nothing may follow two dashes. -/
def takeAll : List String → Progress → Except Stop Progress
  | [], p => p.resolve
  | argument :: rest, p =>
    if argument = "--" then
      match rest with
      | [] => p.resolve
      | extra :: _ => .error (.error (.unexpectedArgument extra))
    else do takeAll rest (← p.take argument)

end Progress

/-- The options that arguments give. -/
def parse (arguments : List String) : Except Stop Options :=
  (Progress.takeAll arguments .start).map (·.options)

end BatteryWatch.CommandLine
