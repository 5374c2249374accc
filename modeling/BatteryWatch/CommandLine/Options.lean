import BatteryWatch.Decimal
import BatteryWatch.Message

/-!
# Command line options

What the command line can ask for, how its values are written, and the text that explains it.
-/

namespace BatteryWatch.CommandLine

/-! ## Options

The options of the program: their names, the values they take and what they ask for. An integer may
have a plus sign, and a minus sign where negative numbers can be written. -/

/-- What the command line asks for. -/
structure Options where
  configFile : Option String := none
  verbose : Bool := false
  json : Bool := false
  /-- The number of polls; zero means without end. -/
  count : UInt64 := 1
  interval : Option Binary64 := none
  startCharging : Bool := false
  stopCharging : Bool := false
  usbScreenPower : Bool := false
  batteryScreenPower : Bool := false
  chargeVoltage : UInt16 := 0
  stopForceCharge : Bool := false
deriving DecidableEq

/-- The battery status request that the command line asks for. -/
def Options.firstRequest (o : Options) : BatteryRequest :=
  BatteryRequest.plain
    |>.adjust (.startCharging o.startCharging)
    |>.adjust (.stopCharging o.stopCharging)
    |>.adjust (.usbScreenPower o.usbScreenPower)
    |>.adjust (.batteryScreenPower o.batteryScreenPower)
    |>.adjust (.chargeVoltage o.chargeVoltage)
    |>.adjust (.stopForceCharge o.stopForceCharge)

/-- The request that the command line asks for has the values of its options: every value goes to
the part that it is for. -/
theorem Options.firstRequest_eq (o : Options) :
    o.firstRequest =
      { startCharging := o.startCharging
        stopCharging := o.stopCharging
        usbScreenPower := o.usbScreenPower
        batteryScreenPower := o.batteryScreenPower
        chargeVoltage := o.chargeVoltage
        stopForceCharge := o.stopForceCharge } := rfl

/-- An option without a value. -/
inductive Flag where
  | verbose
  | json
  | startCharging
  | stopCharging
  | usbScreenPower
  | batteryScreenPower
  | stopForceCharge
deriving DecidableEq

/-- An option with a value. -/
inductive Setting where
  | config
  | count
  | interval
  | forceChargeVoltage
deriving DecidableEq

/-- Any option. -/
inductive OptionName where
  | flag (f : Flag)
  | setting (s : Setting)
  | help
  | version
deriving DecidableEq

/-- The name of a flag behind two dashes. -/
def Flag.long : Flag → String
  | .verbose => "verbose"
  | .json => "json"
  | .startCharging => "start-charging"
  | .stopCharging => "stop-charging"
  | .usbScreenPower => "usb-screen-power"
  | .batteryScreenPower => "battery-screen-power"
  | .stopForceCharge => "stop-force-charge"

/-- The name of an option with a value behind two dashes. -/
def Setting.long : Setting → String
  | .config => "config"
  | .count => "count"
  | .interval => "interval"
  | .forceChargeVoltage => "force-charge-voltage"

/-- What stands for the value of an option. -/
def Setting.placeholder : Setting → String
  | .config => "CONFIG"
  | .count => "COUNT"
  | .interval => "INTERVAL"
  | .forceChargeVoltage => "FORCE_CHARGE_VOLTAGE"

/-- The name of an option behind two dashes. -/
def OptionName.long : OptionName → String
  | .flag f => f.long
  | .setting s => s.long
  | .help => "help"
  | .version => "version"

/-- The letter of an option behind one dash, if it has one. -/
def OptionName.short? : OptionName → Option Char
  | .flag .verbose => some 'v'
  | .setting .config => some 'c'
  | .setting .count => some 'n'
  | .setting .interval => some 'i'
  | .help => some 'h'
  | .version => some 'V'
  | _ => none

/-- All options. -/
def OptionName.all : List OptionName :=
  [.setting .config, .flag .verbose, .flag .json, .setting .count, .setting .interval,
    .flag .startCharging, .flag .stopCharging, .flag .usbScreenPower, .flag .batteryScreenPower,
    .setting .forceChargeVoltage, .flag .stopForceCharge, .help, .version]

/-- The option with a name behind two dashes. -/
def OptionName.ofLong? (name : String) : Option OptionName := all.find? (·.long == name)

/-- The option with a letter behind one dash. -/
def OptionName.ofShort? (letter : Char) : Option OptionName := all.find? (·.short? == some letter)

/-- An option as messages show it. -/
def OptionName.display : OptionName → String
  | .setting s => "--" ++ s.long ++ " <" ++ s.placeholder ++ ">"
  | o => "--" ++ o.long

/-- What is wrong with an integer. -/
inductive IntegerError where
  | empty
  | invalidDigit
  | tooLarge
  | tooSmall
deriving DecidableEq

/-- The text of an integer error. -/
def IntegerError.message : IntegerError → String
  | .empty => "cannot parse integer from empty string"
  | .invalidDigit => "invalid digit found in string"
  | .tooLarge => "number too large to fit in target type"
  | .tooSmall => "number too small to fit in target type"

/-- Reads digits after those that make `n`; the first that is no digit or makes the number too large
ends reading. -/
def boundedDigits (limit : Nat) (tooFar : IntegerError) (n : Nat) :
    List Char → Except IntegerError Nat
  | [] => .ok n
  | c :: rest =>
    match Decimal.digitValue? 10 c with
    | none => .error .invalidDigit
    | some d =>
      if 10 * n + d ≤ limit then boundedDigits limit tooFar (10 * n + d) rest else .error tooFar

/-- The digits of a number that must not be too large; there must be at least one. -/
def boundedNatural (limit : Nat) (tooFar : IntegerError) (digits : List Char) :
    Except IntegerError Nat :=
  if digits.isEmpty then .error .invalidDigit else boundedDigits limit tooFar 0 digits

/-- A natural number below `2 ^ 64`. -/
def natural64 (text : List Char) : Except IntegerError Nat :=
  match text with
  | [] => .error .empty
  | '+' :: digits => boundedNatural 0xFFFFFFFFFFFFFFFF .tooLarge digits
  | digits => boundedNatural 0xFFFFFFFFFFFFFFFF .tooLarge digits

/-- An integer of sixty-four bits. -/
def integer64 (text : List Char) : Except IntegerError Int :=
  match text with
  | [] => .error .empty
  | '-' :: digits => (boundedNatural 0x8000000000000000 .tooSmall digits).map fun n => -Int.ofNat n
  | '+' :: digits => (boundedNatural 0x7FFFFFFFFFFFFFFF .tooLarge digits).map Int.ofNat
  | digits => (boundedNatural 0x7FFFFFFFFFFFFFFF .tooLarge digits).map Int.ofNat

/-- A charge voltage, or why a text is none. -/
def voltage (text : List Char) : Except String UInt16 :=
  match integer64 text with
  | .error e => .error e.message
  | .ok n =>
    if 0 ≤ n ∧ n ≤ 65535 then .ok (UInt16.ofNat n.toNat)
    else .error (toString n ++ " is not in 0..=65535")

/-- A floating point number, or why a text is none. -/
def float (text : List Char) : Except String Binary64 :=
  match Decimal.float? text with
  | some x => .ok x
  | none =>
    .error <|
      if text.isEmpty then "cannot parse float from empty string" else "invalid float literal"

/-- The options with a flag set. -/
def Options.setFlag (o : Options) : Flag → Options
  | .verbose => { o with verbose := true }
  | .json => { o with json := true }
  | .startCharging => { o with startCharging := true }
  | .stopCharging => { o with stopCharging := true }
  | .usbScreenPower => { o with usbScreenPower := true }
  | .batteryScreenPower => { o with batteryScreenPower := true }
  | .stopForceCharge => { o with stopForceCharge := true }

/-- The options with the value of an option set, or why the text is no value for it. -/
def Options.setValue (o : Options) (setting : Setting) (text : String) : Except String Options :=
  match setting with
  | .config => .ok { o with configFile := some text }
  | .count =>
    match natural64 text.toList with
    | .ok n => .ok { o with count := UInt64.ofNat n }
    | .error e => .error e.message
  | .interval => (float text.toList).map fun x => { o with interval := some x }
  | .forceChargeVoltage => (voltage text.toList).map fun v => { o with chargeVoltage := v }

/-! ## Help

The name and version of the program and the text that explains its options. -/

/-- The name and the version of the program. -/
def versionText : String := "mooltipass-battery 0.1.0"

/-- The lines that explain the program and its options. -/
def helpLines : List String := [
  "Battery diagnostics for Mooltipass devices",
  "",
  "Usage: mooltipass-battery [OPTIONS]",
  "",
  "Options:",
  "  -c, --config <CONFIG>",
  "          YAML configuration file",
  "  -v, --verbose",
  "          Debug logging and device details on connect",
  "      --json",
  "          Print one JSON object per poll",
  "  -n, --count <COUNT>",
  "          Number of polls, 0 polls forever [default: 1]",
  "  -i, --interval <INTERVAL>",
  "          Seconds between polls, overrides the config file",
  "      --start-charging",
  "          ",
  "      --stop-charging",
  "          ",
  "      --usb-screen-power",
  "          Power the screen from USB",
  "      --battery-screen-power",
  "          Power the screen from the battery",
  "      --force-charge-voltage <FORCE_CHARGE_VOLTAGE>",
  "          Force the charge voltage (raw DAC units) [default: 0]",
  "      --stop-force-charge",
  "          ",
  "  -h, --help",
  "          Print help",
  "  -V, --version",
  "          Print version"]

end BatteryWatch.CommandLine
