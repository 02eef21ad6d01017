import Mathlib.Algebra.Order.Ring.Rat
import SwaylockPlugin.Construction.Images
import SwaylockPlugin.Construction.Listener
import SwaylockPlugin.Construction.Scene
import SwaylockPlugin.Library.Binary32
import SwaylockPlugin.Library.Getopt
import SwaylockPlugin.Library.Hexadecimal
import SwaylockPlugin.Library.Words

namespace SwaylockPlugin.ParseColor

open Library Listener

/-- One number sign at the begin of a color is left out. -/
def dropHash : List UInt8 → List UInt8
  | 35 :: rest => rest
  | color => color

/-- The bits of an `unsigned long`. -/
def longBits (model : DataModel) : ℕ := 8 * model.pointerSize

/-- This is `parse_color`, where a string is the list of its bytes before the null byte. -/
def parseColor (model : DataModel) (color : List UInt8) : ℕ :=
  let color := dropHash color
  -- the length is stored in an `int`
  let len := wrap32 color.length
  if len ≠ 6 ∧ len ≠ 8 then 0xFFFFFFFF
  else
    let res := strtoul16 (longBits model) color % 2 ^ 32
    if color.length = 6 then res <<< 8 % 2 ^ 32 ||| 0xFF else res

end SwaylockPlugin.ParseColor

namespace SwaylockPlugin.Options

open Library Images Listener ParseColor

/-- The colors of a part of the indicator belong to these states. -/
inductive ColorPart where
  | input
  | cleared
  | capsLock
  | verifying
  | wrong
  deriving DecidableEq

structure SwaylockColorset where
  input : UInt32
  cleared : UInt32
  capsLock : UInt32
  verifying : UInt32
  wrong : UInt32
  deriving DecidableEq

/-- One color of a color set is set. -/
def SwaylockColorset.set (colors : SwaylockColorset) (value : UInt32) : ColorPart → SwaylockColorset
  | .input => { colors with input := value }
  | .cleared => { colors with cleared := value }
  | .capsLock => { colors with capsLock := value }
  | .verifying => { colors with verifying := value }
  | .wrong => { colors with wrong := value }

/-- One color of a color set is read. -/
def SwaylockColorset.get (colors : SwaylockColorset) : ColorPart → UInt32
  | .input => colors.input
  | .cleared => colors.cleared
  | .capsLock => colors.capsLock
  | .verifying => colors.verifying
  | .wrong => colors.wrong

/-- A color option sets one of these colors. -/
inductive ColorField where
  | background
  | bsHighlight
  | keyHighlight
  | capsLockBsHighlight
  | capsLockKeyHighlight
  | separator
  | layoutBackground
  | layoutBorder
  | layoutText
  | inside (part : ColorPart)
  | line (part : ColorPart)
  | ring (part : ColorPart)
  | text (part : ColorPart)
  deriving DecidableEq

structure SwaylockColors where
  background : UInt32
  bsHighlight : UInt32
  keyHighlight : UInt32
  capsLockBsHighlight : UInt32
  capsLockKeyHighlight : UInt32
  separator : UInt32
  layoutBackground : UInt32
  layoutBorder : UInt32
  layoutText : UInt32
  inside : SwaylockColorset
  line : SwaylockColorset
  ring : SwaylockColorset
  text : SwaylockColorset
  deriving DecidableEq

/-- One color is set. -/
def SwaylockColors.set (colors : SwaylockColors) (value : UInt32) : ColorField → SwaylockColors
  | .background => { colors with background := value }
  | .bsHighlight => { colors with bsHighlight := value }
  | .keyHighlight => { colors with keyHighlight := value }
  | .capsLockBsHighlight => { colors with capsLockBsHighlight := value }
  | .capsLockKeyHighlight => { colors with capsLockKeyHighlight := value }
  | .separator => { colors with separator := value }
  | .layoutBackground => { colors with layoutBackground := value }
  | .layoutBorder => { colors with layoutBorder := value }
  | .layoutText => { colors with layoutText := value }
  | .inside part => { colors with inside := colors.inside.set value part }
  | .line part => { colors with line := colors.line.set value part }
  | .ring part => { colors with ring := colors.ring.set value part }
  | .text part => { colors with text := colors.text.set value part }

/-- One color is read. -/
def SwaylockColors.get (colors : SwaylockColors) : ColorField → UInt32
  | .background => colors.background
  | .bsHighlight => colors.bsHighlight
  | .keyHighlight => colors.keyHighlight
  | .capsLockBsHighlight => colors.capsLockBsHighlight
  | .capsLockKeyHighlight => colors.capsLockKeyHighlight
  | .separator => colors.separator
  | .layoutBackground => colors.layoutBackground
  | .layoutBorder => colors.layoutBorder
  | .layoutText => colors.layoutText
  | .inside part => colors.inside.get part
  | .line part => colors.line.get part
  | .ring part => colors.ring.get part
  | .text part => colors.text.get part

/-- These colors are set by `set_default_colors`. -/
def setDefaultColors : SwaylockColors where
  background := 0xA3A3A3FF
  bsHighlight := 0xDB3300FF
  keyHighlight := 0x33DB00FF
  capsLockBsHighlight := 0xDB3300FF
  capsLockKeyHighlight := 0x33DB00FF
  separator := 0x000000FF
  layoutBackground := 0x000000C0
  layoutBorder := 0x00000000
  layoutText := 0xFFFFFFFF
  inside := ⟨0x000000C0, 0xE5A445C0, 0x000000C0, 0x0072FFC0, 0xFA0000C0⟩
  line := ⟨0x000000FF, 0x000000FF, 0x000000FF, 0x000000FF, 0x000000FF⟩
  ring := ⟨0x337D00FF, 0xE5A445FF, 0xE5A445FF, 0x3300FFFF, 0x7D3300FF⟩
  text := ⟨0xE5A445FF, 0x000000FF, 0xE5A445FF, 0x000000FF, 0x000000FF⟩

/-- This is the `swaylock_args` structure, whose floating-point numbers are kept by their values. -/
structure SwaylockArgs where
  colors : SwaylockColors
  mode : BackgroundMode
  font : CString
  fontSize : UInt32
  radius : UInt32
  thickness : UInt32
  indicatorXPosition : UInt32
  indicatorYPosition : UInt32
  overrideIndicatorXPosition : Bool
  overrideIndicatorYPosition : Bool
  ignoreEmpty : Bool
  showIndicator : Bool
  showCapsLockText : Bool
  showCapsLockIndicator : Bool
  showKeyboardLayout : Bool
  hideKeyboardLayout : Bool
  showFailedAttempts : Bool
  daemonize : Bool
  readyFd : Int
  indicatorIdleVisible : Bool
  pluginCommand : Option CString
  pluginPerOutput : Bool
  pauseWhenHidden : Bool
  hiddenTimeoutMs : Int
  graceTime : Rat
  gracePointerHysteresis : Rat
  deriving DecidableEq

/-- The `main` function starts with these options. -/
def SwaylockArgs.initial : SwaylockArgs where
  colors := setDefaultColors
  mode := .fill
  font := ascii "sans-serif"
  fontSize := 0
  radius := 50
  thickness := 10
  indicatorXPosition := 0
  indicatorYPosition := 0
  overrideIndicatorXPosition := false
  overrideIndicatorYPosition := false
  ignoreEmpty := false
  showIndicator := true
  showCapsLockText := true
  showCapsLockIndicator := false
  showKeyboardLayout := false
  hideKeyboardLayout := false
  showFailedAttempts := false
  daemonize := false
  readyFd := -1
  indicatorIdleVisible := false
  pluginCommand := none
  pluginPerOutput := false
  pauseWhenHidden := false
  hiddenTimeoutMs := 5000
  graceTime := 0
  gracePointerHysteresis := 10

/-- The session reads these of the options. -/
def SwaylockArgs.program (args : SwaylockArgs) : SwaylockPlugin.SwaylockArgs where
  ignoreEmpty := args.ignoreEmpty
  daemonize := args.daemonize
  readyFd := args.readyFd
  pluginPerOutput := args.pluginPerOutput
  pauseWhenHidden := args.pauseWhenHidden
  hiddenTimeoutMs := args.hiddenTimeoutMs
  graceTime := args.graceTime
  gracePointerHysteresis := args.gracePointerHysteresis

/-- These are the values of `line_mode`. -/
inductive LineMode where
  | line
  | inside
  | ring
  deriving DecidableEq

/-- These are the values of `log_importance` before its last one. -/
inductive LogImportance where
  | silent
  | error
  | info
  | debug
  deriving DecidableEq

/-- The cases of `parse_options` are its letters and its `long_option_codes`, and a color option has its color. -/
inductive OptionCode where
  | config
  | debug
  | ignoreEmptyPassword
  | daemonize
  | readyFd
  | help
  | image
  | disableCapsLockText
  | indicatorCapsLock
  | lineUsesInside
  | lineUsesRing
  | scaling
  | tiling
  | noUnlockIndicator
  | showKeyboardLayout
  | hideKeyboardLayout
  | showFailedAttempts
  | version
  | font
  | fontSize
  | indicatorIdleVisible
  | indicatorRadius
  | indicatorThickness
  | indicatorXPosition
  | indicatorYPosition
  | grace
  | pauseWhenHidden
  | pauseWhenHiddenDelay
  | pointerHysteresis
  | command
  | commandEach
  | color (field : ColorField)
  deriving DecidableEq

/-- An option that needs an argument stands in the table with its name. -/
def requiredArgument (name : String) (code : OptionCode) : LongOption OptionCode := ⟨ascii name, true, code⟩

/-- An option without an argument stands in the table with its name. -/
def noArgument (name : String) (code : OptionCode) : LongOption OptionCode := ⟨ascii name, false, code⟩

/-- This is the `long_options` table of `parse_options`. -/
def longOptions : List (LongOption OptionCode) := [
  requiredArgument "config" .config,
  requiredArgument "color" (.color .background),
  noArgument "debug" .debug,
  noArgument "ignore-empty-password" .ignoreEmptyPassword,
  noArgument "daemonize" .daemonize,
  requiredArgument "ready-fd" .readyFd,
  noArgument "help" .help,
  requiredArgument "image" .image,
  noArgument "disable-caps-lock-text" .disableCapsLockText,
  noArgument "indicator-caps-lock" .indicatorCapsLock,
  noArgument "line-uses-inside" .lineUsesInside,
  noArgument "line-uses-ring" .lineUsesRing,
  requiredArgument "scaling" .scaling,
  noArgument "tiling" .tiling,
  noArgument "no-unlock-indicator" .noUnlockIndicator,
  noArgument "show-keyboard-layout" .showKeyboardLayout,
  noArgument "hide-keyboard-layout" .hideKeyboardLayout,
  noArgument "show-failed-attempts" .showFailedAttempts,
  noArgument "version" .version,
  requiredArgument "bs-hl-color" (.color .bsHighlight),
  requiredArgument "caps-lock-bs-hl-color" (.color .capsLockBsHighlight),
  requiredArgument "caps-lock-key-hl-color" (.color .capsLockKeyHighlight),
  requiredArgument "font" .font,
  requiredArgument "font-size" .fontSize,
  noArgument "indicator-idle-visible" .indicatorIdleVisible,
  requiredArgument "indicator-radius" .indicatorRadius,
  requiredArgument "indicator-thickness" .indicatorThickness,
  requiredArgument "indicator-x-position" .indicatorXPosition,
  requiredArgument "indicator-y-position" .indicatorYPosition,
  requiredArgument "inside-color" (.color (.inside .input)),
  requiredArgument "inside-clear-color" (.color (.inside .cleared)),
  requiredArgument "inside-caps-lock-color" (.color (.inside .capsLock)),
  requiredArgument "inside-ver-color" (.color (.inside .verifying)),
  requiredArgument "inside-wrong-color" (.color (.inside .wrong)),
  requiredArgument "key-hl-color" (.color .keyHighlight),
  requiredArgument "layout-bg-color" (.color .layoutBackground),
  requiredArgument "layout-border-color" (.color .layoutBorder),
  requiredArgument "layout-text-color" (.color .layoutText),
  requiredArgument "line-color" (.color (.line .input)),
  requiredArgument "line-clear-color" (.color (.line .cleared)),
  requiredArgument "line-caps-lock-color" (.color (.line .capsLock)),
  requiredArgument "line-ver-color" (.color (.line .verifying)),
  requiredArgument "line-wrong-color" (.color (.line .wrong)),
  requiredArgument "ring-color" (.color (.ring .input)),
  requiredArgument "ring-clear-color" (.color (.ring .cleared)),
  requiredArgument "ring-caps-lock-color" (.color (.ring .capsLock)),
  requiredArgument "ring-ver-color" (.color (.ring .verifying)),
  requiredArgument "ring-wrong-color" (.color (.ring .wrong)),
  requiredArgument "separator-color" (.color .separator),
  requiredArgument "text-color" (.color (.text .input)),
  requiredArgument "text-clear-color" (.color (.text .cleared)),
  requiredArgument "text-caps-lock-color" (.color (.text .capsLock)),
  requiredArgument "text-ver-color" (.color (.text .verifying)),
  requiredArgument "text-wrong-color" (.color (.text .wrong)),
  requiredArgument "grace" .grace,
  noArgument "pause-when-hidden" .pauseWhenHidden,
  requiredArgument "pause-when-hidden-delay" .pauseWhenHiddenDelay,
  requiredArgument "pointer-hysteresis" .pointerHysteresis,
  requiredArgument "command" .command,
  requiredArgument "command-each" .commandEach]

/-- These are the letters of the option string `c:deFfhi:kKLlnrs:tuvC:R:` with their codes. -/
def shortOptions : List (ShortOption OptionCode) := [
  ⟨99, true, .color .background⟩,
  ⟨100, false, .debug⟩,
  ⟨101, false, .ignoreEmptyPassword⟩,
  ⟨70, false, .showFailedAttempts⟩,
  ⟨102, false, .daemonize⟩,
  ⟨104, false, .help⟩,
  ⟨105, true, .image⟩,
  ⟨107, false, .showKeyboardLayout⟩,
  ⟨75, false, .hideKeyboardLayout⟩,
  ⟨76, false, .disableCapsLockText⟩,
  ⟨108, false, .indicatorCapsLock⟩,
  ⟨110, false, .lineUsesInside⟩,
  ⟨114, false, .lineUsesRing⟩,
  ⟨115, true, .scaling⟩,
  ⟨116, false, .tiling⟩,
  ⟨117, false, .noUnlockIndicator⟩,
  ⟨118, false, .version⟩,
  ⟨67, true, .config⟩,
  ⟨82, true, .readyFd⟩]

/-- The options of the program have letters and names. -/
def optionTable : OptionTable OptionCode := ⟨shortOptions, longOptions⟩

/-- A decimal digit is a byte from 0 to 9. -/
def isDecimal (byte : UInt8) : Bool := 48 ≤ byte && byte ≤ 57

/-- An octal digit is a byte from 0 to 7. -/
def isOctal (byte : UInt8) : Bool := 48 ≤ byte && byte ≤ 55

/-- The base of a numeral is ten, or for the base zero its prefix gives it, and its digits end where others follow. -/
def numeral (base : ℕ) (text : List UInt8) : ℕ × List UInt8 × List UInt8 :=
  if base = 0 ∧ dropHexPrefix text ≠ text then (16, (dropHexPrefix text).span isHexDigit)
  else if base = 0 ∧ text.head? = some 48 then (8, text.span isOctal)
  else (10, text.span isDecimal)

/-- This is the `strtol` function with base ten or zero for words of some bits. A value that does not fit gives the
closest one that does, and without digits nothing of the text is read. -/
def strtol (bits base : ℕ) (text : List UInt8) : Int × List UInt8 :=
  let signed := takeSign (text.dropWhile isBlank)
  let (radix, digits, rest) := numeral base signed.2
  let value : Int := digits.foldl (fun value digit => value * radix + hexDigitValue digit) 0
  if digits.isEmpty then (0, text)
  else (if signed.1 then max (-value) (-2 ^ (bits - 1)) else min value (2 ^ (bits - 1) - 1), rest)

/-- This is the `atoi` function, which keeps the low bits of a `long`. -/
def atoi (bits : ℕ) (text : List UInt8) : Int := wrap32 (strtol bits 10 text).1

/-- A `uint32_t` keeps the low bits of what is stored in it. -/
def storeUInt32 (value : Int) : UInt32 := UInt32.ofNat (value % 2 ^ 32).toNat

def parseBackgroundMode (mode : CString) : BackgroundMode :=
  if strcmp mode (ascii "stretch") = 0 then .stretch
  else if strcmp mode (ascii "fill") = 0 then .fill
  else if strcmp mode (ascii "fit") = 0 then .fit
  else if strcmp mode (ascii "center") = 0 then .center
  else if strcmp mode (ascii "tile") = 0 then .tile
  else if strcmp mode (ascii "solid_color") = 0 then .solidColor
  else .invalid

/-- The program runs with a data model, with files and an environment, and with a `strtof` function for finite numbers. -/
structure System (Surface : Type) where
  model : DataModel
  files : FileSystem Surface
  strtof : CString → Rat × CString
  readFile : CString → Option CString
  fileExists : CString → Bool
  xdgConfigHome : Option CString
  sysconfdir : CString

/-- The options set these parts of the state. -/
structure OptionState (Surface : Type) where
  args : SwaylockArgs
  images : List (SwaylockImage Surface)

/-- A call of `parse_options` changes what its pointers lead to, where they are not null, and the log. -/
structure Destination (Surface : Type) where
  state : Option (OptionState Surface)
  lineMode : Option LineMode
  configPath : Option (Option CString)
  logImportance : LogImportance

/-- The program ends with a status, at a failed assertion, or at a write behind the end of a buffer. -/
inductive OptionHalt where
  | exited (status : ℕ)
  | assertion
  | overflow
  deriving DecidableEq

variable {Surface : Type}

/-- The options of a state that exists are changed. -/
def Destination.setArgs (destination : Destination Surface) (change : SwaylockArgs → SwaylockArgs) :
    Destination Surface :=
  { destination with state := destination.state.map fun state => { state with args := change state.args } }

/-- A grace time is a number of seconds, minutes or hours, of which a product of single precision makes seconds. -/
def graceSeconds (system : System Surface) (optarg : CString) : Option Rat :=
  let (value, unit) := system.strtof optarg
  if unit.isEmpty ∨ strcmp unit (ascii "s") = 0 ∨ strcmp unit (ascii "sec") = 0 then some value
  else if strcmp unit (ascii "m") = 0 ∨ strcmp unit (ascii "min") = 0 then some (roundBinary32 (value * 60))
  else if strcmp unit (ascii "h") = 0 ∨ strcmp unit (ascii "hr") = 0 then some (roundBinary32 (value * 3600))
  else none

/-- A hysteresis is a number with nothing behind it. -/
def hysteresisDistance (system : System Surface) (optarg : CString) : Option Rat :=
  let (value, rest) := system.strtof optarg
  if rest.isEmpty then some value else none

/-- A delay is a positive number of milliseconds of at most an hour with nothing behind it. -/
def pauseDelay (system : System Surface) (optarg : CString) : Option Int :=
  let (value, rest) := strtol (longBits system.model) 10 optarg
  if rest.isEmpty ∧ 0 < value ∧ value ≤ 3600000 then some value else none

/-- An image is loaded into a state that exists. -/
def loadImageInto (system : System Surface) (optarg : CString) (destination : Destination Surface) :
    Except OptionHalt (Destination Surface) :=
  match destination.state with
  | none => return destination
  | some state =>
      match loadImage system.files optarg state.images with
      | .error _ => throw .assertion
      | .ok images => return { destination with state := some { state with images } }

/-- A case of the switch in `parse_options` goes on with the status zero or returns another status. -/
def applyOption (system : System Surface) (code : OptionCode) (optarg : CString) (destination : Destination Surface) :
    Except OptionHalt (ℕ × Destination Surface) :=
  let bits := longBits system.model
  match code with
  | .config => return (0, { destination with configPath := destination.configPath.map fun _ => some optarg })
  | .color field => return (0, destination.setArgs fun args => { args with
      colors := args.colors.set (UInt32.ofNat (parseColor system.model optarg)) field })
  | .debug => return (0, { destination with logImportance := .debug })
  | .ignoreEmptyPassword => return (0, destination.setArgs fun args => { args with ignoreEmpty := true })
  | .showFailedAttempts => return (0, destination.setArgs fun args => { args with showFailedAttempts := true })
  | .daemonize => return (0, destination.setArgs fun args => { args with daemonize := true })
  | .readyFd => return (0, destination.setArgs fun args => { args with
      readyFd := wrap32 (strtol bits 10 optarg).1 })
  | .image => return (0, ← loadImageInto system optarg destination)
  | .showKeyboardLayout => return (0, destination.setArgs fun args => { args with showKeyboardLayout := true })
  | .hideKeyboardLayout => return (0, destination.setArgs fun args => { args with hideKeyboardLayout := true })
  | .disableCapsLockText => return (0, destination.setArgs fun args => { args with showCapsLockText := false })
  | .indicatorCapsLock => return (0, destination.setArgs fun args => { args with showCapsLockIndicator := true })
  | .lineUsesInside => return (0, { destination with lineMode := destination.lineMode.map fun _ => .inside })
  | .lineUsesRing => return (0, { destination with lineMode := destination.lineMode.map fun _ => .ring })
  | .scaling =>
      let mode := parseBackgroundMode optarg
      -- the mode is stored before it is tested
      return (if destination.state.isSome ∧ mode = .invalid then 1 else 0,
        destination.setArgs fun args => { args with mode := mode })
  | .tiling => return (0, destination.setArgs fun args => { args with mode := .tile })
  | .noUnlockIndicator => return (0, destination.setArgs fun args => { args with showIndicator := false })
  | .version => throw (.exited 0)
  | .font => return (0, destination.setArgs fun args => { args with font := optarg })
  | .fontSize => return (0, destination.setArgs fun args => { args with fontSize := storeUInt32 (atoi bits optarg) })
  | .indicatorIdleVisible => return (0, destination.setArgs fun args => { args with indicatorIdleVisible := true })
  | .indicatorRadius => return (0, destination.setArgs fun args => { args with
      radius := storeUInt32 (strtol bits 0 optarg).1 })
  | .indicatorThickness => return (0, destination.setArgs fun args => { args with
      thickness := storeUInt32 (strtol bits 0 optarg).1 })
  | .indicatorXPosition => return (0, destination.setArgs fun args => { args with
      overrideIndicatorXPosition := true
      indicatorXPosition := storeUInt32 (atoi bits optarg) })
  | .indicatorYPosition => return (0, destination.setArgs fun args => { args with
      overrideIndicatorYPosition := true
      indicatorYPosition := storeUInt32 (atoi bits optarg) })
  | .grace => return (0, destination.setArgs fun args => { args with
      graceTime := (graceSeconds system optarg).getD args.graceTime })
  | .pointerHysteresis => return (0, destination.setArgs fun args => { args with
      gracePointerHysteresis := (hysteresisDistance system optarg).getD args.gracePointerHysteresis })
  | .pauseWhenHidden => return (0, destination.setArgs fun args => { args with pauseWhenHidden := true })
  | .pauseWhenHiddenDelay => return (0, destination.setArgs fun args => { args with
      hiddenTimeoutMs := (pauseDelay system optarg).getD args.hiddenTimeoutMs })
  | .command => return (0, destination.setArgs fun args => { args with
      pluginCommand := some optarg
      pluginPerOutput := false })
  | .commandEach => return (0, destination.setArgs fun args => { args with
      pluginCommand := some optarg
      pluginPerOutput := true })
  | .help => return (1, destination)

/-- The loop of `parse_options` goes on until an argument is no option or an option returns a status. -/
def applyOptions (system : System Surface) :
    List (Found OptionCode) → Destination Surface → Except OptionHalt (ℕ × Destination Surface)
  | [], destination => return (0, destination)
  | .error :: _, destination | .operand _ :: _, destination => return (1, destination)
  | .option code arg :: rest, destination => do
      let (status, destination) ← applyOption system code (arg.getD []) destination
      if status = 0 then applyOptions system rest destination else return (status, destination)

/-- This is the `parse_options` operation for the arguments behind the name of the program, where `getopt_long` keeps
the order of operands from its first call on. -/
def parseOptions (system : System Surface) (order : OperandOrder) (args : List CString)
    (destination : Destination Surface) : Except OptionHalt (ℕ × Destination Surface) :=
  applyOptions system (optionTable.scan order none args) destination

/-- The first call of `parse_options` goes on with what another loop of `getopt_long` left unread. -/
def parseUnread (system : System Surface) (order : OperandOrder) (unread : CString) (args : List CString)
    (destination : Destination Surface) : Except OptionHalt (ℕ × Destination Surface) :=
  applyOptions system (optionTable.resume order unread args) destination

/-- A line ends with a newline or with the file. -/
def splitLines : CString → List CString
  | [] => []
  | byte :: rest =>
      if byte = 10 then [] :: splitLines rest
      else
        match splitLines rest with
        | [] => [[byte]]
        | line :: lines => (byte :: line) :: lines

/-- A line that `getline` reads is a string that ends at its first null byte. -/
def getLines (text : CString) : List CString := (splitLines text).map fun line => line.takeWhile (· != 0)

/-- The loop of `load_config` passes over empty lines and comments and stops at the first line with a status. -/
def loadLines (system : System Surface) (order : OperandOrder) :
    List CString → Destination Surface → Except OptionHalt (ℕ × Destination Surface)
  | [], destination => return (0, destination)
  | line :: lines, destination =>
      if line = [] ∨ line.head? = some 35 then loadLines system order lines destination
      else do
        let (result, destination) ← parseOptions system order [[45, 45] ++ line] destination
        if result = 0 then loadLines system order lines destination else return (result, destination)

/-- This is the `load_config` operation, which returns zero in any case. -/
def loadConfig (system : System Surface) (order : OperandOrder) (path : CString) (destination : Destination Surface) :
    Except OptionHalt (ℕ × Destination Surface) :=
  match system.readFile path with
  | none => return (0, destination)
  | some text => do
      let (_, destination) ← loadLines system order (getLines text) destination
      return (0, destination)

/-- These are the `config_paths` of `get_config_path`. -/
def configPaths (system : System Surface) : List CString := [
  ascii "$HOME/.swaylock/config",
  if system.xdgConfigHome.getD [] = [] then ascii "$HOME/.config/swaylock/config"
  else ascii "$XDG_CONFIG_HOME/swaylock/config",
  system.sysconfdir ++ ascii "/swaylock/config"]

def getConfigPath (system : System Surface) : Option CString :=
  (configPaths system).findSome? fun path =>
    (system.files.wordexp path).bind fun words => words.head?.filter system.fileExists

/-- The lines take over the colors of the inside or of the ring where the line mode says so. -/
def applyLineMode (colors : SwaylockColors) : LineMode → SwaylockColors
  | .line => colors
  | .inside => { colors with line := colors.inside }
  | .ring => { colors with line := colors.ring }

/-- Without a command of its own the program runs the default command, which has to fit its buffer. -/
def choosePluginCommand (state : OptionState Surface) : Except OptionHalt (OptionState Surface) :=
  if state.args.pluginCommand.isSome then return state
  else do
    let command := buildCommand state.args.colors.background state.args.mode state.images
    require .overflow (decide (command.reached ≤ commandSize))
    return { state with args := { state.args with pluginCommand := some command.text } }

/-- The configuration is loaded where there is a file for it. -/
def loadFound (system : System Surface) (order : OperandOrder) (path : Option CString)
    (destination : Destination Surface) : Except OptionHalt (ℕ × Destination Surface) :=
  match path with
  | none => return (0, destination)
  | some path => loadConfig system order path destination

/-- This is the `long_options` table of `log_init` with its one letter. -/
def debugTable : OptionTable OptionCode := ⟨[⟨100, false, .debug⟩], [noArgument "debug" .debug]⟩

/-- The dash in front of the option string of `log_init` gives `getopt_long` this order for all its loops. -/
def mainOrder : OperandOrder := .returnInOrder

/-- This is the `log_init` operation, which returns at the first option and leaves letters behind it unread. -/
def logInit (args : List CString) : LogImportance × CString :=
  match debugTable.leave mainOrder none args with
  | none => (.error, [])
  | some (_, unread) => (.debug, unread)

/-- The `main` function reads the command line for a path, then the configuration, then the command line again. -/
def readOptions (system : System Surface) (args : List CString) : Except OptionHalt (ℕ × Destination Surface) := do
  let (logImportance, unread) := logInit args
  let (result, first) ← parseUnread system mainOrder unread args ⟨none, none, some none, logImportance⟩
  if result ≠ 0 then return (result, first)
  let destination := ⟨some ⟨.initial, []⟩, some .line, none, first.logImportance⟩
  let path := first.configPath.join.or (getConfigPath system)
  let (status, destination) ← loadFound system mainOrder path destination
  if status ≠ 0 then return (status, destination)
  -- without arguments there is nothing to parse
  if args.isEmpty then return (0, destination)
  parseOptions system mainOrder args destination

/-- The `main` function settles the options before it connects to the compositor. -/
def settleOptions (system : System Surface) (args : List CString) :
    Except OptionHalt (ℕ ⊕ OptionState Surface) := do
  let (status, destination) ← readOptions system args
  match status, destination.state with
  | 0, some state =>
      let colors := applyLineMode state.args.colors (destination.lineMode.getD .line)
      let settled ← choosePluginCommand { state with args := { state.args with colors } }
      return .inr settled
  | status, _ => return .inl status

end SwaylockPlugin.Options
