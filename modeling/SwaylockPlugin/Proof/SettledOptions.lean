import SwaylockPlugin.Proof.Configuration

namespace SwaylockPlugin.Options

open Library Images Listener ParseColor

variable {Surface : Type} {system : System Surface} {destination : Destination Surface} {args : List CString}

/-- The options of a scan are settings. -/
def settingsOf (found : List (Found OptionCode)) : List Setting :=
  found.filterMap fun
    | .error | .operand _ => none
    | .option code arg => some (code, arg.getD [])

/-- A setting may choose a configuration file. -/
def Setting.configPath (setting : Setting) : Option (Option CString) :=
  if setting.1 = .config then some (some setting.2) else none

theorem applyOption_first {code : OptionCode} {optarg : CString} (null : destination.state = none)
    (line : destination.lineMode = none) : Ensures (applyOption system code optarg destination) fun result =>
      result.1 = 0 → result.2.state = none ∧ result.2.lineMode = none ∧
        result.2.configPath = destination.configPath.map (Setting.configPath (code, optarg)).getD := by
  have kept : destination.configPath = destination.configPath.map (none : Option (Option CString)).getD := by
    cases destination.configPath <;> rfl
  have unset (change : SwaylockArgs → SwaylockArgs) : (destination.setArgs change).state = none := by
    unfold Destination.setArgs
    rw [null]
    rfl
  cases code with
  | config => exact .pure fun _ => ⟨null, line, by cases destination.configPath <;> rfl⟩
  | debug => exact .pure fun _ => ⟨null, line, kept⟩
  | image =>
      change Ensures (loadImageInto system optarg destination >>= _) _
      unfold loadImageInto
      rw [null]
      exact .pure fun _ => ⟨null, line, kept⟩
  | lineUsesInside | lineUsesRing =>
      refine .pure fun _ => ⟨null, ?_, kept⟩
      dsimp only
      rw [line]
      rfl
  | version => exact .throw
  | help => exact .pure fun _ => ⟨null, line, kept⟩
  | _ => exact .pure fun _ => ⟨unset _, line, kept⟩

theorem applyOptions_first (found : List (Found OptionCode)) (null : destination.state = none)
    (line : destination.lineMode = none) : Ensures (applyOptions system found destination) fun result =>
      result.1 = 0 → result.2.configPath =
        destination.configPath.map (lastAssigned Setting.configPath (settingsOf found)) := by
  have same (path : Option (Option CString)) :
      path = path.map (lastAssigned Setting.configPath []) := by cases path <;> rfl
  induction found generalizing destination with
  | nil => exact .pure fun _ => same _
  | cons first rest ih =>
      cases first with
      | error | operand _ => exact .pure nofun
      | option code arg =>
          refine (applyOption_first null line).bind fun result passed => ?_
          obtain ⟨status, next⟩ := result
          dsimp only
          split
          · rename_i zero
            obtain ⟨null, line, path⟩ := passed zero
            refine (ih null line).weaken fun last known zero => (known zero).trans ?_
            rw [show next.configPath = _ from path, Option.map_map]
            congr 1
            funext path
            exact (lastAssigned_cons (code, arg.getD []) _).symm
          · rename_i stopped
            exact .pure fun zero => absurd zero stopped

/-- The first pass of the command line begins with the letters that `log_init` leaves unread. -/
def firstPass (args : List CString) : List (Found OptionCode) := optionTable.resume mainOrder (logInit args).2 args

theorem firstPass_of_error (quiet : (logInit args).1 = .error) : firstPass args = optionTable.scan mainOrder none args := by
  unfold firstPass
  unfold logInit at quiet ⊢
  cases left : debugTable.leave mainOrder none args with
  | none => rfl
  | some found =>
      rw [left] at quiet
      cases quiet

/-- The configuration file is the one that the first pass finds, or else the first one that exists. -/
def chosenPath (system : System Surface) (args : List CString) : Option CString :=
  (lastAssigned Setting.configPath (settingsOf (firstPass args)) none).or (getConfigPath system)

/-- The settings of the configuration are those of its file, where it can be read. -/
def configSettings (system : System Surface) (args : List CString) : List Setting :=
  match (chosenPath system args).bind system.readFile with
  | none => []
  | some text => heeded (foundIn mainOrder (getLines text))

/-- The settings of the command line are those that are heeded. -/
def commandLineSettings (args : List CString) : List Setting := heeded (optionTable.scan mainOrder none args)

/-- The settings of the command line come after those of the configuration. -/
def allSettings (system : System Surface) (args : List CString) : List Setting :=
  configSettings system args ++ commandLineSettings args

/-- A destination reflects settings from the start. -/
def Destination.Reflects (system : System Surface) (settings : List Setting) (destination : Destination Surface) :
    Prop :=
  ∃ state, destination.state = some state ∧ Options.Reflects system settings ⟨.initial, []⟩ state ∧
    destination.lineMode = some (lastAssigned Setting.lineMode settings .line)

theorem Destination.Reflects.applyOptions {settings : List Setting} (reflects : destination.Reflects system settings)
    (found : List (Found OptionCode)) : Ensures (applyOptions system found destination) fun result =>
      result.2.Reflects system (settings ++ heeded found) := by
  obtain ⟨state, present, known, line⟩ := reflects
  refine (applyOptions_reflects found present).weaken fun result more => ?_
  obtain ⟨last, there, rest, lines⟩ := more
  refine ⟨last, there, known.trans rest, lines.trans ?_⟩
  rw [line, Option.map_some, lastAssigned_append]

/-- What the `main` function reads reflects the configuration and then the command line. -/
theorem readOptions_reflects : Ensures (readOptions system args) fun result =>
    result.1 = 0 → result.2.Reflects system (allSettings system args) := by
  unfold readOptions
  refine (applyOptions_first _ rfl rfl).bind fun result passed => ?_
  obtain ⟨status, first⟩ := result
  dsimp only
  split
  · rename_i failed
    exact .pure fun zero => absurd zero failed
  · rename_i zero
    have path := passed (not_not.mp zero)
    rw [Option.map_some] at path
    have chosen : first.configPath.join.or (getConfigPath system) = chosenPath system args := by
      rw [show first.configPath = _ from path]
      rfl
    have start : (⟨some ⟨.initial, []⟩, some .line, none, first.logImportance⟩ : Destination Surface).Reflects
        system [] := ⟨_, rfl, .refl _, rfl⟩
    have configured : Ensures (loadFound system mainOrder (first.configPath.join.or (getConfigPath system))
        ⟨some ⟨.initial, []⟩, some .line, none, first.logImportance⟩) fun result =>
          result.1 = 0 ∧ result.2.Reflects system (configSettings system args) := by
      rw [chosen]
      unfold configSettings loadFound
      cases found : chosenPath system args with
      | none => exact .pure ⟨rfl, start⟩
      | some path =>
          dsimp only [Option.bind_some]
          unfold loadConfig
          cases read : system.readFile path with
          | none => exact .pure ⟨rfl, start⟩
          | some text =>
              dsimp only
              rw [loadLines_eq]
              exact (start.applyOptions _).bind fun _ loaded => .pure ⟨rfl, loaded⟩
    refine configured.bind fun result loaded => ?_
    obtain ⟨status, destination⟩ := result
    obtain ⟨rfl, loaded⟩ := loaded
    dsimp only
    rw [if_neg (not_not.mpr rfl)]
    unfold allSettings
    split
    · rename_i empty
      have none_ := List.isEmpty_iff.mp empty
      subst none_
      refine .pure fun _ => ?_
      rw [show commandLineSettings [] = [] from rfl, List.append_nil]
      exact loaded
    · exact (loaded.applyOptions _).weaken fun _ reflects _ => reflects

/-- The last setting of a field decides, and the first value is the one that the program starts with. -/
def settledValue (system : System Surface) (settings : List Setting) (field : Field) : field.Value :=
  lastAssigned (fun setting => setting.assigned system field) settings (SwaylockArgs.initial.get field)

/-- The line mode decides from which color set a color of the lines is taken. -/
def lineSource (mode : LineMode) (part : ColorPart) : ColorField :=
  match mode with
  | .line => .line part
  | .inside => .inside part
  | .ring => .ring part

/-- Settings settle a state when each field has its last value, the lines have the colors of their mode, and there is
a command. -/
structure SettledBy (system : System Surface) (settings : List Setting) (state : OptionState Surface) : Prop where
  field : ∀ field, (∀ part, field ≠ .color (.line part)) → field ≠ .pluginCommand →
    state.args.get field = settledValue system settings field
  line : ∀ part, state.args.colors.line.get part =
    settledValue system settings (.color (lineSource (lastAssigned Setting.lineMode settings .line) part))
  images : (settings.filterMap Setting.image).foldlM (fun images arg => loadImage system.files arg images) [] =
    .ok state.images
  command : state.args.pluginCommand = (settledValue system settings .pluginCommand).or
    (some (buildCommand state.args.colors.background state.args.mode state.images).text)

theorem applyLineMode_get (colors : SwaylockColors) (mode : LineMode) (field : ColorField)
    (other : ∀ part, field ≠ .line part) : (applyLineMode colors mode).get field = colors.get field := by
  cases field with
  | line part => exact absurd rfl (other part)
  | _ => cases mode <;> rfl

theorem applyLineMode_line (colors : SwaylockColors) (mode : LineMode) (part : ColorPart) :
    (applyLineMode colors mode).line.get part = colors.get (lineSource mode part) := by cases mode <;> rfl

theorem choosePluginCommand_spec (state : OptionState Surface) : Ensures (choosePluginCommand state) fun chosen =>
    chosen = { state with args := { state.args with
      pluginCommand := state.args.pluginCommand.or
        (some (buildCommand state.args.colors.background state.args.mode state.images).text) } } := by
  unfold choosePluginCommand
  cases command : state.args.pluginCommand with
  | some text =>
      refine .pure ?_
      obtain ⟨args, images⟩ := state
      cases args
      cases command
      rfl
  | none => exact .check fun _ => .pure rfl

/-- In a program that settles its options the last option for each field decides, first in the configuration and then
in the command line. -/
theorem settled_by {state : OptionState Surface} (settled : settleOptions system args = .ok (.inr state)) :
    SettledBy system (allSettings system args) state := by
  obtain ⟨⟨status, destination⟩, read, chosen⟩ := bind_ok.mp settled
  dsimp only at chosen
  split at chosen
  · rename_i before present
    obtain ⟨last, there, reflects, line⟩ := readOptions_reflects _ read rfl
    have same : before = last := Option.some.inj (present.symm.trans there)
    subst same
    change destination.lineMode = _ at line
    rw [line, Option.getD_some] at chosen
    obtain ⟨after, command, returned⟩ := bind_ok.mp chosen
    have equal : after = state := Sum.inr.inj (Except.ok.inj returned)
    subst equal
    have spec := choosePluginCommand_spec _ _ command
    subst spec
    refine ⟨fun field other others => ?_, fun part => ?_, reflects.images, ?_⟩
    · refine Eq.trans ?_ (reflects.field field)
      cases field with
      | color field => exact applyLineMode_get _ _ field fun part same => other part (congrArg Field.color same)
      | pluginCommand => exact absurd rfl others
      | _ => rfl
    · exact (applyLineMode_line _ _ part).trans (reflects.field (.color _))
    · have given : before.args.pluginCommand = settledValue system (allSettings system args) .pluginCommand :=
        reflects.field .pluginCommand
      rw [← given]
  · cases chosen

/-- The delay of a pause is a positive number of milliseconds of at most an hour, whatever the options are. -/
theorem settled_delay {settings : List Setting} {state : OptionState Surface}
    (settled : SettledBy system settings state) :
    0 < state.args.hiddenTimeoutMs ∧ state.args.hiddenTimeoutMs ≤ 3600000 := by
  have value : state.args.hiddenTimeoutMs = settledValue system settings .hiddenTimeoutMs :=
    settled.field .hiddenTimeoutMs (fun _ => nofun) nofun
  rw [value]
  refine @lastAssigned_holds Setting Int _ _ (fun value => 0 < value ∧ value ≤ 3600000) settings ?_ ?_
  · exact (by decide : (0 : Int) < 5000 ∧ (5000 : Int) ≤ 3600000)
  · intro setting _ value assigned
    change (if setting.1 = .pauseWhenHiddenDelay then pauseDelay system setting.2 else none) = some value at assigned
    split at assigned
    · unfold pauseDelay at assigned
      dsimp only at assigned
      split at assigned
      · rename_i fits
        cases assigned
        exact fits.2
      · cases assigned
    · cases assigned

section Overrides

variable {read : CString → Option CString} {one two : OptionState Surface}

/-- A field that an option of the command line sets has the same value whatever the configuration says. -/
theorem command_line_overrides (first : settleOptions system args = .ok (.inr one))
    (second : settleOptions { system with readFile := read } args = .ok (.inr two)) {field : Field}
    (direct : ∀ part, field ≠ .color (.line part)) (other : field ≠ .pluginCommand) {setting : Setting}
    (given : setting ∈ commandLineSettings args) (sets : (setting.assigned system field).isSome = true) :
    one.args.get field = two.args.get field := by
  have before := (settled_by first).field field direct other
  have after := (settled_by second).field field direct other
  have same : (fun setting : Setting => setting.assigned { system with readFile := read } field) =
      fun setting => setting.assigned system field := by
    funext setting
    cases field <;> rfl
  rw [before, after]
  unfold settledValue allSettings
  rw [same, lastAssigned_append, lastAssigned_append]
  exact lastAssigned_override given sets _

end Overrides

section Examples

/-- The leading decimal digits of a text are its number. -/
def readDigits (text : CString) : Rat × CString :=
  (((text.takeWhile isDecimal).foldl (fun value digit => value * 10 + hexDigitValue digit) 0 : ℕ),
    text.dropWhile isDecimal)

/-- A system has the same text in every file and reads no image. -/
def systemWith (text : CString) : System Unit where
  model := .lp64
  files := ⟨fun path => some [path], fun _ => none⟩
  strtof := readDigits
  readFile _ := some text
  fileExists _ := true
  xdgConfigHome := none
  sysconfdir := ascii "/etc"

/-- A configuration has a comment, a color, a font size and a line mode. -/
def sampleText : CString := ascii "# sample\ncolor=00ff00\nfont-size=12\n\nline-uses-ring"

/-- A command line has letters, a font and an abbreviated delay. -/
def sampleArgs : List CString := [ascii "-ecff0000", ascii "--font=serif", ascii "--pause-when-hidden-d", ascii "250"]

/-- A result is a settled state that passes a check. -/
def settledWith (check : OptionState Unit → Bool) : Except OptionHalt (ℕ ⊕ OptionState Unit) → Bool
  | .ok (.inr state) => check state
  | _ => false

theorem settledWith_iff (check : OptionState Unit → Bool) {result : Except OptionHalt (ℕ ⊕ OptionState Unit)}
    (passed : settledWith check result = true) : ∃ state, result = .ok (.inr state) ∧ check state = true := by
  unfold settledWith at passed
  split at passed
  · exact ⟨_, rfl, passed⟩
  · cases passed

/-- A result of `parse_options` that is zero passes a check. -/
def parsedWith (check : Destination Unit → Bool) : Except OptionHalt (ℕ × Destination Unit) → Bool
  | .ok (0, destination) => check destination
  | _ => false

theorem parsedWith_iff (check : Destination Unit → Bool) {result : Except OptionHalt (ℕ × Destination Unit)}
    (passed : parsedWith check result = true) :
    ∃ destination, result = .ok (0, destination) ∧ check destination = true := by
  unfold parsedWith at passed
  split at passed
  · exact ⟨_, rfl, passed⟩
  · cases passed

/-- A program starts with these options. -/
def startDestination : Destination Unit := ⟨some ⟨.initial, []⟩, some .line, none, .error⟩

/-- The sample configuration and the sample command line settle the options together. -/
theorem settled_by_sample : ∃ state, state.args.fontSize = 12 ∧ state.args.colors.background = 0xff0000ff ∧
    SettledBy (systemWith sampleText) (allSettings (systemWith sampleText) sampleArgs) state := by
  obtain ⟨state, settled, passed⟩ := settledWith_iff (fun state => state.args.fontSize == 12 &&
    state.args.colors.background == 0xff0000ff) (by decide +kernel :
      settledWith _ (settleOptions (systemWith sampleText) sampleArgs) = true)
  rw [Bool.and_eq_true, beq_iff_eq, beq_iff_eq] at passed
  exact ⟨state, passed.1, passed.2, settled_by settled⟩

/-- A letter for debug messages makes the first pass read the letters behind it as options. -/
example : chosenPath (systemWith sampleText) [ascii "-idC/tmp/config"] = some (ascii "/tmp/config") := by
  decide +kernel

/-- The sample command line sets the background whatever the configuration says. -/
theorem command_line_overrides_sample : ∃ one two : OptionState Unit, one.args.fontSize ≠ two.args.fontSize ∧
    one.args.get (.color .background) = two.args.get (.color .background) := by
  obtain ⟨one, first, small⟩ := settledWith_iff (fun state => state.args.fontSize == 12)
    (by decide +kernel : settledWith _ (settleOptions (systemWith sampleText) sampleArgs) = true)
  obtain ⟨two, second, unset⟩ := settledWith_iff (fun state => state.args.fontSize == 0)
    (by decide +kernel : settledWith _ (settleOptions { systemWith sampleText with readFile := fun _ => none }
      sampleArgs) = true)
  refine ⟨one, two, ?_, ?_⟩
  · rw [beq_iff_eq.mp small, beq_iff_eq.mp unset]
    decide
  · exact command_line_overrides first second (fun _ => nofun) nofun
      (by decide +kernel :
        (.color .background, ascii "ff0000") ∈ commandLineSettings sampleArgs) rfl

/-- The sample command line can be saved and loaded. -/
theorem config_of_command_line_sample : ∃ final, final.logImportance = .error ∧
    loadConfig (systemWith (configText (optionTable.scan .permute none sampleArgs))) .permute [] startDestination =
      .ok (0, final) := by
  obtain ⟨final, parsed, passed⟩ := parsedWith_iff (fun final => final.logImportance == .error)
    (by decide +kernel : parsedWith _ (parseOptions (systemWith (configText (optionTable.scan .permute none sampleArgs)))
      .permute sampleArgs startDestination) = true)
  exact ⟨final, beq_iff_eq.mp passed, config_of_command_line parsed (by decide +kernel) rfl⟩

/-- The sample configuration has a command line. -/
theorem command_line_of_config_sample : ∃ flags, flags <+: ((getLines sampleText).filter counts).map lineFlag ∧
    loadConfig (systemWith sampleText) mainOrder [] startDestination =
      (parseOptions (systemWith sampleText) mainOrder flags startDestination).map fun result => (0, result.2) :=
  command_line_of_config (systemWith sampleText) mainOrder rfl startDestination

end Examples

end SwaylockPlugin.Options
