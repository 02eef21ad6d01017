import SwaylockPlugin.Construction.Options
import SwaylockPlugin.Library.Assignment

namespace SwaylockPlugin.Options

open Library Images Listener ParseColor

theorem optionTable_named : optionTable.Named := ⟨by decide +kernel, by decide +kernel⟩

theorem optionTable_spelled : optionTable.Spelled := by
  unfold OptionTable.Spelled
  decide +kernel

theorem longOptions_distinct : (longOptions.map LongOption.code).Nodup := by decide +kernel

theorem SwaylockColors.get_set (colors : SwaylockColors) (value : UInt32) (changed field : ColorField) :
    (colors.set value changed).get field = if changed = field then value else colors.get field := by
  cases changed with
  | inside part => cases field with
    | inside other => cases part <;> cases other <;> rfl
    | _ => rfl
  | line part => cases field with
    | line other => cases part <;> cases other <;> rfl
    | _ => rfl
  | ring part => cases field with
    | ring other => cases part <;> cases other <;> rfl
    | _ => rfl
  | text part => cases field with
    | text other => cases part <;> cases other <;> rfl
    | _ => rfl
  | _ => cases field <;> rfl

/-- The fields of `swaylock_args` are set one by one. -/
inductive Field where
  | color (field : ColorField)
  | mode
  | font
  | fontSize
  | radius
  | thickness
  | indicatorXPosition
  | indicatorYPosition
  | overrideIndicatorXPosition
  | overrideIndicatorYPosition
  | ignoreEmpty
  | showIndicator
  | showCapsLockText
  | showCapsLockIndicator
  | showKeyboardLayout
  | hideKeyboardLayout
  | showFailedAttempts
  | daemonize
  | readyFd
  | indicatorIdleVisible
  | pluginCommand
  | pluginPerOutput
  | pauseWhenHidden
  | hiddenTimeoutMs
  | graceTime
  | gracePointerHysteresis
  deriving DecidableEq

/-- Each field has values of its own type. -/
def Field.Value : Field → Type
  | .color _ | .fontSize | .radius | .thickness | .indicatorXPosition | .indicatorYPosition => UInt32
  | .mode => BackgroundMode
  | .font => CString
  | .pluginCommand => Option CString
  | .readyFd | .hiddenTimeoutMs => Int
  | .graceTime | .gracePointerHysteresis => Rat
  | .overrideIndicatorXPosition | .overrideIndicatorYPosition | .ignoreEmpty | .showIndicator | .showCapsLockText
  | .showCapsLockIndicator | .showKeyboardLayout | .hideKeyboardLayout | .showFailedAttempts | .daemonize
  | .indicatorIdleVisible | .pluginPerOutput | .pauseWhenHidden => Bool

/-- A field is read. -/
def SwaylockArgs.get (args : SwaylockArgs) : (field : Field) → field.Value
  | .color field => args.colors.get field
  | .mode => args.mode
  | .font => args.font
  | .fontSize => args.fontSize
  | .radius => args.radius
  | .thickness => args.thickness
  | .indicatorXPosition => args.indicatorXPosition
  | .indicatorYPosition => args.indicatorYPosition
  | .overrideIndicatorXPosition => args.overrideIndicatorXPosition
  | .overrideIndicatorYPosition => args.overrideIndicatorYPosition
  | .ignoreEmpty => args.ignoreEmpty
  | .showIndicator => args.showIndicator
  | .showCapsLockText => args.showCapsLockText
  | .showCapsLockIndicator => args.showCapsLockIndicator
  | .showKeyboardLayout => args.showKeyboardLayout
  | .hideKeyboardLayout => args.hideKeyboardLayout
  | .showFailedAttempts => args.showFailedAttempts
  | .daemonize => args.daemonize
  | .readyFd => args.readyFd
  | .indicatorIdleVisible => args.indicatorIdleVisible
  | .pluginCommand => args.pluginCommand
  | .pluginPerOutput => args.pluginPerOutput
  | .pauseWhenHidden => args.pauseWhenHidden
  | .hiddenTimeoutMs => args.hiddenTimeoutMs
  | .graceTime => args.graceTime
  | .gracePointerHysteresis => args.gracePointerHysteresis

/-- An option with its argument is a setting. -/
abbrev Setting := OptionCode × CString

variable {Surface : Type} (system : System Surface)

/-- A setting assigns a value to a field, or it leaves the field alone. -/
def Setting.assigned (setting : Setting) : (field : Field) → Option field.Value
  | .color field =>
      if setting.1 = .color field then some (UInt32.ofNat (parseColor system.model setting.2)) else none
  | .mode =>
      if setting.1 = .scaling then some (parseBackgroundMode setting.2)
      else if setting.1 = .tiling then some .tile else none
  | .font => if setting.1 = .font then some setting.2 else none
  | .fontSize => if setting.1 = .fontSize then some (storeUInt32 (atoi (longBits system.model) setting.2)) else none
  | .radius =>
      if setting.1 = .indicatorRadius then some (storeUInt32 (strtol (longBits system.model) 0 setting.2).1) else none
  | .thickness =>
      if setting.1 = .indicatorThickness then some (storeUInt32 (strtol (longBits system.model) 0 setting.2).1)
      else none
  | .indicatorXPosition =>
      if setting.1 = .indicatorXPosition then some (storeUInt32 (atoi (longBits system.model) setting.2)) else none
  | .indicatorYPosition =>
      if setting.1 = .indicatorYPosition then some (storeUInt32 (atoi (longBits system.model) setting.2)) else none
  | .overrideIndicatorXPosition => if setting.1 = .indicatorXPosition then some true else none
  | .overrideIndicatorYPosition => if setting.1 = .indicatorYPosition then some true else none
  | .ignoreEmpty => if setting.1 = .ignoreEmptyPassword then some true else none
  | .showIndicator => if setting.1 = .noUnlockIndicator then some false else none
  | .showCapsLockText => if setting.1 = .disableCapsLockText then some false else none
  | .showCapsLockIndicator => if setting.1 = .indicatorCapsLock then some true else none
  | .showKeyboardLayout => if setting.1 = .showKeyboardLayout then some true else none
  | .hideKeyboardLayout => if setting.1 = .hideKeyboardLayout then some true else none
  | .showFailedAttempts => if setting.1 = .showFailedAttempts then some true else none
  | .daemonize => if setting.1 = .daemonize then some true else none
  | .readyFd => if setting.1 = .readyFd then some (wrap32 (strtol (longBits system.model) 10 setting.2).1) else none
  | .indicatorIdleVisible => if setting.1 = .indicatorIdleVisible then some true else none
  | .pluginCommand => if setting.1 = .command ∨ setting.1 = .commandEach then some (some setting.2) else none
  | .pluginPerOutput =>
      if setting.1 = .commandEach then some true else if setting.1 = .command then some false else none
  | .pauseWhenHidden => if setting.1 = .pauseWhenHidden then some true else none
  | .hiddenTimeoutMs => if setting.1 = .pauseWhenHiddenDelay then pauseDelay system setting.2 else none
  | .graceTime => if setting.1 = .grace then graceSeconds system setting.2 else none
  | .gracePointerHysteresis => if setting.1 = .pointerHysteresis then hysteresisDistance system setting.2 else none

/-- A setting may choose a line mode. -/
def Setting.lineMode (setting : Setting) : Option LineMode :=
  if setting.1 = .lineUsesInside then some .inside else if setting.1 = .lineUsesRing then some .ring else none

/-- A setting may be an image. -/
def Setting.image (setting : Setting) : Option CString := if setting.1 = .image then some setting.2 else none

/-- An option stops the loop when it asks for help or names a mode that does not exist. -/
def OptionCode.stops (code : OptionCode) (optarg : CString) : Bool :=
  code == .help || code == .scaling && parseBackgroundMode optarg == .invalid

/-- The settings are heeded up to the first operand or error and up to the first one that returns a status. -/
def heeded : List (Found OptionCode) → List Setting
  | [] | .error :: _ | .operand _ :: _ => []
  | .option code arg :: rest =>
      (code, arg.getD []) :: if code.stops (arg.getD []) then [] else heeded rest

/-- A setting is applied to a state when each field has the value that the setting assigns or the old one. -/
structure Applied (setting : Setting) (first second : OptionState Surface) : Prop where
  field : ∀ field, second.args.get field = (setting.assigned system field).getD (first.args.get field)
  images : (setting.image.toList.foldlM (fun images arg => loadImage system.files arg images) first.images) =
    .ok second.images

variable {system}

/-- A case of the switch settles a setting when the state and the line mode are as the setting says. -/
def Settles (system : System Surface) (setting : Setting) (first : Destination Surface) (state : OptionState Surface)
    (result : ℕ × Destination Surface) : Prop :=
  result.1 = (setting.1.stops setting.2).toNat ∧
    ∃ changed, result.2.state = some changed ∧ Applied system setting state changed ∧
      result.2.lineMode = first.lineMode.map setting.lineMode.getD

variable {destination : Destination Surface} {state : OptionState Surface} {code : OptionCode} {optarg : CString}

theorem Setting.assigned_color (field other : ColorField) :
    Setting.assigned system (.color field, optarg) (.color other) =
      if field = other then some (UInt32.ofNat (parseColor system.model optarg)) else none := by
  by_cases same : field = other
  · rw [if_pos same]
    exact if_pos (congrArg OptionCode.color same)
  · rw [if_neg same]
    exact if_neg fun equal => same (OptionCode.color.inj equal)

theorem Settles.setArgs (present : destination.state = some state) {change : SwaylockArgs → SwaylockArgs}
    (same : ∀ field, (change state.args).get field =
      (Setting.assigned system (code, optarg) field).getD (state.args.get field))
    (plain : Setting.image (code, optarg) = none) (unlined : Setting.lineMode (code, optarg) = none) {status : ℕ}
    (stopped : status = (code.stops optarg).toNat) :
    Settles system (code, optarg) destination state (status, destination.setArgs change) := by
  refine ⟨stopped, { state with args := change state.args }, ?_, ⟨same, ?_⟩, ?_⟩
  · unfold Destination.setArgs
    rw [present]
    rfl
  · rw [plain]
    rfl
  · rw [unlined]
    cases shown : destination.lineMode with
    | none => exact shown
    | some mode => exact shown

theorem Settles.idle (present : destination.state = some state) {next : Destination Surface}
    (same : next.state = destination.state) (line : next.lineMode = destination.lineMode)
    (idle : ∀ field, Setting.assigned system (code, optarg) field = none)
    (plain : Setting.image (code, optarg) = none) (unlined : Setting.lineMode (code, optarg) = none) {status : ℕ}
    (stopped : status = (code.stops optarg).toNat) :
    Settles system (code, optarg) destination state (status, next) := by
  refine ⟨stopped, state, same.trans present, ⟨fun field => ?_, ?_⟩, ?_⟩
  · rw [idle]
    rfl
  · rw [plain]
    rfl
  · rw [line, unlined]
    cases destination.lineMode <;> rfl

theorem loadImageInto_settles (present : destination.state = some state) :
    Ensures (loadImageInto system optarg destination) fun next =>
      Settles system (.image, optarg) destination state (0, next) := by
  unfold loadImageInto
  rw [present]
  dsimp only
  split
  · exact .throw
  · rename_i images loaded
    refine .pure ⟨rfl, { state with images }, rfl, ⟨fun field => by cases field <;> rfl, ?_⟩, ?_⟩
    · change loadImage system.files optarg state.images >>= pure = _
      rw [loaded]
      rfl
    · cases destination.lineMode <;> rfl

theorem applyOption_settles (present : destination.state = some state) :
    Ensures (applyOption system code optarg destination)
      (Settles system (code, optarg) destination state) := by
  cases code with
  | color field =>
      refine .pure (.setArgs present (fun read => ?_) rfl rfl rfl)
      cases read with
      | color other =>
          refine (state.args.colors.get_set _ field other).trans ?_
          rw [Setting.assigned_color]
          by_cases same : field = other
          · rw [if_pos same, if_pos same]
            rfl
          · rw [if_neg same, if_neg same]
            rfl
      | _ => rfl
  | grace | pointerHysteresis | pauseWhenHiddenDelay =>
      exact .pure (.setArgs present (fun field => by cases field <;> rfl) rfl rfl rfl)
  | scaling =>
      refine .pure (.setArgs present (fun field => by cases field <;> rfl) rfl rfl ?_)
      unfold OptionCode.stops
      rw [present]
      cases parseBackgroundMode optarg <;> rfl
  | config | debug | help => exact .pure (.idle present rfl rfl (fun field => by cases field <;> rfl) rfl rfl rfl)
  | version => exact .throw
  | image => exact (loadImageInto_settles present).bind fun _ settled => .pure settled
  | lineUsesInside | lineUsesRing =>
      refine .pure ⟨rfl, state, present, ⟨fun field => by cases field <;> rfl, rfl⟩, ?_⟩
      cases destination.lineMode <;> rfl
  | _ => exact .pure (.setArgs present (fun field => by cases field <;> rfl) rfl rfl rfl)

/-- A state reflects settings when each field has the value that the last of them assigns and each image is loaded. -/
structure Reflects (system : System Surface) (settings : List Setting) (first second : OptionState Surface) : Prop where
  field : ∀ field, second.args.get field =
    lastAssigned (fun setting => setting.assigned system field) settings (first.args.get field)
  images : (settings.filterMap Setting.image).foldlM (fun images arg => loadImage system.files arg images)
    first.images = .ok second.images

namespace Reflects

variable {first second third : OptionState Surface}

theorem refl (state : OptionState Surface) : Reflects system [] state state := ⟨fun _ => rfl, rfl⟩

theorem cons {setting : Setting} {settings : List Setting} (applied : Applied system setting first second)
    (rest : Reflects system settings second third) : Reflects system (setting :: settings) first third where
  field field := by rw [rest.field, applied.field, lastAssigned_cons]
  images := by
    have loaded := applied.images
    have others := rest.images
    cases chosen : setting.image with
    | none =>
        rw [chosen] at loaded
        have same : first.images = second.images := Except.ok.inj loaded
        rw [List.filterMap_cons_none chosen, same]
        exact others
    | some arg =>
        rw [chosen] at loaded
        rw [List.filterMap_cons_some chosen, ← List.singleton_append, List.foldlM_append]
        exact (congrArg (· >>= _) loaded).trans others

theorem trans {before after : List Setting} (one : Reflects system before first second)
    (two : Reflects system after second third) : Reflects system (before ++ after) first third where
  field field := by rw [two.field, one.field, lastAssigned_append]
  images := by
    rw [List.filterMap_append, List.foldlM_append]
    exact (congrArg (· >>= _) one.images).trans two.images

end Reflects

/-- The loop of `parse_options` leaves a state and a line mode that reflect what it heeded. -/
theorem applyOptions_reflects (found : List (Found OptionCode)) (present : destination.state = some state) :
    Ensures (applyOptions system found destination) fun result =>
      ∃ changed, result.2.state = some changed ∧ Reflects system (heeded found) state changed ∧
        result.2.lineMode = destination.lineMode.map (lastAssigned Setting.lineMode (heeded found)) := by
  have same (mode : Option LineMode) : mode = mode.map (lastAssigned Setting.lineMode []) := by cases mode <;> rfl
  induction found generalizing destination state with
  | nil => exact .pure ⟨state, present, .refl state, same _⟩
  | cons first rest ih =>
      cases first with
      | error | operand _ => exact .pure ⟨state, present, .refl state, same _⟩
      | option code arg =>
          refine (applyOption_settles present).bind fun result settled => ?_
          obtain ⟨status, next⟩ := result
          obtain ⟨stopped, middle, there, applied, line⟩ := settled
          change status = (code.stops (arg.getD [])).toNat at stopped
          unfold heeded
          cases stops : code.stops (arg.getD []) with
          | true =>
              rw [stops] at stopped
              subst stopped
              refine .pure ⟨middle, there, .cons applied (.refl middle), line.trans ?_⟩
              congr 1
              funext mode
              exact (lastAssigned_cons _ []).symm
          | false =>
              rw [stops] at stopped
              subst stopped
              refine (ih there).weaken fun result known => ?_
              obtain ⟨last, final, reflects, lines⟩ := known
              refine ⟨last, final, .cons applied reflects, lines.trans ?_⟩
              rw [line, Option.map_map]
              congr 1
              funext mode
              exact (lastAssigned_cons _ _).symm

end SwaylockPlugin.Options
