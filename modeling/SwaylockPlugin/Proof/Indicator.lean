import SwaylockPlugin.Proof.LockSteps
import SwaylockPlugin.Proof.EventFootprints

namespace SwaylockPlugin

open Library

/-- The indicator draws all outputs and arms and disarms its timers. -/
inductive Draws : Scene → Scene → Prop
  | refl (scene : Scene) : Draws scene scene
  | damage {first second : Scene} : Draws first second → Draws first (damageState second)
  | arm {first second : Scene} (ms : Int) {callback : TimerCallback} (onIndicator : callback.onIndicator = true) :
      Draws first second → Draws first (second.addTimer ms callback).1
  | disarm {first second : Scene} (timer : TimerId) : Draws first second → Draws first (second.removeTimer timer)

namespace Draws

variable {first second third : Scene}

theorem trans (one : Draws first second) (two : Draws second third) : Draws first third := by
  induction two with
  | refl => exact one
  | damage _ ih => exact ih.damage
  | arm ms onIndicator _ ih => exact ih.arm ms onIndicator
  | disarm timer _ ih => exact ih.disarm timer

theorem changes (draws : Draws first second) : Changes indicatorEffects first second := by
  induction draws with
  | refl => exact .refl _
  | damage _ ih => exact ih.trans (damageState_changes.widen (by simp))
  | arm ms onIndicator _ ih =>
      exact ih.trans (.single (.armIndicator ms onIndicator) (by simp))
  | disarm timer _ ih => exact ih.trans (.single (.disarm timer) (by simp))

end Draws

/-- A handler of the indicator works on the scene and on the fields that it shows. -/
structure Indicates (first second : SwaylockState) : Prop where
  draws : Draws first.scene second.scene
  xkb : second.xkb = first.xkb
  runDisplay : second.runDisplay = first.runDisplay
  graceTimer : second.graceTimer = first.graceTimer
  pipes : second.sleepCommR = first.sleepCommR ∧ second.sleepCommW = first.sleepCommW
  seats : second.seats = first.seats
  main : second.phase = first.phase ∧ second.deeds = first.deeds ∧ second.locked = first.locked

namespace Indicates

variable {first second third : SwaylockState}

theorem scene (indicates : Indicates first second) : Changes indicatorEffects first.scene second.scene :=
  indicates.draws.changes

theorem refl (state : SwaylockState) : Indicates state state :=
  ⟨.refl _, rfl, rfl, rfl, ⟨rfl, rfl⟩, rfl, rfl, rfl, rfl⟩

theorem trans (one : Indicates first second) (two : Indicates second third) : Indicates first third where
  draws := one.draws.trans two.draws
  xkb := two.xkb.trans one.xkb
  runDisplay := two.runDisplay.trans one.runDisplay
  graceTimer := two.graceTimer.trans one.graceTimer
  pipes := ⟨two.pipes.1.trans one.pipes.1, two.pipes.2.trans one.pipes.2⟩
  seats := two.seats.trans one.seats
  main := ⟨two.main.1.trans one.main.1, two.main.2.1.trans one.main.2.1, two.main.2.2.trans one.main.2.2⟩

theorem damage (state : SwaylockState) : Indicates state state.damage :=
  ⟨.damage (.refl state.scene), rfl, rfl, rfl, ⟨rfl, rfl⟩, rfl, rfl, rfl, rfl⟩

theorem removeTimer? (state : SwaylockState) (timer : Option TimerId) : Indicates state (state.removeTimer? timer) := by
  cases timer with
  | none => exact refl state
  | some timer => exact ⟨.disarm timer (.refl state.scene), rfl, rfl, rfl, ⟨rfl, rfl⟩, rfl, rfl, rfl, rfl⟩

theorem addTimer (state : SwaylockState) (ms : Int) (callback : TimerCallback)
    (onIndicator : callback.onIndicator = true) : Indicates state (state.addTimer ms callback).1 :=
  ⟨.arm ms onIndicator (.refl state.scene), rfl, rfl, rfl, ⟨rfl, rfl⟩, rfl, rfl, rfl, rfl⟩

theorem shown (before : Indicates first second) (scene : third.scene = second.scene)
    (xkb : third.xkb = second.xkb) (lock : third.runDisplay = second.runDisplay ∧ third.graceTimer = second.graceTimer)
    (pipes : third.sleepCommR = second.sleepCommR ∧ third.sleepCommW = second.sleepCommW)
    (seats : third.seats = second.seats)
    (main : third.phase = second.phase ∧ third.deeds = second.deeds ∧ third.locked = second.locked) :
    Indicates first third := by
  have added : Indicates second third :=
    { draws := scene ▸ .refl _
      xkb := xkb
      runDisplay := lock.1
      graceTimer := lock.2
      pipes := pipes
      seats := seats
      main := main }
  exact before.trans added

end Indicates

theorem setInputIdle_indicates (state : SwaylockState) : Indicates state (setInputIdle state) := by
  have noted : Indicates state { state with inputIdleTimer := none, inputState := .idle } :=
    (Indicates.refl state).shown rfl rfl ⟨rfl, rfl⟩ ⟨rfl, rfl⟩ rfl ⟨rfl, rfl, rfl⟩
  exact noted.trans (.damage _)

theorem setAuthIdle_indicates (state : SwaylockState) : Indicates state (setAuthIdle state) := by
  have noted : Indicates state { state with authIdleTimer := none, authState := .idle } :=
    (Indicates.refl state).shown rfl rfl ⟨rfl, rfl⟩ ⟨rfl, rfl⟩ rfl ⟨rfl, rfl, rfl⟩
  exact noted.trans (.damage _)

theorem scheduleInputIdle_indicates (state : SwaylockState) : Indicates state (scheduleInputIdle state) := by
  have armed := (Indicates.removeTimer? state state.inputIdleTimer).trans (.addTimer _ 1500 .setInputIdle rfl)
  exact armed.shown rfl rfl ⟨rfl, rfl⟩ ⟨rfl, rfl⟩ rfl ⟨rfl, rfl, rfl⟩

theorem cancelInputIdle_indicates (state : SwaylockState) : Indicates state (cancelInputIdle state) :=
  (Indicates.removeTimer? state state.inputIdleTimer).shown rfl rfl ⟨rfl, rfl⟩ ⟨rfl, rfl⟩ rfl ⟨rfl, rfl, rfl⟩

theorem scheduleAuthIdle_indicates (state : SwaylockState) : Indicates state (scheduleAuthIdle state) := by
  have armed := (Indicates.removeTimer? state state.authIdleTimer).trans (.addTimer _ 3000 .setAuthIdle rfl)
  exact armed.shown rfl rfl ⟨rfl, rfl⟩ ⟨rfl, rfl⟩ rfl ⟨rfl, rfl, rfl⟩

theorem schedulePasswordClear_indicates (state : SwaylockState) : Indicates state (schedulePasswordClear state) := by
  have armed := (Indicates.removeTimer? state state.clearPasswordTimer).trans (.addTimer _ 10000 .clearPassword rfl)
  exact armed.shown rfl rfl ⟨rfl, rfl⟩ ⟨rfl, rfl⟩ rfl ⟨rfl, rfl, rfl⟩

theorem cancelPasswordClear_indicates (state : SwaylockState) : Indicates state (cancelPasswordClear state) :=
  (Indicates.removeTimer? state state.clearPasswordTimer).shown rfl rfl ⟨rfl, rfl⟩ ⟨rfl, rfl⟩ rfl ⟨rfl, rfl, rfl⟩

theorem clearPassword_indicates (state : SwaylockState) : Indicates state (clearPassword state) := by
  have noted : Indicates state { state with clearPasswordTimer := none, inputState := .clear } :=
    (Indicates.refl state).shown rfl rfl ⟨rfl, rfl⟩ ⟨rfl, rfl⟩ rfl ⟨rfl, rfl, rfl⟩
  have scheduled := noted.trans (scheduleInputIdle_indicates _)
  refine Indicates.trans ?_ (.damage _)
  exact scheduled.shown rfl rfl ⟨rfl, rfl⟩ ⟨rfl, rfl⟩ rfl ⟨rfl, rfl, rfl⟩

theorem writeCommRequest_indicates (state : SwaylockState) (written : Bool) :
    Indicates state (writeCommRequest state written) :=
  (Indicates.refl state).shown rfl rfl ⟨rfl, rfl⟩ ⟨rfl, rfl⟩ rfl ⟨rfl, rfl, rfl⟩

theorem submitPassword_indicates (state : SwaylockState) (written : Bool) :
    Indicates state (submitPassword state written) := by
  unfold submitPassword
  split
  · exact .refl state
  · split
    · exact .refl state
    · have noted : Indicates state { state with inputState := .idle, authState := .validating } :=
        (Indicates.refl state).shown rfl rfl ⟨rfl, rfl⟩ ⟨rfl, rfl⟩ rfl ⟨rfl, rfl, rfl⟩
      have cancelled := (noted.trans (cancelPasswordClear_indicates _)).trans (cancelInputIdle_indicates _)
      have sent := cancelled.trans (writeCommRequest_indicates _ written)
      dsimp only
      split
      · refine Indicates.trans ?_ (.damage _)
        exact sent
      · refine Indicates.trans ?_ (.damage _)
        refine Indicates.trans ?_ (scheduleAuthIdle_indicates _)
        exact sent.shown rfl rfl ⟨rfl, rfl⟩ ⟨rfl, rfl⟩ rfl ⟨rfl, rfl, rfl⟩

theorem clearByKey_indicates (state : SwaylockState) : Indicates state (clearByKey state) := by
  have noted : Indicates state { state with password := state.password.clear, inputState := .clear } :=
    (Indicates.refl state).shown rfl rfl ⟨rfl, rfl⟩ ⟨rfl, rfl⟩ rfl ⟨rfl, rfl, rfl⟩
  have cancelled := noted.trans (cancelPasswordClear_indicates _)
  exact (cancelled.trans (scheduleInputIdle_indicates _)).trans (.damage _)

theorem eraseByKey_indicates (state : SwaylockState) (random : Nat) :
    Indicates state (eraseByKey state random) := by
  unfold eraseByKey
  split
  · exact clearByKey_indicates state
  · refine Indicates.trans (Indicates.trans ?_ (scheduleInputIdle_indicates _)) (.damage _)
    split
    · have noted : Indicates state
          { state with password := state.password.backspace, inputState := .backspace } :=
        (Indicates.refl state).shown rfl rfl ⟨rfl, rfl⟩ ⟨rfl, rfl⟩ rfl ⟨rfl, rfl, rfl⟩
      exact (noted.trans (schedulePasswordClear_indicates _)).shown rfl rfl ⟨rfl, rfl⟩ ⟨rfl, rfl⟩ rfl ⟨rfl, rfl, rfl⟩
    · have noted : Indicates state { state with password := state.password.backspace, inputState := .clear } :=
        (Indicates.refl state).shown rfl rfl ⟨rfl, rfl⟩ ⟨rfl, rfl⟩ rfl ⟨rfl, rfl, rfl⟩
      exact noted.trans (cancelPasswordClear_indicates _)

theorem touchByKey_indicates (state : SwaylockState) : Indicates state (touchByKey state) := by
  have noted : Indicates state { state with inputState := .neutral } :=
    (Indicates.refl state).shown rfl rfl ⟨rfl, rfl⟩ ⟨rfl, rfl⟩ rfl ⟨rfl, rfl, rfl⟩
  have scheduled := noted.trans (schedulePasswordClear_indicates _)
  exact (scheduled.trans (scheduleInputIdle_indicates _)).trans (.damage _)

theorem appendByKey_indicates (state : SwaylockState) (codepoint : UInt32) (random : Nat) :
    Indicates state (appendByKey state codepoint random) := by
  unfold appendByKey
  split
  · exact .refl state
  · have noted : Indicates state
        { state with password := state.password.appendCh codepoint, inputState := .letter } :=
      (Indicates.refl state).shown rfl rfl ⟨rfl, rfl⟩ ⟨rfl, rfl⟩ rfl ⟨rfl, rfl, rfl⟩
    have scheduled := (noted.trans (schedulePasswordClear_indicates _)).trans (scheduleInputIdle_indicates _)
    refine Indicates.trans ?_ (.damage _)
    exact scheduled.shown rfl rfl ⟨rfl, rfl⟩ ⟨rfl, rfl⟩ rfl ⟨rfl, rfl, rfl⟩

theorem swaylockHandleKey_indicates (state : SwaylockState) (keysym : Keysym) (codepoint : UInt32)
    (random : Nat) (written : Bool) :
    Indicates state (swaylockHandleKey state keysym codepoint random written) := by
  apply swaylockHandleKey_cases (Indicates state)
  · exact submitPassword_indicates state written
  · exact eraseByKey_indicates state random
  · exact clearByKey_indicates state
  · exact touchByKey_indicates state
  · exact appendByKey_indicates state codepoint random

end SwaylockPlugin
