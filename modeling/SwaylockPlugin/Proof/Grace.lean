import SwaylockPlugin.Proof.LockSteps

namespace SwaylockPlugin

open Library

/-- The main function has passed the start of the grace period in these phases. -/
def Phase.pastGrace : Phase → Bool
  | .hiddenCheck | .runCheck | .runPoll | .runTimers | .resume | .unlock | .roundtrip => true
  | _ => false

/-- A grace timer is set only after the start of the grace period and only with an open pipe. -/
structure GraceGuard (core : LockCore) : Prop where
  past : core.graceTimer.isSome = true → core.phase.pastGrace = true
  pipe : core.graceTimer.isSome = true → 0 ≤ core.sleepCommW

namespace GraceGuard

theorem endGrace (core : LockCore) : GraceGuard core.endGrace := ⟨nofun, nofun⟩

theorem advance {core next : LockCore} (guard : GraceGuard core) (timer : next.graceTimer = core.graceTimer)
    (pipe : next.sleepCommW = core.sleepCommW)
    (later : core.phase.pastGrace = true → next.phase.pastGrace = true) : GraceGuard next where
  past set_ := later (guard.past (timer ▸ set_))
  pipe set_ := pipe ▸ guard.pipe (timer ▸ set_)

theorem step {state : SwaylockState} {event : Event} {core : LockCore} (guard : GraceGuard state.lockCore)
    (step : LockStep state event core) : GraceGuard core := by
  have early {phase : Phase} (at_ : state.phase = phase) (before : phase.pastGrace = false)
      (past : state.lockCore.phase.pastGrace = true) {goal : Prop} : goal := by
    rw [show state.lockCore.phase = phase from at_, before] at past
    cases past
  cases step with
  | keeps => exact guard
  | unlockedByInput => exact guard.advance rfl rfl id
  | ended => exact guard.advance rfl rfl id
  | graceOver => exact endGrace _
  | locked => exact guard.advance rfl rfl id
  | swept =>
      refine guard.advance rfl rfl fun past => ?_
      by_cases waiting : state.phase = .waitPoll
      · exact early waiting rfl past
      · simp [waiting, Phase.pastGrace]
  | polled =>
      refine guard.advance rfl rfl fun past => ?_
      by_cases waiting : state.phase = .waitTimers
      · exact early waiting rfl past
      · simp [waiting, Phase.pastGrace]
  | started at_ =>
      refine ⟨fun set_ => ?_, fun set_ => ?_⟩
      · exact early at_ rfl (guard.past set_)
      · exact early at_ rfl (guard.past set_)
  | waits at_ => exact guard.advance rfl rfl fun past => early at_ rfl past
  | waited at_ => exact guard.advance rfl rfl fun past => early at_ rfl past
  | runs => exact guard.advance rfl rfl fun _ => rfl
  | ran => exact guard.advance rfl rfl fun _ => rfl
  | ready _ at_ => exact guard.advance rfl rfl fun past => early at_ rfl past
  | notReady _ at_ => exact guard.advance rfl rfl fun past => early at_ rfl past
  | released _ at_ => exact guard.advance rfl rfl fun past => early at_ rfl past
  | foreground _ at_ => exact guard.advance rfl rfl fun past => early at_ rfl past
  | grace pipes _ _ _ writable => exact ⟨fun _ => rfl, fun _ => writable⟩
  | noGrace => exact guard.advance rfl rfl fun _ => rfl
  | armed => exact guard.advance rfl rfl fun _ => rfl
  | resumed => exact guard.advance rfl rfl fun _ => rfl
  | unlocked => exact guard.advance rfl rfl fun _ => rfl

theorem initial {state : SwaylockState} (start : InitialState state) : GraceGuard state.lockCore := by
  have unset : state.lockCore.graceTimer.isSome = false := by
    rw [show state.lockCore.graceTimer = none from start.grace]
    rfl
  exact ⟨fun set_ => absurd set_ (by rw [unset]; decide), fun set_ => absurd set_ (by rw [unset]; decide)⟩

theorem of_reachable {state : SwaylockState} (reachable : swaylock.machine.Reachable state) :
    GraceGuard state.lockCore := by
  refine reachable.invariant (fun state => GraceGuard state.lockCore) ?_ ?_
  · exact fun _ start => initial start
  · exact fun _ _ _ guard moved => guard.step (lockStep_of_step moved)

end GraceGuard

theorem graceDelay_le (graceTime : Rat) : graceDelay graceTime ≤ intMax := by
  unfold graceDelay
  dsimp only
  split
  · exact le_refl _
  · unfold intMax
    omega

/-- A grace timer that is not cut runs for the grace time, up to an error of one part of 2 ^ 24 and up to one millisecond
more. -/
theorem graceDelay_near {graceTime : Rat} (normal : 2 ^ (-126 : Int) ≤ |graceTime * 1000|)
    (whole : graceDelay graceTime ≠ intMax) :
    graceTime * 1000 - |graceTime * 1000| / 2 ^ 24 ≤ graceDelay graceTime ∧
      graceDelay graceTime < graceTime * 1000 + |graceTime * 1000| / 2 ^ 24 + 1 := by
  have uncut : graceDelay graceTime = (roundBinary32 (graceTime * 1000)).ceil := by
    unfold graceDelay at whole ⊢
    dsimp only at whole ⊢
    split
    · rename_i cut
      rw [if_pos cut] at whole
      exact absurd rfl whole
    · rfl
  obtain ⟨lower, upper⟩ := abs_le.mp (roundBinary32_near normal)
  have above : roundBinary32 (graceTime * 1000) ≤ (roundBinary32 (graceTime * 1000)).ceil := Rat.le_ceil
  have below := Rat.ceil_lt (x := roundBinary32 (graceTime * 1000))
  rw [uncut]
  constructor
  · linarith
  · linarith

/-- The error can cost a millisecond. -/
example : graceDelay (roundBinary32 (127 / 1000)) = 128 := by decide +kernel

end SwaylockPlugin
