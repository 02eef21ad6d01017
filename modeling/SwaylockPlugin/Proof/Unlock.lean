import SwaylockPlugin.Proof.Devices
import SwaylockPlugin.Proof.Grace

namespace SwaylockPlugin

open Library

/-- These events end the lock by themselves or as input during the grace period. -/
def Event.unlocks (state : SwaylockState) (event : Event) : Bool :=
  event.isEnd || event.isInput && state.graceTimer.isSome

theorem wlPointerEnter_ok {state next : SwaylockState} {id : SeatId} {x y : WlFixed}
    (entered : wlPointerEnter state id x y = .ok next) : next = { state with seats := next.seats } := by
  obtain ⟨_, _, rest⟩ := bind_ok.mp entered
  split at rest <;> cases rest <;> rfl

theorem wlPointerMotion_ok {state next : SwaylockState} {id : SeatId} {x y : WlFixed}
    (moved : wlPointerMotion state id x y = .ok next) :
    next = { state with seats := next.seats, runDisplay := next.runDisplay } := by
  obtain ⟨_, _, rest⟩ := bind_ok.mp moved
  split at rest
  · cases rest
    rfl
  · dsimp only at rest
    split at rest <;> cases rest <;> rfl

theorem DeviceStep.settings {state next : SwaylockState} {event : Event} (step : DeviceStep state event next) :
    next.scene.args.graceTime = state.scene.args.graceTime ∧
      next.scene.args.gracePointerHysteresis = state.scene.args.gracePointerHysteresis := by
  cases step with
  | background _ quiet => exact ⟨quiet.scene.grace, quiet.scene.hysteresis⟩
  | graceOver _ _ before _ after =>
      exact ⟨after.scene.grace.trans before.scene.grace, after.scene.hysteresis.trans before.scene.hysteresis⟩
  | sleepNotice =>
      unfold sleepIn
      cases state.graceTimer <;> exact ⟨rfl, rfl⟩
  | startGrace watcher =>
      unfold startGracePeriod
      split
      · cases watcher <;> exact ⟨rfl, rfl⟩
      · exact ⟨rfl, rfl⟩
  | start _ _ quiet => exact ⟨quiet.scene.grace, quiet.scene.hysteresis⟩
  | keyIgnored _ quiet => exact ⟨quiet.scene.grace, quiet.scene.hysteresis⟩
  | @keyStopped _ _ _ _ _ handled seat quiet =>
      have stopped := quiet.trans (.removeTimer? handled seat.repeatTimer)
      exact ⟨stopped.scene.grace, stopped.scene.hysteresis⟩
  | @keyArmed _ _ _ _ handled seat _ _ quiet =>
      have stopped := quiet.trans (.removeTimer? handled seat.repeatTimer)
      exact ⟨stopped.scene.grace, stopped.scene.hysteresis⟩
  | @keyboardLeave _ seat =>
      have stopped := Background.removeTimer? state seat.repeatTimer
      exact ⟨stopped.scene.grace, stopped.scene.hysteresis⟩
  | repeated _ _ quiet => exact ⟨quiet.scene.grace, quiet.scene.hysteresis⟩
  | pointerEnter entered =>
      rw [wlPointerEnter_ok entered]
      exact ⟨rfl, rfl⟩
  | pointerMotion moved =>
      rw [wlPointerMotion_ok moved]
      exact ⟨rfl, rfl⟩
  | _ => exact ⟨rfl, rfl⟩

namespace LockStep

variable {state : SwaylockState} {event : Event} {core : LockCore}

theorem unlocks (step : LockStep state event core) (running : state.runDisplay = true)
    (stopped : core.runDisplay = false) : event.unlocks state = true := by
  have kept {goal : Prop} (same : core.runDisplay = state.runDisplay) : goal := by
    rw [same, running] at stopped
    cases stopped
  cases step with
  | unlockedByInput input grace =>
      rw [Event.unlocks, input, grace]
      exact Bool.or_true _
  | ended ends =>
      rw [Event.unlocks, ends]
      rfl
  | started => cases stopped
  | _ => exact kept rfl

theorem pastGrace (step : LockStep state event core) (past : state.phase.pastGrace = true) :
    core.phase.pastGrace = true := by
  have early {goal : Prop} {phase : Phase} (at_ : state.phase = phase) (before : phase.pastGrace = false) : goal := by
    rw [at_, before] at past
    cases past
  cases step with
  | swept =>
      by_cases waiting : state.phase = .waitPoll
      · exact early waiting rfl
      · simp [waiting, Phase.pastGrace]
  | polled =>
      by_cases waiting : state.phase = .waitTimers
      · exact early waiting rfl
      · simp [waiting, Phase.pastGrace]
  | started at_ => exact early at_ rfl
  | waits at_ => exact early at_ rfl
  | waited at_ => exact early at_ rfl
  | ready _ at_ => exact early at_ rfl
  | notReady _ at_ => exact early at_ rfl
  | released _ at_ => exact early at_ rfl
  | foreground _ at_ => exact early at_ rfl
  | keeps => exact past
  | unlockedByInput => exact past
  | ended => exact past
  | graceOver => exact past
  | locked => exact past
  | _ => rfl

theorem graceTimer (step : LockStep state event core) (unset : state.graceTimer = none)
    (other : state.phase ≠ .grace ∨ state.scene.args.graceTime ≤ 0) : core.graceTimer = none := by
  cases step with
  | grace _ _ due positive =>
      rcases other with early | none_
      · exact absurd due early
      · exact absurd none_ (Rat.not_le.mpr positive)
  | graceOver => rfl
  | _ => exact unset

end LockStep

theorem graceOver_of_run {state last : SwaylockState} {events : List Occurrence}
    (run : swaylock.machine.Run state events last) (past : state.phase.pastGrace = true)
    (elapsed : state.graceTimer = none) : last.graceTimer = none := by
  have kept := run.preserves (fun state => state.phase.pastGrace = true ∧ state.graceTimer = none) ?_ ⟨past, elapsed⟩
  · exact kept.2
  · rintro state occurrence next ⟨past, elapsed⟩ moved
    have step := lockStep_of_step moved
    refine ⟨step.pastGrace past, step.graceTimer elapsed (.inl fun due => ?_)⟩
    rw [due] at past
    cases past

theorem graceTimer_of_run {first last : SwaylockState} {events : List Occurrence} (start : InitialState first)
    (run : swaylock.machine.Run first events last) (none_ : first.scene.args.graceTime ≤ 0) :
    last.graceTimer = none := by
  have kept := run.preserves (fun state => state.scene.args.graceTime ≤ 0 ∧ state.graceTimer = none) ?_
    ⟨none_, start.grace⟩
  · exact kept.2
  · rintro state occurrence next ⟨short, unset⟩ moved
    refine ⟨?_, (lockStep_of_step moved).graceTimer unset (.inr short)⟩
    rw [(deviceStep_of_step moved).settings.1]
    exact short

/-- The lock ends only by its own events or by input during a grace period that comes at most once. -/
theorem unlock_paths {first state next last : SwaylockState} {before after : List Occurrence}
    {occurrence : Occurrence} (start : InitialState first) (run : swaylock.machine.Run first before state)
    (moved : swaylock.machine.step state occurrence next) (rest : swaylock.machine.Run next after last) :
    (state.runDisplay = true → next.runDisplay = false → occurrence.event.unlocks state = true) ∧
    (first.scene.args.graceTime ≤ 0 → state.graceTimer = none) ∧
    (state.graceTimer.isSome = true → next.graceTimer = none → last.graceTimer = none ∧
      ∀ later final, swaylock.machine.step last later final → last.runDisplay = true →
        final.runDisplay = false → later.event.isEnd = true) := by
  have step := lockStep_of_step moved
  have guard := GraceGuard.of_reachable (Machine.Reachable.run (.initial start) run)
  refine ⟨step.unlocks, graceTimer_of_run start run, fun set_ elapsed => ?_⟩
  have past : next.phase.pastGrace = true := step.pastGrace (guard.past set_)
  have never : last.graceTimer = none := graceOver_of_run rest past elapsed
  refine ⟨never, fun later final after running stopped => ?_⟩
  have unlocks := (lockStep_of_step after).unlocks running stopped
  simpa [Event.unlocks, never] using unlocks

/-- A program with a grace time of five seconds starts in this state. -/
def graceState : SwaylockState := startState { SwaylockArgs.default with graceTime := 5 } .complete .opened

/-- The grace period starts once the session is locked. -/
def graceEvents : List Event :=
  [.start, .check true, .locked, .sweep, .pollDone, .check true, .readiness true, .daemonize true,
    .startGrace (some (9, 10)), .armHiddenCheck, .check true]

/-- After a lock signal has ended the grace period only the events of the lock itself end the lock. -/
theorem unlock_paths_lock_signal : ∃ state next : SwaylockState,
    state.graceTimer.isSome = true ∧ next.graceTimer = none ∧ next.runDisplay = true ∧
      ∀ later final, swaylock.machine.step next later final → final.runDisplay = false →
        later.event.isEnd = true := by
  obtain ⟨state, run, passed⟩ := swaylock.play_runs (graceEvents.map Event.obliged)
    (fun state => state.graceTimer.isSome && (swaylock.play state [Event.lockNow.obliged]).any fun next =>
      next.graceTimer.isNone && next.runDisplay) (by decide +kernel : (swaylock.play graceState _).any _ = true)
  rw [Bool.and_eq_true] at passed
  obtain ⟨next, path, ended⟩ := swaylock.play_runs _ _ passed.2
  rw [Bool.and_eq_true, Option.isNone_iff_eq_none] at ended
  obtain ⟨_, rest, moved⟩ := Machine.Run.last_step [] path
  cases rest
  have paths := unlock_paths (startState_initial _ _ _) run moved (.rest next)
  refine ⟨state, next, passed.1, ended.1, ended.2, fun later final after stopped => ?_⟩
  exact (paths.2.2 passed.1 ended.1).2 later final after ended.2 stopped

end SwaylockPlugin
