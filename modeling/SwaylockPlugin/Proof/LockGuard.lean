import SwaylockPlugin.Proof.LockSteps

namespace SwaylockPlugin

open Library

/-- The main function has left the wait for the lock in these phases. -/
def Phase.afterWait : Phase → Bool
  | .startup | .waitCheck | .waitPoll | .waitTimers => false
  | _ => true

/-- The wait for the lock goes on until the lock is there: its flag stays set and its flushes succeed. -/
def waitsForLock (state : SwaylockState) (occurrence : Occurrence) : Bool :=
  match occurrence.event with
  | .check flushed => state.phase != .waitCheck || state.locked || (state.runDisplay && flushed)
  | _ => true

/-- The lock is there after the wait and at each recorded deed. -/
structure LockGuard (core : LockCore) : Prop where
  waited : core.phase.afterWait = true → core.locked = true
  deeds : ∀ record ∈ core.deeds, record.locked = true

theorem LockGuard.does {core : LockCore} (guard : LockGuard core) (after : core.phase.afterWait = true)
    (deed : Deed) (phase : Phase) : LockGuard { core.does deed with phase := phase } where
  waited _ := guard.waited after
  deeds record member := by
    rcases List.mem_append.mp member with before | now
    · exact guard.deeds record before
    · rw [List.mem_singleton.mp now]
      exact guard.waited after

theorem LockGuard.step {state : SwaylockState} {event : Event} {core : LockCore} {env : Environment}
    (guard : LockGuard state.lockCore) (waits : waitsForLock state ⟨event, env⟩ = true)
    (step : LockStep state event core) : LockGuard core := by
  have after {phase : Phase} (at_ : state.phase = phase) (late : phase.afterWait = true) :
      state.lockCore.phase.afterWait = true := by
    rw [show state.lockCore.phase = phase from at_]
    exact late
  cases step with
  | keeps => exact guard
  | unlockedByInput => exact ⟨guard.waited, guard.deeds⟩
  | ended => exact ⟨guard.waited, guard.deeds⟩
  | graceOver => exact ⟨guard.waited, guard.deeds⟩
  | locked => exact ⟨fun _ => rfl, guard.deeds⟩
  | swept polling =>
      refine ⟨fun late => ?_, guard.deeds⟩
      by_cases waiting : state.phase = .waitPoll
      · simp [waiting, Phase.afterWait] at late
      · have running : state.phase = .runPoll := by simpa [SwaylockState.polling, waiting] using polling
        exact guard.waited (after running rfl)
  | polled expiring =>
      refine ⟨fun late => ?_, guard.deeds⟩
      by_cases waiting : state.phase = .waitTimers
      · simp [waiting, Phase.afterWait] at late
      · have running : state.phase = .runTimers := by simpa [SwaylockState.expiring, waiting] using expiring
        exact guard.waited (after running rfl)
  | started => exact ⟨fun late => (by cases late), guard.deeds⟩
  | waits => exact ⟨fun late => (by cases late), guard.deeds⟩
  | @waited flushed waiting left =>
      refine ⟨fun _ => ?_, guard.deeds⟩
      change state.locked = true
      by_contra unlocked
      have held : state.locked = false := by simpa using unlocked
      have goes : state.runDisplay = true ∧ flushed = true := by
        simpa [waitsForLock, waiting, held] using waits
      rw [held, goes.1, goes.2] at left
      simp at left
  | runs at_ => exact ⟨fun _ => guard.waited (after at_ rfl), guard.deeds⟩
  | ran at_ => exact ⟨fun _ => guard.waited (after at_ rfl), guard.deeds⟩
  | ready _ at_ => exact guard.does (after at_ rfl) _ _
  | notReady _ at_ => exact ⟨fun _ => guard.waited (after at_ rfl), guard.deeds⟩
  | released _ at_ => exact guard.does (after at_ rfl) _ _
  | foreground _ at_ => exact ⟨fun _ => guard.waited (after at_ rfl), guard.deeds⟩
  | grace _ _ at_ =>
      have done := guard.does (after at_ rfl) .graceStarted .hiddenCheck
      exact ⟨done.waited, done.deeds⟩
  | noGrace _ at_ => exact ⟨fun _ => guard.waited (after at_ rfl), guard.deeds⟩
  | armed at_ => exact ⟨fun _ => guard.waited (after at_ rfl), guard.deeds⟩
  | resumed at_ => exact ⟨fun _ => guard.waited (after at_ rfl), guard.deeds⟩
  | unlocked at_ => exact guard.does (after at_ rfl) _ _

theorem LockGuard.initial {state : SwaylockState} (start : InitialState state) : LockGuard state.lockCore where
  waited late := by
    change state.phase.afterWait = true at late
    rw [start.main.1] at late
    cases late
  deeds record member := by
    change record ∈ state.deeds at member
    rw [start.main.2] at member
    cases member

/-- Every deed is done under the lock in a run that waits for it. -/
theorem deeds_locked {state : SwaylockState}
    (reachable : (swaylock.machine.guarded waitsForLock).Reachable state) :
    ∀ record ∈ state.deeds, record.locked = true := by
  have guard : LockGuard state.lockCore := by
    refine reachable.invariant (fun state => LockGuard state.lockCore) ?_ ?_
    · exact fun _ start => .initial start
    · exact fun _ occurrence _ guard moved => guard.step moved.2 (lockStep_of_step moved.1)
  exact guard.deeds

/-- A run that is locked in time writes its readiness and unlocks under the lock. -/
theorem deeds_locked_in_time : ∃ state : SwaylockState, state.deeds.length = 2 ∧
    ∀ record ∈ state.deeds, record.locked = true := by
  obtain ⟨state, reachable, done⟩ := swaylock.play_guarded waitsForLock
    ([Event.start, .check true, .locked, .sweep, .pollDone, .check true, .readiness true, .daemonize true,
      .startGrace none, .armHiddenCheck, .check true, .terminate, .sweep, .pollDone, .check true, .resume,
      .unlock].map Event.obliged)
    (fun state => state.deeds.length == 2)
    (startState_initial { SwaylockArgs.default with readyFd := 8 } .complete .opened) (by decide +kernel)
  exact ⟨state, by simpa using done, deeds_locked reachable⟩

/-- A signal that arrives before the lock makes the program unlock a session that it never locked. -/
theorem deeds_unlocked_after_early_signal :
    ¬ ∀ state, swaylock.machine.Reachable state → ∀ record ∈ state.deeds, record.locked = true := by
  intro always
  obtain ⟨state, reachable, unlocked⟩ := swaylock.play_reachable
    ([Event.start, .check true, .terminate, .sweep, .pollDone, .check true, .readiness true, .daemonize true,
      .startGrace none, .armHiddenCheck, .check true, .resume, .unlock].map Event.obliged)
    (fun state => state.deeds.any fun record => !record.locked)
    (startState_initial .default .complete .opened) (by decide +kernel)
  obtain ⟨record, member, early⟩ := List.any_eq_true.mp unlocked
  rw [always state reachable record member] at early
  cases early

end SwaylockPlugin
