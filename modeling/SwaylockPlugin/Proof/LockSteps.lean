import SwaylockPlugin.Construction.Program

namespace SwaylockPlugin

open Library

/-- The lock core holds the fields that decide when the session is locked and unlocked. -/
structure LockCore where
  runDisplay : Bool
  locked : Bool
  graceTimer : Option TimerId
  sleepCommW : Int
  phase : Phase
  deeds : List DeedRecord

/-- The lock core of a state forgets the scene, the indicator and the devices. -/
def SwaylockState.lockCore (state : SwaylockState) : LockCore where
  runDisplay := state.runDisplay
  locked := state.locked
  graceTimer := state.graceTimer
  sleepCommW := state.sleepCommW
  phase := state.phase
  deeds := state.deeds

/-- The main function records what it did and in which lock state. -/
def LockCore.does (core : LockCore) (deed : Deed) : LockCore :=
  { core with deeds := core.deeds ++ [⟨deed, core.locked⟩] }

/-- The end of the grace period closes the pipes to the sleep watcher. -/
def LockCore.endGrace (core : LockCore) : LockCore := { core with graceTimer := none, sleepCommW := -1 }

/-- These events come from a keyboard key that is pressed or from a pointer that moves or clicks. -/
def Event.isInput : Event → Bool
  | .key _ pressed _ _ _ => pressed
  | .pointerMotion _ _ _ => true
  | .pointerButton _ => true
  | _ => false

/-- These events end the lock for good, whatever the grace period. -/
def Event.isEnd : Event → Bool
  | .displayFailed => true
  | .terminate => true
  | .commReply success => success
  | _ => false

/-- An event changes the lock core in one of these ways. -/
inductive LockStep (state : SwaylockState) : Event → LockCore → Prop
  | keeps (event : Event) : LockStep state event state.lockCore
  | unlockedByInput {event : Event} (input : event.isInput = true) (grace : state.graceTimer.isSome = true) :
      LockStep state event { state.lockCore with runDisplay := false }
  | ended {event : Event} (ends : event.isEnd = true) :
      LockStep state event { state.lockCore with runDisplay := false }
  | graceOver (event : Event) : LockStep state event state.lockCore.endGrace
  | locked : LockStep state .locked { state.lockCore with locked := true }
  | swept : state.polling = true →
      LockStep state .sweep { state.lockCore with
        phase := if state.phase = .waitPoll then .waitTimers else .runTimers }
  | polled : state.expiring = true →
      LockStep state .pollDone { state.lockCore with
        phase := if state.phase = .waitTimers then .waitCheck else .runCheck }
  | started : state.phase = .startup →
      LockStep state .start { state.lockCore with
        runDisplay := true
        sleepCommW := -1
        phase := .waitCheck }
  | waits {flushed : Bool} : state.phase = .waitCheck → state.locked = false → state.runDisplay = true →
      flushed = true → LockStep state (.check flushed) { state.lockCore with phase := .waitPoll }
  | waited {flushed : Bool} : state.phase = .waitCheck →
      state.locked = true ∨ state.runDisplay = false ∨ flushed = false →
      LockStep state (.check flushed) { state.lockCore with phase := .readiness }
  | runs {flushed : Bool} : state.phase = .runCheck →
      LockStep state (.check flushed) { state.lockCore with phase := .runPoll }
  | ran {flushed : Bool} : state.phase = .runCheck →
      LockStep state (.check flushed) { state.lockCore with phase := .resume }
  | ready (written : Bool) : state.phase = .readiness →
      LockStep state (.readiness written) { state.lockCore.does .readinessWritten with phase := .daemonize }
  | notReady (written : Bool) : state.phase = .readiness →
      LockStep state (.readiness written) { state.lockCore with phase := .daemonize }
  | released (succeeded : Bool) : state.phase = .daemonize →
      LockStep state (.daemonize succeeded) { state.lockCore.does .parentReleased with phase := .grace }
  | foreground (succeeded : Bool) : state.phase = .daemonize →
      LockStep state (.daemonize succeeded) { state.lockCore with phase := .grace }
  | grace (pipes : Int × Int) (timer : TimerId) : state.phase = .grace →
      0 < state.scene.args.graceTime → 0 ≤ pipes.2 →
      LockStep state (.startGrace (some pipes)) { state.lockCore.does .graceStarted with
        graceTimer := some timer
        sleepCommW := pipes.2
        phase := .hiddenCheck }
  | noGrace (watcher : Option (Int × Int)) : state.phase = .grace →
      LockStep state (.startGrace watcher) { state.lockCore with phase := .hiddenCheck }
  | armed : state.phase = .hiddenCheck →
      LockStep state .armHiddenCheck { state.lockCore with phase := .runCheck }
  | resumed : state.phase = .resume → LockStep state .resume { state.lockCore with phase := .unlock }
  | unlocked : state.phase = .unlock →
      LockStep state .unlock { state.lockCore.does .unlocked with phase := .roundtrip }

namespace SwaylockState

@[simp] theorem damage_lockCore (state : SwaylockState) : state.damage.lockCore = state.lockCore := rfl

@[simp] theorem removeTimer?_lockCore (state : SwaylockState) (timer : Option TimerId) :
    (state.removeTimer? timer).lockCore = state.lockCore := rfl

@[simp] theorem addTimer_lockCore (state : SwaylockState) (ms : Int) (callback : TimerCallback) :
    (state.addTimer ms callback).1.lockCore = state.lockCore := rfl

@[simp] theorem setSeat_lockCore (state : SwaylockState) (id : SeatId)
    (change : SwaylockSeat → SwaylockSeat) : (state.setSeat id change).lockCore = state.lockCore := rfl

end SwaylockState

theorem submitPassword_lockCore (state : SwaylockState) (written : Bool) :
    (submitPassword state written).lockCore = state.lockCore := by
  unfold submitPassword
  split
  · rfl
  · split
    · rfl
    · cases written <;> rfl

theorem clearByKey_lockCore (state : SwaylockState) : (clearByKey state).lockCore = state.lockCore := rfl

theorem eraseByKey_lockCore (state : SwaylockState) (random : Nat) :
    (eraseByKey state random).lockCore = state.lockCore := by
  unfold eraseByKey
  split
  · rfl
  · dsimp only
    split <;> rfl

theorem appendByKey_lockCore (state : SwaylockState) (codepoint : UInt32) (random : Nat) :
    (appendByKey state codepoint random).lockCore = state.lockCore := by
  unfold appendByKey
  split <;> rfl

theorem swaylockHandleKey_cases (Holds : SwaylockState → Prop) {state : SwaylockState}
    {codepoint : UInt32} {random : Nat} {written : Bool}
    (submits : Holds (submitPassword state written)) (erases : Holds (eraseByKey state random))
    (clears : Holds (clearByKey state)) (touches : Holds (touchByKey state))
    (appends : Holds (appendByKey state codepoint random)) (keysym : Keysym) :
    Holds (swaylockHandleKey state keysym codepoint random written) := by
  unfold swaylockHandleKey
  split
  case h_3 | h_4 => exact erases
  case h_5 => exact clears
  case h_17 | h_18 | h_19 =>
    split
    · exact submits
    · exact appends
  case h_20 | h_21 =>
    split
    · exact clears
    · exact appends
  case h_22 => exact appends
  case h_1 | h_2 => exact submits
  all_goals exact touches

theorem swaylockHandleKey_lockCore (state : SwaylockState) (keysym : Keysym) (codepoint : UInt32)
    (random : Nat) (written : Bool) :
    (swaylockHandleKey state keysym codepoint random written).lockCore = state.lockCore := by
  refine swaylockHandleKey_cases (fun next => next.lockCore = state.lockCore) ?_ ?_ ?_ ?_ ?_ keysym
  · exact submitPassword_lockCore state written
  · exact eraseByKey_lockCore state random
  · exact clearByKey_lockCore state
  · rfl
  · exact appendByKey_lockCore state codepoint random

theorem stopRepeat_lockCore (state : SwaylockState) (id : SeatId) :
    Ensures (stopRepeat state id) fun next => next.lockCore = state.lockCore :=
  .read fun _ _ => .pure rfl

theorem armRepeat_lockCore (state : SwaylockState) (id : SeatId) (pressed : Bool) (sym codepoint : UInt32) :
    Ensures (armRepeat state id pressed sym codepoint) fun next => next.lockCore = state.lockCore := by
  refine .read fun seat _ => ?_
  split
  · exact .pure rfl
  · exact .pure rfl

theorem keyboardKey_lockStep (state : SwaylockState) (id : SeatId) (pressed : Bool) (sym codepoint : UInt32)
    (result : InputResult) :
    Ensures (keyboardKey state id pressed sym codepoint result.random result.written) fun next =>
      LockStep state (.key id pressed sym codepoint result) next.lockCore := by
  unfold keyboardKey
  split
  · exact .pure (.keeps _)
  · split
    · rename_i grace
      rw [Bool.and_eq_true] at grace
      exact .pure (.unlockedByInput grace.1 grace.2)
    · have handled : (if pressed then swaylockHandleKey state (.ofCode sym) codepoint result.random result.written
          else state).lockCore = state.lockCore := by
        split
        · exact swaylockHandleKey_lockCore state _ _ _ _
        · rfl
      refine (stopRepeat_lockCore _ id).bind fun stopped same => ?_
      refine (armRepeat_lockCore stopped id pressed sym codepoint).weaken fun next sameAgain => ?_
      rw [sameAgain, same, handled]
      exact .keeps _

theorem wlPointerMotion_lockStep (state : SwaylockState) (id : SeatId) (x y : WlFixed) :
    Ensures (wlPointerMotion state id x y) fun next => LockStep state (.pointerMotion id x y) next.lockCore := by
  refine .read fun seat _ => ?_
  split
  · exact .pure (.keeps _)
  · rename_i grace
    have present := Option.isSome_iff_ne_none.mpr (by simpa using grace)
    refine .pure ?_
    split
    · exact .unlockedByInput rfl present
    · exact .keeps _

theorem wlPointerButton_lockStep (state : SwaylockState) (id : SeatId) :
    LockStep state (.pointerButton id) (wlPointerButton state).lockCore := by
  unfold wlPointerButton
  split
  · rename_i grace
    exact .unlockedByInput rfl grace
  · exact .keeps _

theorem runTimer_lockCore (state : SwaylockState) (env : Environment) (result : InputResult)
    (callback : TimerCallback) :
    Ensures (runTimer state env result callback) fun next =>
      next.lockCore = state.lockCore ∨ next.lockCore = state.lockCore.endGrace := by
  cases callback with
  | setInputIdle => exact .pure (.inl rfl)
  | setAuthIdle => exact .pure (.inl rfl)
  | clearPassword => exact .pure (.inl rfl)
  | hiddenCheckTimeout => exact .pure (.inl rfl)
  | graceTimeout => exact .pure (.inr rfl)
  | clientConnectionTimeout client => exact .via (fun _ => True) (fun _ _ => trivial) fun _ _ => .pure (.inl rfl)
  | outputRedrawTimeout output => exact .via (fun _ => True) (fun _ _ => trivial) fun _ _ => .pure (.inl rfl)
  | keyboardRepeat seat =>
      refine .read fun record _ => .pure (.inl ?_)
      rw [swaylockHandleKey_lockCore]
      rfl

theorem dispatchTimer_lockStep (state : SwaylockState) (env : Environment) (timer : TimerId)
    (result : InputResult) :
    Ensures (dispatchTimer state env timer result) fun next =>
      LockStep state (.timer timer result) next.lockCore := by
  refine .read fun callback _ => ?_
  refine (runTimer_lockCore state env result callback).bind fun middle outcome => .pure ?_
  change LockStep state _ middle.lockCore
  rcases outcome with same | elapsed
  · rw [same]
    exact .keeps _
  · rw [elapsed]
    exact .graceOver _

theorem commIn_lockStep (state : SwaylockState) (success : Bool) :
    LockStep state (.commReply success) (commIn state success).lockCore := by
  cases success with
  | false => exact .keeps _
  | true => exact .ended rfl

theorem lockIn_lockStep (state : SwaylockState) : LockStep state .lockNow (lockIn state).lockCore := by
  unfold lockIn
  split
  · exact .keeps _
  · exact .graceOver _

theorem sleepIn_lockStep (state : SwaylockState) : LockStep state .sleepNotice (sleepIn state).lockCore := by
  unfold sleepIn
  split
  · exact .keeps _
  · exact .graceOver _

theorem checkLoop_lockStep (state : SwaylockState) (flushed : Bool)
    (checking : state.phase = .waitCheck ∨ state.phase = .runCheck) :
    LockStep state (.check flushed) (checkLoop state flushed).lockCore := by
  unfold checkLoop
  rcases checking with waiting | running
  · rw [waiting]
    dsimp only
    split
    · rename_i goes
      simp only [Bool.and_eq_true, Bool.not_eq_true'] at goes
      exact .waits waiting goes.1.1 goes.1.2 goes.2
    · rename_i leaves
      refine .waited waiting ?_
      cases locked : state.locked with
      | true => exact .inl rfl
      | false =>
          cases running : state.runDisplay with
          | false => exact .inr (.inl rfl)
          | true =>
              cases flushed with
              | false => exact .inr (.inr rfl)
              | true => exact absurd (by rw [locked, running]; rfl) leaves
  · rw [running]
    dsimp only
    split
    · exact .runs running
    · exact .ran running

theorem writeReadiness_lockStep (state : SwaylockState) (written : Bool) (ready : state.phase = .readiness) :
    Ensures (writeReadiness state written) fun next => LockStep state (.readiness written) next.lockCore := by
  unfold writeReadiness
  split
  · split
    · exact .pure (.ready written ready)
    · exact .throw
  · exact .pure (.notReady written ready)

theorem releaseParent_lockStep (state : SwaylockState) (succeeded : Bool) (due : state.phase = .daemonize) :
    Ensures (releaseParent state succeeded) fun next => LockStep state (.daemonize succeeded) next.lockCore := by
  unfold releaseParent
  split
  · split
    · exact .pure (.released succeeded due)
    · exact .throw
  · exact .pure (.foreground succeeded due)

theorem startGracePeriod_lockStep (state : SwaylockState) (watcher : Option (Int × Int))
    (due : state.phase = .grace) (fresh : watcher.all (freshPipes state.scene.eventloop) = true) :
    LockStep state (.startGrace watcher) (startGracePeriod state watcher).lockCore := by
  unfold startGracePeriod
  split
  · rename_i positive
    cases watcher with
    | none => exact .noGrace none due
    | some pipes =>
        simp only [Option.all_some, freshPipes, Bool.and_eq_true, decide_eq_true_eq] at fresh
        exact .grace pipes _ due positive fresh.1.1.1.2
  · exact .noGrace watcher due

theorem withScene_lockStep {state : SwaylockState} {event : Event} (handler : Handled Scene) :
    Ensures (handler >>= fun scene => (return { state with scene := scene } : Handled SwaylockState))
      fun next => LockStep state event next.lockCore :=
  .via (fun _ => True) (fun _ _ => trivial) fun _ _ => .pure (.keeps _)

/-- These events touch no more than the lock, the deeds, the phase and the readiness descriptor. -/
def Event.plain : Event → Bool
  | .locked | .finished | .pointerButton _ | .displayFailed | .commHangup | .terminate | .pollDone => true
  | .check _ | .readiness _ | .daemonize _ | .unlock => true
  | _ => false

/-- A state goes on when only these fields of it change. -/
def GoesOn (first second : SwaylockState) : Prop :=
  ∃ fd runDisplay locked phase deeds, second = { first with
    scene := { first.scene with args := { first.scene.args with readyFd := fd } }
    runDisplay := runDisplay
    locked := locked
    phase := phase
    deeds := deeds }

theorem handleEvent_plain (state : SwaylockState) (env : Environment) {event : Event} (plain : event.plain = true) :
    Ensures (handleEvent state env event) (GoesOn state) := by
  cases event with
  | locked | displayFailed | terminate | pollDone | unlock => exact .pure ⟨_, _, _, _, _, rfl⟩
  | finished | commHangup => exact .throw
  | pointerButton seat =>
      refine .pure ?_
      unfold wlPointerButton
      split <;> exact ⟨_, _, _, _, _, rfl⟩
  | check flushed =>
      refine .pure ?_
      unfold checkLoop
      split <;> split <;> exact ⟨_, _, _, _, _, rfl⟩
  | readiness written =>
      change Ensures (writeReadiness state written) _
      unfold writeReadiness
      split
      · split
        · exact .pure ⟨_, _, _, _, _, rfl⟩
        · exact .throw
      · exact .pure ⟨_, _, _, _, _, rfl⟩
  | daemonize succeeded =>
      change Ensures (releaseParent state succeeded) _
      unfold releaseParent
      split
      · split
        · exact .pure ⟨_, _, _, _, _, rfl⟩
        · exact .throw
      · exact .pure ⟨_, _, _, _, _, rfl⟩
  | _ => cases plain

theorem startDisplay_lockStep (state : SwaylockState) (env : Environment) (due : state.phase = .startup) :
    Ensures (startDisplay state env) fun next => LockStep state .start next.lockCore := by
  refine .via (fun _ => True) (fun _ _ => trivial) fun surfaces _ => ?_
  exact .via (fun _ => True) (fun _ _ => trivial) fun started _ => .pure (.started due)

theorem lockStep_of_step {state next : SwaylockState} {occurrence : Occurrence}
    (moved : swaylock.machine.step state occurrence next) :
    LockStep state occurrence.event next.lockCore := by
  obtain ⟨allowed, computed⟩ := moved
  obtain ⟨event, env⟩ := occurrence
  change enabled state ⟨event, env⟩ = true at allowed
  change handleEvent state env event = .ok next at computed
  revert computed
  suffices holds : Ensures (handleEvent state env event) fun next => LockStep state event next.lockCore from
    holds next
  cases event with
  | tick now => exact .pure (.keeps _)
  | scene event => exact withScene_lockStep _
  | timer timer result => exact dispatchTimer_lockStep state env timer result
  | locked => exact .pure .locked
  | finished => exact .throw
  | seatAdded => exact .pure (.keeps _)
  | seatCapabilities seat pointer keyboard => exact .read fun _ _ => .pure (.keeps _)
  | keymap loaded => exact .pure (.keeps _)
  | key seat pressed sym codepoint result => exact keyboardKey_lockStep state seat pressed sym codepoint result
  | keyboardLeave seat => exact .read fun _ _ => .pure (.keeps _)
  | modifiers layoutSame capsLock control =>
      refine .pure ?_
      unfold keyboardModifiers
      split
      · exact .keeps _
      · dsimp only
        split <;> exact .keeps _
  | repeatInfo seat rate delay => exact .read fun _ _ => .pure (.keeps _)
  | pointerEnter seat x y =>
      refine .read fun _ _ => ?_
      split
      · exact .pure (.keeps _)
      · exact .pure (.keeps _)
  | pointerMotion seat x y => exact wlPointerMotion_lockStep state seat x y
  | pointerButton seat => exact .pure (wlPointerButton_lockStep state seat)
  | displayFailed => exact .pure (.ended rfl)
  | commReply success => exact .pure (commIn_lockStep state success)
  | commHangup => exact .throw
  | terminate => exact .pure (.ended rfl)
  | lockNow => exact .pure (lockIn_lockStep state)
  | sleepNotice => exact .pure (sleepIn_lockStep state)
  | sweep => exact .pure (.swept allowed)
  | pollDone => exact .pure (.polled allowed)
  | start => exact startDisplay_lockStep state env (by simpa [enabled] using allowed)
  | check flushed => exact .pure (checkLoop_lockStep state flushed (by simpa [enabled] using allowed))
  | readiness written => exact writeReadiness_lockStep state written (by simpa [enabled] using allowed)
  | daemonize succeeded => exact releaseParent_lockStep state succeeded (by simpa [enabled] using allowed)
  | startGrace watcher =>
      simp only [enabled, Bool.and_eq_true, beq_iff_eq] at allowed
      exact .pure (startGracePeriod_lockStep state watcher allowed.1 allowed.2)
  | armHiddenCheck => exact .pure (.armed (by simpa [enabled] using allowed))
  | resume => exact .pure (.resumed (by simpa [enabled] using allowed))
  | unlock => exact .pure (.unlocked (by simpa [enabled] using allowed))

namespace LockStep

variable {state : SwaylockState} {event : Event} {core : LockCore}

theorem startup (step : LockStep state event core) (back : core.phase = .startup) : state.phase = .startup := by
  cases step with
  | swept =>
      dsimp only at back
      split at back <;> cases back
  | polled =>
      dsimp only at back
      split at back <;> cases back
  | started at_ => exact at_
  | keeps => exact back
  | unlockedByInput => exact back
  | ended => exact back
  | graceOver => exact back
  | locked => exact back
  | _ => cases back

theorem expiring (step : LockStep state event core) (other : event ≠ .sweep)
    (expires : core.phase = .waitTimers ∨ core.phase = .runTimers) : state.expiring = true := by
  have kept (same : state.phase = .waitTimers ∨ state.phase = .runTimers) : state.expiring = true := by
    simpa [SwaylockState.expiring] using same
  cases step with
  | swept => exact absurd rfl other
  | polled => grind
  | keeps => exact kept expires
  | unlockedByInput => exact kept expires
  | ended => exact kept expires
  | graceOver => exact kept expires
  | locked => exact kept expires
  | _ => exact absurd expires (by simp)

theorem begun (step : LockStep state event core) (other : event ≠ .start) (at_ : state.phase = .startup) :
    core.phase = .startup := by
  have elsewhere {phase : Phase} (there : state.phase = phase) (apart : phase ≠ .startup) {goal : Prop} : goal :=
    absurd (there.symm.trans at_) apart
  cases step with
  | swept polling =>
      rw [SwaylockState.polling, at_] at polling
      cases polling
  | polled expiring =>
      rw [SwaylockState.expiring, at_] at expiring
      cases expiring
  | started => exact absurd rfl other
  | waits there => exact elsewhere there nofun
  | waited there => exact elsewhere there nofun
  | runs there => exact elsewhere there nofun
  | ran there => exact elsewhere there nofun
  | ready _ there => exact elsewhere there nofun
  | notReady _ there => exact elsewhere there nofun
  | released _ there => exact elsewhere there nofun
  | foreground _ there => exact elsewhere there nofun
  | grace _ _ there => exact elsewhere there nofun
  | noGrace _ there => exact elsewhere there nofun
  | armed there => exact elsewhere there nofun
  | resumed there => exact elsewhere there nofun
  | unlocked there => exact elsewhere there nofun
  | _ => exact at_

end LockStep

end SwaylockPlugin
