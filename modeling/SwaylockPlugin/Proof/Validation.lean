import SwaylockPlugin.Proof.LockSteps

namespace SwaylockPlugin

open Library

/-- The authentication core holds the state of the indicator and the counts of the backend. -/
structure AuthCore where
  authState : AuthState
  comm : Comm

/-- The authentication core of a state forgets everything that does not decide a submission. -/
def SwaylockState.authCore (state : SwaylockState) : AuthCore := ⟨state.authState, state.comm⟩

/-- A request was written in full. -/
def Comm.send (comm : Comm) : Comm := { comm with requests := comm.requests + 1 }

/-- A reply was read. -/
def Comm.receive (comm : Comm) : Comm := { comm with replies := comm.replies + 1 }

/-- A key changes the authentication core only by a submission. -/
inductive KeyStep (core : AuthCore) : AuthCore → Prop
  | keeps : KeyStep core core
  | submitted : core.authState ≠ .validating → KeyStep core ⟨.validating, core.comm.send⟩
  | notWritten : core.authState ≠ .validating → KeyStep core ⟨.invalid, core.comm⟩

/-- A reply of the backend and the idle timer settle an authentication. -/
def Event.settles (state : SwaylockState) : Event → Bool
  | .timer id _ => state.scene.eventloop.due state.scene.clock id == some .setAuthIdle
  | .commReply _ => true
  | _ => false

/-- An event changes the authentication core in one of these ways. -/
inductive AuthStep (state : SwaylockState) : Event → AuthCore → Prop
  | key {event : Event} {core : AuthCore} (other : event.settles state = false) :
      KeyStep state.authCore core → AuthStep state event core
  | idled {timer : TimerId} (result : InputResult) :
      state.scene.eventloop.due state.scene.clock timer = some .setAuthIdle →
      AuthStep state (.timer timer result) ⟨.idle, state.comm⟩
  | refused : 0 < state.comm.outstanding → AuthStep state (.commReply false) ⟨.invalid, state.comm.receive⟩
  | accepted : 0 < state.comm.outstanding →
      AuthStep state (.commReply true) ⟨state.authState, state.comm.receive⟩

theorem AuthStep.keeps {state : SwaylockState} {event : Event} (other : event.settles state = false) :
    AuthStep state event state.authCore :=
  .key other .keeps

theorem submitPassword_keyStep (state : SwaylockState) (written : Bool) :
    KeyStep state.authCore (submitPassword state written).authCore := by
  unfold submitPassword
  split
  · exact .keeps
  · split
    · exact .keeps
    · rename_i busy
      have ready : state.authState ≠ .validating := by simpa using busy
      cases written with
      | false => exact .notWritten ready
      | true => exact .submitted ready

theorem eraseByKey_authCore (state : SwaylockState) (random : Nat) :
    (eraseByKey state random).authCore = state.authCore := by
  unfold eraseByKey
  split
  · rfl
  · dsimp only
    split <;> rfl

theorem appendByKey_authCore (state : SwaylockState) (codepoint : UInt32) (random : Nat) :
    (appendByKey state codepoint random).authCore = state.authCore := by
  unfold appendByKey
  split <;> rfl

theorem swaylockHandleKey_keyStep (state : SwaylockState) (keysym : Keysym) (codepoint : UInt32)
    (random : Nat) (written : Bool) :
    KeyStep state.authCore (swaylockHandleKey state keysym codepoint random written).authCore := by
  refine swaylockHandleKey_cases (fun next => KeyStep state.authCore next.authCore) ?_ ?_ ?_ ?_ ?_ keysym
  · exact submitPassword_keyStep state written
  · rw [eraseByKey_authCore]
    exact .keeps
  · exact .keeps
  · exact .keeps
  · rw [appendByKey_authCore]
    exact .keeps

theorem armRepeat_authCore (state : SwaylockState) (id : SeatId) (pressed : Bool) (sym codepoint : UInt32) :
    Ensures (armRepeat state id pressed sym codepoint) fun next => next.authCore = state.authCore := by
  refine .read fun seat _ => ?_
  split
  · exact .pure rfl
  · exact .pure rfl

theorem keyboardKey_keyStep (state : SwaylockState) (id : SeatId) (pressed : Bool) (sym codepoint : UInt32)
    (random : Nat) (written : Bool) :
    Ensures (keyboardKey state id pressed sym codepoint random written) fun next =>
      KeyStep state.authCore next.authCore := by
  unfold keyboardKey
  split
  · exact .pure .keeps
  · split
    · exact .pure .keeps
    · have handled : KeyStep state.authCore
          (if pressed then swaylockHandleKey state (.ofCode sym) codepoint random written else state).authCore := by
        split
        · exact swaylockHandleKey_keyStep state _ _ _ _
        · exact .keeps
      refine .via (fun next => KeyStep state.authCore next.authCore) (.read fun _ _ => .pure handled) ?_
      intro stopped step
      refine (armRepeat_authCore stopped id pressed sym codepoint).weaken fun next same => ?_
      rw [same]
      exact step

theorem keyboardRepeat_keyStep (state : SwaylockState) (id : SeatId) (random : Nat) (written : Bool) :
    Ensures (keyboardRepeat state id random written) fun next => KeyStep state.authCore next.authCore := by
  have handled (armed : SwaylockState) (same : armed.authCore = state.authCore) (keysym : Keysym)
      (codepoint : UInt32) :
      KeyStep state.authCore (swaylockHandleKey armed keysym codepoint random written).authCore := by
    rw [← same]
    exact swaylockHandleKey_keyStep armed keysym codepoint random written
  refine .read fun record _ => .pure (handled _ ?_ _ _)
  rfl

theorem dispatchTimer_authStep (state : SwaylockState) (env : Environment) (timer : TimerId)
    (result : InputResult) :
    Ensures (dispatchTimer state env timer result) fun next =>
      AuthStep state (.timer timer result) next.authCore := by
  refine .read fun callback due => ?_
  refine .via (fun next => AuthStep state (.timer timer result) next.authCore) ?_ fun middle step => .pure step
  have other (different : callback ≠ .setAuthIdle) : (Event.timer timer result).settles state = false := by
    simp only [Event.settles, due, beq_eq_false_iff_ne, ne_eq, Option.some.injEq]
    exact different
  cases callback with
  | setInputIdle => exact .pure (.keeps (other nofun))
  | setAuthIdle => exact .pure (.idled result due)
  | clearPassword => exact .pure (.keeps (other nofun))
  | hiddenCheckTimeout => exact .pure (.keeps (other nofun))
  | graceTimeout => exact .pure (.keeps (other nofun))
  | clientConnectionTimeout client =>
      exact .via (fun _ => True) (fun _ _ => trivial) fun _ _ => .pure (.keeps (other nofun))
  | outputRedrawTimeout output =>
      exact .via (fun _ => True) (fun _ _ => trivial) fun _ _ => .pure (.keeps (other nofun))
  | keyboardRepeat seat =>
      exact (keyboardRepeat_keyStep state seat _ _).weaken fun _ step => .key (other nofun) step

theorem authStep_of_step {state next : SwaylockState} {occurrence : Occurrence}
    (moved : swaylock.machine.step state occurrence next) :
    AuthStep state occurrence.event next.authCore := by
  obtain ⟨allowed, computed⟩ := moved
  obtain ⟨event, env⟩ := occurrence
  change enabled state ⟨event, env⟩ = true at allowed
  change handleEvent state env event = .ok next at computed
  revert computed
  suffices holds : Ensures (handleEvent state env event) fun next => AuthStep state event next.authCore from
    holds next
  cases event with
  | tick now => exact .pure (.keeps rfl)
  | scene event => exact .via (fun _ => True) (fun _ _ => trivial) fun _ _ => .pure (.keeps rfl)
  | timer timer result => exact dispatchTimer_authStep state env timer result
  | seatAdded => exact .pure (.keeps rfl)
  | seatCapabilities seat pointer keyboard => exact .read fun _ _ => .pure (.keeps rfl)
  | keymap loaded => exact .pure (.keeps rfl)
  | key seat pressed sym codepoint result =>
      exact (keyboardKey_keyStep state seat pressed sym codepoint _ _).weaken fun _ step => .key rfl step
  | keyboardLeave seat => exact .read fun _ _ => .pure (.keeps rfl)
  | modifiers layoutSame capsLock control =>
      refine .pure ?_
      unfold keyboardModifiers
      split
      · exact .keeps rfl
      · dsimp only
        split <;> exact .keeps rfl
  | repeatInfo seat rate delay => exact .read fun _ _ => .pure (.keeps rfl)
  | pointerEnter seat x y =>
      refine .read fun _ _ => ?_
      split
      · exact .pure (.keeps rfl)
      · exact .pure (.keeps rfl)
  | pointerMotion seat x y =>
      refine .read fun record _ => ?_
      split
      · exact .pure (.keeps rfl)
      · refine .pure ?_
        split <;> exact .keeps rfl
  | commReply success =>
      have due : 0 < state.comm.outstanding := by
        simp only [enabled, Bool.and_eq_true, decide_eq_true_eq] at allowed
        exact allowed.2
      cases success with
      | false => exact .pure (.refused due)
      | true => exact .pure (.accepted due)
  | lockNow =>
      refine .pure ?_
      unfold lockIn
      split <;> exact .keeps rfl
  | sleepNotice =>
      refine .pure ?_
      unfold sleepIn
      split <;> exact .keeps rfl
  | sweep => exact .pure (.keeps rfl)
  | start =>
      exact .via (fun _ => True) (fun _ _ => trivial) fun _ _ =>
        .via (fun _ => True) (fun _ _ => trivial) fun _ _ => .pure (.keeps rfl)
  | startGrace watcher =>
      refine .pure ?_
      unfold startGracePeriod
      split
      · cases watcher <;> exact .keeps rfl
      · exact .keeps rfl
  | armHiddenCheck => exact .pure (.keeps rfl)
  | resume => exact .pure (.keeps rfl)
  | _ =>
      refine (handleEvent_plain state env rfl).weaken ?_
      rintro _ ⟨_, _, _, _, _, rfl⟩
      exact .keeps rfl

/-- At most one request is outstanding, and one is while the password is validated. -/
structure SingleRequest (core : AuthCore) : Prop where
  bounded : core.comm.outstanding ≤ 1
  validating : core.authState = .validating ↔ core.comm.outstanding = 1

/-- No idle timer of an earlier attempt fires during a validation, and no password is accepted. -/
def undisturbed (state : SwaylockState) (occurrence : Occurrence) : Bool :=
  match occurrence.event with
  | .timer timer _ =>
      state.scene.eventloop.due state.scene.clock timer != some .setAuthIdle || state.authState != .validating
  | .commReply success => !success
  | _ => true

/-- The backend never replied more often than it was asked. -/
def Comm.Answered (comm : Comm) : Prop := comm.replies ≤ comm.requests

theorem AuthStep.answered {state : SwaylockState} {event : Event} {core : AuthCore}
    (answered : state.comm.Answered) (step : AuthStep state event core) : core.comm.Answered := by
  have kept : state.authCore.comm.Answered := answered
  unfold Comm.Answered at *
  cases step with
  | key _ key =>
      cases key with
      | keeps => exact kept
      | submitted => exact Nat.le_succ_of_le kept
      | notWritten => exact kept
  | idled => exact kept
  | refused due =>
      simp only [Comm.outstanding] at due
      simp only [Comm.receive]
      omega
  | accepted due =>
      simp only [Comm.outstanding] at due
      simp only [Comm.receive]
      omega

theorem AuthStep.single_iff {state : SwaylockState} {occurrence : Occurrence} {core : AuthCore}
    (answered : state.comm.Answered) (single : SingleRequest state.authCore)
    (step : AuthStep state occurrence.event core) :
    SingleRequest core ↔ undisturbed state occurrence = true := by
  obtain ⟨event, env⟩ := occurrence
  obtain ⟨bounded, validating⟩ := single
  change state.comm.outstanding ≤ 1 at bounded
  change state.authState = .validating ↔ state.comm.outstanding = 1 at validating
  unfold Comm.Answered at answered
  cases step with
  | key other key =>
      have calm : undisturbed state ⟨event, env⟩ = true := by
        cases event <;> simp_all [undisturbed, Event.settles]
      refine ⟨fun _ => calm, fun _ => ?_⟩
      cases key with
      | keeps => exact ⟨bounded, validating⟩
      | submitted ready =>
          have idle : state.comm.outstanding ≠ 1 := fun one => ready (validating.mpr one)
          have one : state.comm.send.outstanding = 1 := by
            simp only [Comm.outstanding, Comm.send] at *
            omega
          exact ⟨Nat.le_of_eq one, fun _ => one, fun _ => rfl⟩
      | notWritten ready =>
          have idle : state.comm.outstanding ≠ 1 := fun one => ready (validating.mpr one)
          exact ⟨bounded, nofun, fun one => absurd one idle⟩
  | @idled timer result due =>
      have calm : undisturbed state ⟨.timer timer result, env⟩ = true ↔ state.authState ≠ .validating := by
        simp [undisturbed, due]
      refine Iff.trans ⟨fun kept => ?_, fun ready => ?_⟩ calm.symm
      · exact fun busy => nomatch kept.validating.mpr (validating.mp busy)
      · exact ⟨bounded, nofun, fun one => absurd (validating.mpr one) ready⟩
  | refused due =>
      have none_ : state.comm.receive.outstanding = 0 := by
        simp only [Comm.outstanding, Comm.receive] at *
        omega
      refine ⟨fun _ => rfl, fun _ => ⟨by simp [none_], nofun, fun one => ?_⟩⟩
      exact absurd (none_.symm.trans one) (by decide)
  | accepted due =>
      have none_ : state.comm.receive.outstanding = 0 := by
        simp only [Comm.outstanding, Comm.receive] at *
        omega
      refine ⟨fun kept => ?_, nofun⟩
      have busy : state.authState = .validating := validating.mpr (by omega)
      exact absurd (none_.symm.trans (kept.validating.mp busy)) (by decide)

theorem answered_of_reachable {state : SwaylockState} (reachable : swaylock.machine.Reachable state) :
    state.comm.Answered := by
  refine reachable.invariant (fun state => state.comm.Answered) ?_ ?_
  · intro state start
    have replies : state.comm.replies = 0 := by rw [start.comm.1]
    exact Nat.le_trans (Nat.le_of_eq replies) (Nat.zero_le _)
  · exact fun _ _ _ answered moved => (authStep_of_step moved).answered answered

/-- A single request is outstanding in every undisturbed run, and the next step keeps it so exactly where it
is undisturbed. -/
theorem single_request {state : SwaylockState}
    (reachable : (swaylock.machine.guarded undisturbed).Reachable state) :
    SingleRequest state.authCore ∧ ∀ occurrence next, swaylock.machine.step state occurrence next →
      (SingleRequest next.authCore ↔ undisturbed state occurrence = true) := by
  have single : SingleRequest state.authCore := by
    refine reachable.invariant_under (fun state => state.comm.Answered)
      (fun state => SingleRequest state.authCore) ?_ ?_ ?_
    · exact fun _ reached => answered_of_reachable reached.of_restrict
    · intro state start
      have idle : state.authCore = ⟨.idle, ⟨0, 0⟩⟩ := by
        rw [SwaylockState.authCore, start.indicator.1, start.comm.1]
      rw [idle]
      exact ⟨by decide, by decide⟩
    · exact fun _ _ _ answered single moved => ((authStep_of_step moved.1).single_iff answered single).mpr moved.2
  refine ⟨single, fun occurrence next moved => ?_⟩
  exact (authStep_of_step moved).single_iff (answered_of_reachable reachable.of_restrict) single

/-- A password is submitted after a refused one by these events. -/
def secondAttempt : List Event :=
  [.start, .check true, .seatAdded, .seatCapabilities 0 true true, .keymap true,
    .key 0 true 0xff0d 0 ⟨0, true⟩, .commReply false, .key 0 true 0xff0d 0 ⟨0, true⟩]

/-- The second attempt of an undisturbed run is the only request outstanding. -/
theorem single_request_second_attempt : ∃ state : SwaylockState,
    state.comm = ⟨2, 1⟩ ∧ SingleRequest state.authCore := by
  obtain ⟨state, reachable, done⟩ := swaylock.play_guarded undisturbed (secondAttempt.map Event.obliged)
    (fun state => decide (state.comm = ⟨2, 1⟩))
    (startState_initial .default .complete .opened) (by decide +kernel)
  exact ⟨state, of_decide_eq_true done, (single_request reachable).1⟩

/-- The idle timer of the refused password fires during the second attempt and admits a third request. -/
theorem two_requests_after_stale_timer :
    ¬ ∀ state, swaylock.machine.Reachable state → SingleRequest state.authCore := by
  intro always
  obtain ⟨state, reachable, queued⟩ := swaylock.play_reachable
    ((secondAttempt ++ [Event.tick ⟨4, 0⟩, .sweep, .timer 1 ⟨0, true⟩, .pollDone, .check true,
      .key 0 true 0xff0d 0 ⟨0, true⟩]).map Event.obliged)
    (fun state => decide (state.comm.outstanding = 2))
    (startState_initial .default .complete .opened) (by decide +kernel)
  have bounded : state.comm.outstanding ≤ 1 := (always state reachable).bounded
  rw [of_decide_eq_true queued] at bounded
  exact absurd bounded (by decide)

end SwaylockPlugin
