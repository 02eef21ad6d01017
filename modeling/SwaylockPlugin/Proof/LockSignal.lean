import SwaylockPlugin.Construction.LockSignal
import SwaylockPlugin.Proof.Polled

namespace SwaylockPlugin

open Library

/-- After the start the loop watches the pipe of SIGUSR2, which is no pipe of the sleep watcher. -/
structure LockWatch (state : SwaylockState) : Prop where
  startup : state.phase = .startup → state.scene.eventloop.fds = []
  aligned : state.scene.eventloop.fds.length = state.scene.eventloop.fdEvents.length
  foreign : state.phase ≠ .startup → state.scene.descriptors.sigusr2 ≠ state.sleepCommR
  watched : state.phase ≠ .startup → state.scene.eventloop.watches state.scene.descriptors.sigusr2 .lockIn = true

namespace LockWatch

variable {state next : SwaylockState} {event : Event}

theorem nested_apart (descriptors : Descriptors) : descriptors.sigusr2 ≠ descriptors.nested := by
  have distinct := descriptors.distinct
  simp only [List.nodup_cons, List.mem_cons, not_or] at distinct
  exact Ne.symm distinct.2.2.1.2.1

theorem opened (descriptors : Descriptors) : descriptors.sigusr2 ≠ -1 := by
  have valid := descriptors.valid descriptors.sigusr2 (by simp)
  omega

theorem quiet (watch : LockWatch state) (kept : PollKept state.scene next.scene)
    (descriptors : next.scene.descriptors = state.scene.descriptors)
    (pipe : next.sleepCommR = state.sleepCommR ∨ next.sleepCommR = -1)
    (back : next.phase = .startup → state.phase = .startup)
    (begun : next.phase ≠ .startup → state.phase ≠ .startup) : LockWatch next where
  startup at_ := by
    rw [kept.fds]
    exact watch.startup (back at_)
  aligned := by
    rw [kept.fds, watch.aligned]
    cases kept with
    | same _ events => rw [events]
    | closed _ events => rw [events, Loop.markFd_length]
  foreign away := by
    rw [descriptors]
    rcases pipe with same | closed
    · exact same ▸ watch.foreign (begun away)
    · exact closed ▸ opened _
  watched away := by
    rw [descriptors]
    exact kept.watches (fun _ => nested_apart _) (watch.watched (begun away))

theorem removeFd (watch : LockWatch state) {fd : Int} (apart : state.phase ≠ .startup →
    state.scene.descriptors.sigusr2 ≠ fd) : LockWatch (state.removeFd fd) where
  startup := watch.startup
  aligned := watch.aligned.trans (Loop.markFd_length _ _ _).symm
  foreign := watch.foreign
  watched away := Loop.watches_removeFd (apart away) (watch.watched away)

theorem graceTimeout (watch : LockWatch state) : LockWatch (graceTimeout state) :=
  (watch.removeFd watch.foreign).quiet (.same rfl rfl rfl) rfl (.inr rfl) id id

theorem sleepIn (watch : LockWatch state) : LockWatch (sleepIn state) := by
  unfold SwaylockPlugin.sleepIn
  cases state.graceTimer with
  | none => exact watch.removeFd watch.foreign
  | some timer =>
      have closed : LockWatch (closeSleepComm { state.removeTimer? (some timer) with graceTimer := none }) :=
        watch.quiet (.same rfl rfl rfl) rfl (.inr rfl) id id
      exact closed.removeFd fun _ => opened _

theorem startGrace (watch : LockWatch state) (due : state.phase = .grace) {watcher : Option (Int × Int)}
    (fresh : watcher.all (freshPipes state.scene.eventloop) = true) : LockWatch (startGracePeriod state watcher) := by
  have away : state.phase ≠ .startup := by
    rw [due]
    decide
  have waits : LockWatch { state with phase := .hiddenCheck } :=
    watch.quiet (.same rfl rfl rfl) rfl (.inl rfl) (fun back => by cases back) fun _ => away
  unfold startGracePeriod
  split
  · cases watcher with
    | none => exact waits
    | some pipes =>
        simp only [Option.all_some, freshPipes, Bool.and_eq_true, Bool.not_eq_true', Bool.eq_false_iff, ne_eq,
          Loop.registered_iff] at fresh
        refine ⟨fun back => (by cases back), ?_, fun _ same => ?_, fun _ => ?_⟩
        · exact (List.length_append.trans (congrArg (· + 1) watch.aligned)).trans List.length_append.symm
        · obtain ⟨event, member, _, live⟩ := Loop.watches_iff.mp (watch.watched away)
          change state.scene.descriptors.sigusr2 = pipes.1 at same
          rw [same] at member
          exact fresh.1.2 (Loop.mem_kept.mpr ⟨event, member, live⟩)
        · exact Loop.watches_addFd watch.aligned (watch.watched away)
  · exact waits

theorem start (watch : LockWatch state) (due : state.phase = .startup) :
    LockWatch { addDescriptors { state with sleepCommR := -1, sleepCommW := -1 } with phase := .waitCheck } := by
  have fds := watch.startup due
  have events : state.scene.eventloop.fdEvents = [] := by
    have length := watch.aligned
    rw [fds] at length
    exact List.length_eq_zero_iff.mp length.symm
  refine ⟨nofun, ?_, fun _ => opened _, fun _ => Loop.watches_iff.mpr ⟨⟨.lockIn, false⟩, ?_, rfl, rfl⟩⟩
  · simp [addDescriptors, SwaylockState.addFd, Loop.addFd, fds, events]
  · simp [addDescriptors, SwaylockState.addFd, Loop.addFd, fds, events]

theorem sweep (watch : LockWatch state) (away : state.phase ≠ .startup) {phase : Phase} (apart : phase ≠ .startup) :
    LockWatch { state with scene := { state.scene with eventloop := state.scene.eventloop.sweep }, phase := phase } where
  startup at_ := absurd at_ apart
  aligned := (Loop.zip_sweepFds watch.aligned).1
  foreign _ := watch.foreign away
  watched _ := Loop.watches_sweep watch.aligned (watch.watched away)

theorem step (watch : LockWatch state) (lock : LockStep state event next.lockCore)
    (wire : WireStep state event next) : LockWatch next := by
  have begun (other : event.wires = false) : next.phase ≠ .startup → state.phase ≠ .startup :=
    fun away at_ => away (lock.begun (by rintro rfl; cases other) at_)
  cases wire with
  | quiet other kept => exact watch.quiet kept.scene kept.descriptors (.inl kept.pipes.1) lock.startup (begun other)
  | graceOver other _ before phase after =>
      have first := watch.quiet before.scene before.descriptors (.inl before.pipes.1) (by rw [phase]; exact id)
        (by rw [phase]; exact id)
      refine first.graceTimeout.quiet after.scene after.descriptors (.inl after.pipes.1) ?_ ?_
      · exact fun back => phase.trans (lock.startup back)
      · exact fun away at_ => begun other away (phase.symm.trans at_)
  | sleepNotice => exact watch.sleepIn
  | startGrace watcher due fresh => exact watch.startGrace due fresh
  | start due runs kept =>
      refine (watch.start due).quiet kept.scene kept.descriptors (.inl kept.pipes.1) ?_ nofun
      rw [runs]
      nofun
  | sweep polling =>
      refine watch.sweep (fun at_ => ?_) fun back => ?_
      · rw [SwaylockState.polling, at_] at polling
        cases polling
      · split at back <;> cases back

theorem of_reachable (reachable : swaylock.machine.Reachable state) : LockWatch state := by
  refine reachable.invariant LockWatch (fun state start => ?_) fun state occurrence next watch moved =>
    watch.step (lockStep_of_step moved) (deviceStep_of_step moved).wired
  have phase : state.phase = .startup := start.main.1
  refine ⟨fun _ => ?_, ?_, fun away => absurd phase away, fun away => absurd phase away⟩
  · rw [start.eventloop.1]
    rfl
  · rw [start.eventloop.1]
    rfl

theorem awaits (watch : LockWatch state) (away : state.phase ≠ .startup) : state.awaits .lockIn = true := by
  obtain ⟨event, member, called, kept⟩ := Loop.watches_iff.mp (watch.watched away)
  exact List.any_eq_true.mpr ⟨event, (List.of_mem_zip member).2, by simp [called, kept]⟩

end LockWatch

/-- The lock takes a step, or SIGUSR2, the start or the return of a poll leaves the lock alone. -/
inductive SignalStep (signalled : Signalled) : SignalEvent → Signalled → Prop
  | occurs {occurrence : Occurrence} {main : SwaylockState}
      (moved : swaylock.machine.step signalled.main occurrence main)
      (admitted : signalled.admits occurrence.event = true) : SignalStep signalled (.occur occurrence)
        { signalled with main := main, stage := signalled.stage.after occurrence.event }
  | signal (written : Bool) : SignalStep signalled (.doSigusr2 written)
      { signalled with pipe := if written then signalled.pipe + 1 else signalled.pipe }
  | poll (outside : signalled.stage = .outside) (polling : signalled.main.polling = true) :
      SignalStep signalled .poll { signalled with stage := .waiting }
  | returns (outcome : PollReturn) (waiting : signalled.stage = .waiting) : SignalStep signalled (.returns outcome)
      { signalled with
        revents := signalled.reports outcome
        stage := .dispatching (signalled.reports outcome && signalled.main.awaits .lockIn) }

section Signals

variable {signalled next last : Signalled} {event : SignalEvent} {events : List SignalEvent}

theorem signalStep_of_step (moved : signalledLock.machine.step signalled event next) :
    SignalStep signalled event next := by
  obtain ⟨allowed, handled⟩ := moved
  change signalEnabled signalled event = true at allowed
  cases event with
  | occur occurrence =>
      obtain ⟨main, computed, rest⟩ := bind_ok.mp handled
      cases rest
      obtain ⟨permitted, admitted⟩ := (Bool.and_eq_true _ _).mp allowed
      exact .occurs ⟨permitted, computed⟩ admitted
  | doSigusr2 written =>
      cases handled
      exact .signal written
  | poll =>
      cases handled
      simp only [signalEnabled, Bool.and_eq_true, beq_iff_eq] at allowed
      exact .poll allowed.1 allowed.2
  | returns outcome =>
      cases handled
      exact .returns outcome (beq_iff_eq.mp allowed)

theorem main_reachable (reachable : signalledLock.machine.Reachable signalled) :
    swaylock.machine.Reachable signalled.main := by
  refine reachable.invariant (fun signalled => swaylock.machine.Reachable signalled.main) ?_ ?_
  · exact fun signalled start => .initial start.1
  · intro signalled event next before moved
    cases signalStep_of_step moved with
    | occurs taken => exact .step before taken
    | _ => exact before

theorem waits_polling (reachable : signalledLock.machine.Reachable signalled) (waiting : signalled.stage = .waiting) :
    signalled.main.polling = true := by
  revert waiting
  refine reachable.invariant (fun signalled => signalled.stage = .waiting → signalled.main.polling = true) ?_ ?_
  · rintro signalled ⟨_, _, _, outside⟩ waiting
    cases outside.symm.trans waiting
  · intro signalled event next before moved waiting
    cases signalStep_of_step moved with
    | signal => exact before waiting
    | poll _ polling => exact polling
    | returns => cases waiting
    | @occurs occurrence main taken admitted =>
        obtain ⟨event, env⟩ := occurrence
        have still : signalled.stage = .waiting := by
          cases event <;> first | exact waiting | cases waiting
        cases event with
        | tick now =>
            cases taken.2
            exact before still
        | _ => simp [Signalled.admits, still, Event.ticks] at admitted

theorem reported_owes (reachable : signalledLock.machine.Reachable signalled) (waiting : signalled.stage = .waiting)
    (outcome : PollReturn) : (signalled.reports outcome && signalled.main.awaits .lockIn) = signalled.reports outcome := by
  have away : signalled.main.phase ≠ .startup := by
    intro at_
    have polling := waits_polling reachable waiting
    rw [SwaylockState.polling, at_] at polling
    cases polling
  rw [(LockWatch.of_reachable (main_reachable reachable)).awaits away, Bool.and_true]

theorem pastGrace_of_signal (moved : signalledLock.machine.step signalled event next)
    (past : signalled.main.phase.pastGrace = true) : next.main.phase.pastGrace = true := by
  cases signalStep_of_step moved with
  | occurs taken => exact (lockStep_of_step taken).pastGrace past
  | _ => exact past

theorem graceOver_of_signals (run : signalledLock.machine.Run signalled events last)
    (past : signalled.main.phase.pastGrace = true) (elapsed : signalled.main.graceTimer = none) :
    last.main.graceTimer = none := by
  have kept := run.preserves (fun signalled => signalled.main.phase.pastGrace = true ∧ signalled.main.graceTimer = none)
    ?_ ⟨past, elapsed⟩
  · exact kept.2
  · rintro signalled event next ⟨past, elapsed⟩ moved
    refine ⟨pastGrace_of_signal moved past, ?_⟩
    cases signalStep_of_step moved with
    | occurs taken => exact graceOver_of_run (.single taken) past elapsed
    | _ => exact elapsed

theorem lockIn_ends (state : SwaylockState) : (lockIn state).graceTimer = none := by
  unfold lockIn
  split
  · assumption
  · rfl

/-- The grace period is over, or the loop still owes a call of `lock_in` in this poll. -/
def Answered (signalled : Signalled) : Prop :=
  signalled.main.phase.pastGrace = true ∧ (signalled.main.graceTimer = none ∨ signalled.stage = .dispatching true)

theorem Answered.step (answered : Answered signalled) (moved : signalledLock.machine.step signalled event next) :
    Answered next := by
  refine ⟨pastGrace_of_signal moved answered.1, ?_⟩
  rcases answered.2 with elapsed | owed
  · exact .inl (graceOver_of_signals (.single moved) answered.1 elapsed)
  · cases signalStep_of_step moved with
    | signal => exact .inr owed
    | poll outside => cases outside.symm.trans owed
    | returns _ waiting => cases waiting.symm.trans owed
    | @occurs occurrence main taken admitted =>
        obtain ⟨event, env⟩ := occurrence
        cases event with
        | lockNow =>
            cases taken.2
            exact .inl (lockIn_ends _)
        | sweep | pollDone => simp [Signalled.admits, owed, Event.ticks] at admitted
        | _ => exact .inr owed

/-- A signal that was delivered before a poll ends the grace period in that poll, if the poll is not interrupted, and the
grace period does not come back. -/
theorem lock_signal_ends_grace {first last : Signalled} {waiting dispatched : List SignalEvent} {env : Environment}
    (reachable : signalledLock.machine.Reachable first) (delivered : 0 < first.pipe)
    (decided : first.main.phase.pastGrace = true)
    (iteration : signalledLock.machine.Run first
      ((.poll :: waiting) ++ (.returns .ready :: dispatched) ++ [.occur ⟨.pollDone, env⟩]) last) :
    last.main.graceTimer = none ∧
      ∀ later final, signalledLock.machine.Run last later final → final.main.graceTimer = none := by
  obtain ⟨ending, before, ended⟩ := iteration.last_step
  obtain ⟨returning, polled, rest⟩ := before.split
  have kept : returning.main.phase.pastGrace = true ∧ 0 < returning.pipe := by
    refine polled.preserves (fun signalled => signalled.main.phase.pastGrace = true ∧ 0 < signalled.pipe) ?_
      ⟨decided, delivered⟩
    rintro signalled event next ⟨past, written⟩ moved
    refine ⟨pastGrace_of_signal moved past, ?_⟩
    cases signalStep_of_step moved with
    | signal one =>
        dsimp only
        split <;> omega
    | _ => exact written
  have answered : Answered last := by
    cases rest with
    | @step _ reported _ _ _ moved rest =>
        have owes : Answered reported := by
          refine ⟨pastGrace_of_signal moved kept.1, .inr ?_⟩
          cases signalStep_of_step moved with
          | returns _ waits =>
              dsimp only
              rw [reported_owes (reachable.run polled) waits]
              exact congrArg PollStage.dispatching (decide_eq_true kept.2)
        have ran := rest.preserves Answered (fun _ _ _ answered => answered.step) owes
        exact ran.step ended
  have elapsed : last.main.graceTimer = none := by
    refine answered.2.resolve_right fun owed => ?_
    cases signalStep_of_step ended with
    | occurs => cases owed
  exact ⟨elapsed, fun later final run => graceOver_of_signals run answered.1 elapsed⟩

/-- SIGUSR2 arrives before the grace period starts, and then the main loop is about to poll in it. -/
def earlySignal : List SignalEvent :=
  [.occur Event.start.obliged, .doSigusr2 true, .occur (Event.check true).obliged, .poll, .returns .ready,
    .occur Event.locked.obliged, .occur Event.lockNow.obliged, .occur Event.sweep.obliged,
    .occur Event.pollDone.obliged] ++
  ([.check true, .readiness true, .daemonize true, .startGrace (some (9, 10)), .armHiddenCheck, .check true].map
    fun event : Event => .occur event.obliged)

/-- A signal from before the grace period ends it in its first poll. -/
theorem lock_signal_ends_grace_early : ∃ first last : Signalled,
    first.main.graceTimer.isSome = true ∧ last.main.graceTimer = none := by
  obtain ⟨first, reachable, passed⟩ := signalledLock.play_reachable earlySignal
    (fun first => first.main.graceTimer.isSome && decide (0 < first.pipe) && first.main.phase.pastGrace &&
      (signalledLock.play first ((.poll :: []) ++ (.returns .ready :: [.occur Event.lockNow.obliged, .occur Event.sweep.obliged]) ++
        [.occur ⟨.pollDone, .obliging⟩])).any fun _ => true)
    (⟨startState_initial _ _ _, rfl, rfl, rfl⟩ : signalledLock.initial ⟨graceState, 0, false, .outside⟩)
    (by decide +kernel : (signalledLock.play _ _).any _ = true)
  simp only [Bool.and_eq_true, decide_eq_true_eq] at passed
  obtain ⟨⟨⟨set_, delivered⟩, decided⟩, played⟩ := passed
  obtain ⟨last, iteration, _⟩ := signalledLock.play_runs _ _ played
  exact ⟨first, last, set_, (lock_signal_ends_grace reachable delivered decided iteration).1⟩

end Signals

section Calls

/-- The calls of `lock_in` and the polls that reported its pipe are counted. -/
structure LockCalls where
  invoked : Nat
  reported : Nat

/-- The observer counts the calls of `lock_in` and the polls that reported its pipe. -/
def countCalls (calls : LockCalls) (signalled : Signalled) : SignalEvent → LockCalls
  | .occur occurrence => if occurrence.event = .lockNow then { calls with invoked := calls.invoked + 1 } else calls
  | .returns outcome => if signalled.reports outcome then { calls with reported := calls.reported + 1 } else calls
  | _ => calls

/-- A poll reports the pipe only where earlier polls reported it less often than bytes were written to it. -/
def reportsFresh (pair : Signalled × LockCalls) : SignalEvent → Bool
  | .returns outcome => !pair.1.reports outcome || decide (pair.2.reported < pair.1.pipe)
  | _ => true

/-- The loop owes this many calls of `lock_in`. -/
def PollStage.owes : PollStage → Nat
  | .dispatching true => 1
  | _ => 0

variable {pair next last : Signalled × LockCalls} {event : SignalEvent}

theorem reported_calls (reachable : (signalledLock.machine.observed ⟨0, 0⟩ countCalls).Reachable pair) :
    pair.2.reported = pair.2.invoked + pair.1.stage.owes := by
  refine reachable.invariant_under (fun pair => signalledLock.machine.Reachable pair.1)
    (fun pair => pair.2.reported = pair.2.invoked + pair.1.stage.owes) (fun _ before => before.of_observed) ?_ ?_
  · rintro ⟨signalled, calls⟩ ⟨⟨_, _, _, outside⟩, rfl⟩
    dsimp only at outside ⊢
    rw [outside]
    rfl
  · rintro ⟨signalled, calls⟩ event ⟨next, _⟩ reachable counted ⟨moved, rfl⟩
    dsimp only at reachable counted ⊢
    cases signalStep_of_step moved with
    | signal => exact counted
    | poll outside =>
        rw [outside] at counted
        exact counted
    | returns outcome waiting =>
        rw [waiting] at counted
        dsimp only [countCalls]
        rw [reported_owes reachable waiting]
        split
        · rename_i reported
          rw [reported]
          exact congrArg (· + 1) counted
        · rename_i silent
          rw [(Bool.not_eq_true _).mp silent]
          exact counted
    | @occurs occurrence main taken admitted =>
        obtain ⟨event, env⟩ := occurrence
        cases event with
        | lockNow =>
            have polling : signalled.main.polling = true := by
              have allowed : enabled signalled.main ⟨.lockNow, env⟩ = true := taken.1
              simp only [enabled, Bool.and_eq_true] at allowed
              exact allowed.1
            cases here : signalled.stage with
            | outside => simp [Signalled.admits, here, Event.ticks, Event.flushes, polling] at admitted
            | waiting => simp [Signalled.admits, here, Event.ticks] at admitted
            | dispatching lockReady =>
                cases lockReady with
                | false => simp [Signalled.admits, here, Event.ticks] at admitted
                | true =>
                    rw [here] at counted
                    exact counted
        | pollDone =>
            cases here : signalled.stage with
            | outside =>
                rw [here] at counted
                exact counted
            | waiting =>
                rw [here] at counted
                exact counted
            | dispatching lockReady =>
                cases lockReady with
                | false =>
                    rw [here] at counted
                    exact counted
                | true => simp [Signalled.admits, here, Event.ticks] at admitted
        | _ => exact counted

/-- Where each report is fresh, the pipe was reported at most as often as it was written. -/
theorem fresh_reports_bounded
    (reachable : ((signalledLock.machine.observed ⟨0, 0⟩ countCalls).guarded reportsFresh).Reachable pair) :
    pair.2.reported ≤ pair.1.pipe := by
  refine reachable.invariant (fun pair => pair.2.reported ≤ pair.1.pipe) ?_ ?_
  · rintro ⟨signalled, calls⟩ ⟨_, rfl⟩
    exact Nat.zero_le _
  · rintro ⟨signalled, calls⟩ event ⟨next, _⟩ bounded ⟨⟨moved, rfl⟩, fresh⟩
    dsimp only at bounded fresh ⊢
    cases signalStep_of_step moved with
    | signal written =>
        cases written with
        | false => exact bounded
        | true => exact Nat.le_succ_of_le bounded
    | poll => exact bounded
    | occurs =>
        dsimp only [countCalls]
        split <;> exact bounded
    | returns outcome =>
        dsimp only [countCalls]
        split
        · rename_i reported
          have earlier : calls.reported < signalled.pipe := by simpa [reportsFresh, reported] using fresh
          exact earlier
        · exact bounded

theorem stale_report_counted (moved : (signalledLock.machine.observed ⟨0, 0⟩ countCalls).step pair event next)
    (stale : pair.1.pipe < pair.2.reported) (silent : ∀ written, event ≠ .doSigusr2 written) :
    next.1.pipe < next.2.reported := by
  obtain ⟨signalled, calls⟩ := pair
  obtain ⟨after, _⟩ := next
  obtain ⟨moved, rfl⟩ := moved
  dsimp only at moved stale ⊢
  cases signalStep_of_step moved with
  | signal written => exact absurd rfl (silent written)
  | poll => exact stale
  | occurs =>
      dsimp only [countCalls]
      split <;> exact stale
  | returns outcome =>
      dsimp only [countCalls]
      split
      · exact Nat.lt_succ_of_lt stale
      · exact stale

/-- The loop calls `lock_in` at most once for each signal in every run in which each report of the pipe is fresh, and a
report that is not fresh leads to a call too many in the same poll unless another signal arrives in it. -/
theorem lock_signals_bound_calls (pair : Signalled × LockCalls) :
    (((signalledLock.machine.observed ⟨0, 0⟩ countCalls).guarded reportsFresh).Reachable pair →
      pair.2.invoked ≤ pair.1.pipe) ∧
    ∀ outcome next, (signalledLock.machine.observed ⟨0, 0⟩ countCalls).Reachable pair →
      (signalledLock.machine.observed ⟨0, 0⟩ countCalls).step pair (.returns outcome) next →
      reportsFresh pair (.returns outcome) = false →
      ∀ dispatched env last, (∀ event ∈ dispatched, ∀ written, event ≠ .doSigusr2 written) →
        (signalledLock.machine.observed ⟨0, 0⟩ countCalls).Run next (dispatched ++ [.occur ⟨.pollDone, env⟩]) last →
        last.1.pipe < last.2.invoked := by
  refine ⟨fun reachable => ?_, fun outcome next reachable moved stale dispatched env last silent run => ?_⟩
  · have calls := reported_calls reachable.of_restrict
    have bounded := fresh_reports_bounded reachable
    omega
  · have begun : next.1.pipe < next.2.reported := by
      obtain ⟨after, _⟩ := next
      obtain ⟨taken, rfl⟩ := moved
      simp only [reportsFresh, Bool.or_eq_false_iff, Bool.not_eq_false', decide_eq_false_iff_not, Nat.not_lt] at stale
      dsimp only [countCalls]
      rw [if_pos stale.1]
      cases signalStep_of_step taken with
      | returns => exact Nat.lt_succ_of_le stale.2
    have quiet : ∀ event ∈ dispatched ++ [SignalEvent.occur ⟨.pollDone, env⟩],
        ∀ written, event ≠ .doSigusr2 written := by
      intro event member
      rcases List.mem_append.mp member with earlier | final
      · exact silent event earlier
      · rw [List.mem_singleton.mp final]
        nofun
    have ended : last.1.pipe < last.2.reported := by
      refine (run.restrict (fun _ event => ∀ written, event ≠ .doSigusr2 written) fun _ => quiet).preserves
        (fun pair => pair.1.pipe < pair.2.reported) ?_ begun
      exact fun _ _ _ stale moved => stale_report_counted moved.1 stale moved.2
    obtain ⟨middle, _, final⟩ := run.last_step
    have counted := reported_calls ((reachable.step moved).run run)
    have outside : last.1.stage.owes = 0 := by
      obtain ⟨elapsed, calls⟩ := last
      cases signalStep_of_step final.1 with
      | occurs => rfl
    omega

/-- The lock starts, and a signal is answered in the first poll. -/
def answeredSignal : List SignalEvent :=
  [.occur Event.start.obliged, .doSigusr2 true, .occur (Event.check true).obliged, .poll, .returns .ready,
    .occur Event.lockNow.obliged, .occur Event.sweep.obliged, .occur Event.pollDone.obliged]

/-- One signal allows the one call of the first poll. -/
theorem lock_signals_bound_calls_first : ∃ pair : Signalled × LockCalls, pair.2.invoked = 1 ∧
    pair.2.invoked ≤ pair.1.pipe := by
  have start : ((signalledLock.observed ⟨0, 0⟩ countCalls).guarded reportsFresh).initial
      (⟨defaultState, 0, false, .outside⟩, ⟨0, 0⟩) :=
    ⟨⟨startState_initial _ _ _, rfl, rfl, rfl⟩, rfl⟩
  obtain ⟨pair, reachable, passed⟩ := ((signalledLock.observed ⟨0, 0⟩ countCalls).guarded reportsFresh).play_reachable
    answeredSignal (fun pair => decide (pair.2.invoked = 1)) start (by decide +kernel)
  rw [Program.guarded_machine, Program.observed_machine] at reachable
  exact ⟨pair, of_decide_eq_true passed, (lock_signals_bound_calls pair).1 reachable⟩

/-- One signal leads to two calls in two polls. -/
theorem lock_signal_called_twice : ¬ ∀ pair, (signalledLock.machine.observed ⟨0, 0⟩ countCalls).Reachable pair →
    pair.2.invoked ≤ pair.1.pipe := by
  intro claim
  obtain ⟨pair, reachable, passed⟩ := signalledLock.play_observed ⟨0, 0⟩ countCalls
    (answeredSignal ++ [.occur (Event.check true).obliged, .poll, .returns .ready, .occur Event.lockNow.obliged])
    (fun pair => decide (pair.1.pipe < pair.2.invoked))
    (⟨startState_initial _ _ _, rfl, rfl, rfl⟩ : signalledLock.initial ⟨defaultState, 0, false, .outside⟩)
    (by decide +kernel : ((signalledLock.observed _ _).play _ _).any _ = true)
  exact absurd (claim pair reachable) (Nat.not_le.mpr (of_decide_eq_true passed))

end Calls

end SwaylockPlugin
