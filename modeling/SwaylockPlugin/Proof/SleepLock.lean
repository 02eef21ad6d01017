import SwaylockPlugin.Construction.SleepWatcher
import SwaylockPlugin.Proof.Grace

namespace SwaylockPlugin

open Library

/-- A step gives the inhibitor lock up when the watcher held it before and does not hold it afterwards. -/
def givesUp (before after : Watch) : Bool := before.watcher.sleepLockFd && !after.watcher.sleepLockFd

/-- No sleep signal is dispatched to a watcher that holds its lock in the grace period, and nothing ends it. -/
def undisturbedWatcher (watch : Watch) (event : WatchEvent) : Bool :=
  match event with
  | .watcher (.prepareForSleep _ _) | .watcher (.readReturns true) | .watcher .fails =>
      !watch.watcher.sleepLockFd || watch.graceOver
  | _ => true

/-- The main process is guarded while it runs, and a watcher that starts holds no lock yet. -/
structure WatchGuard (watch : Watch) : Prop where
  main : ∀ state, watch.main = some state → GraceGuard state.lockCore
  starting : watch.watcher.phase = .starting → watch.watcher.sleepLockFd = false

theorem WatchGuard.graceOver_of_closed {watch : Watch} (guard : WatchGuard watch)
    (closed : watch.writer = false) : watch.graceOver = true := by
  unfold Watch.writer at closed
  unfold Watch.graceOver
  cases running : watch.main with
  | none => rfl
  | some state =>
      rw [running] at closed
      have shut : ¬ 0 ≤ state.sleepCommW := by simpa using closed
      by_contra grace
      have set_ : state.graceTimer.isSome = true := by
        rw [Option.all_some] at grace
        exact Option.isSome_iff_ne_none.mpr (by simpa using grace)
      exact shut ((guard.main state running).pipe set_)

/-- A step of the two processes is one of these. -/
inductive WatchStep (watch : Watch) : WatchEvent → Watch → Prop
  | main {state next : SwaylockState} {occurrence : Occurrence} : watch.main = some state →
      swaylock.machine.step state occurrence next →
      WatchStep watch (.main occurrence) ⟨some next, spawnWatcher watch.watcher next occurrence.event⟩
  | mainFails (occurrence : Occurrence) : WatchStep watch (.main occurrence) { watch with main := none }
  | mainEnds : WatchStep watch .mainEnds { watch with main := none }
  | watcher {event : WatcherEvent} {next : Watcher} : watch.watcher.enabled watch.writer event = true →
      watch.watcher.handle event = .ok next → WatchStep watch (.watcher event) { watch with watcher := next }
  | crashes {event : WatcherEvent} {error : Halt} : watch.watcher.enabled watch.writer event = true →
      watch.watcher.handle event = .error error →
      WatchStep watch (.watcher event) { watch with watcher := .exit }

theorem watchStep_of_step {watch next : Watch} {event : WatchEvent}
    (moved : sleepWatch.machine.step watch event next) : WatchStep watch event next := by
  obtain ⟨allowed, computed⟩ := moved
  change watch.enabled event = true at allowed
  change watch.next event = .ok next at computed
  cases event with
  | main occurrence =>
      unfold Watch.next at computed
      cases running : watch.main with
      | none =>
          rw [running] at computed
          cases computed
      | some state =>
          simp only [Watch.enabled, running, Option.any_some, Bool.and_eq_true] at allowed
          simp only [running, demand, bind_ok, Except.ok.injEq] at computed
          obtain ⟨_, rfl, computed⟩ := computed
          cases handled : handleEvent state occurrence.env occurrence.event with
          | ok result =>
              rw [handled] at computed
              cases computed
              exact .main running ⟨allowed.1, handled⟩
          | error error =>
              rw [handled] at computed
              cases computed
              exact .mainFails occurrence
  | mainEnds =>
      cases computed
      exact .mainEnds
  | watcher event =>
      unfold Watch.next at computed
      cases handled : watch.watcher.handle event with
      | ok result =>
          simp only [handled] at computed
          cases computed
          exact .watcher allowed handled
      | error error =>
          simp only [handled] at computed
          cases computed
          exact .crashes allowed handled

theorem spawnWatcher_cases (watcher : Watcher) (next : SwaylockState) (event : Event) :
    spawnWatcher watcher next event = watcher ∨
      ∃ pipes, event = .startGrace (some pipes) ∧ spawnWatcher watcher next event = .spawned := by
  unfold spawnWatcher
  split
  · rename_i pipes
    split
    · exact .inr ⟨pipes, rfl, rfl⟩
    · exact .inl rfl
  · exact .inl rfl

theorem handle_not_starting {watcher next : Watcher} {event : WatcherEvent}
    (handled : watcher.handle event = .ok next) : next.phase ≠ .starting := by
  cases event with
  | run opened matched granted =>
      simp only [Watcher.handle] at handled
      split at handled
      · cases granted <;> cases handled <;> exact nofun
      · cases handled
        exact nofun
  | prepareForSleep goingDown granted => cases handled
  | pipeClosed =>
      cases handled
      exact nofun
  | readReturns failed =>
      cases handled
      exact nofun
  | fails =>
      cases handled
      exact nofun

theorem WatchGuard.step {watch next : Watch} {event : WatchEvent} (guard : WatchGuard watch)
    (step : WatchStep watch event next) : WatchGuard next := by
  cases step with
  | @main state result occurrence running moved =>
      refine ⟨fun other same => ?_, fun starting => ?_⟩
      · cases same
        exact (guard.main state running).step (lockStep_of_step moved)
      · change (spawnWatcher watch.watcher result occurrence.event).sleepLockFd = false
        rcases spawnWatcher_cases watch.watcher result occurrence.event with same | ⟨_, _, spawned⟩
        · rw [same]
          exact guard.starting (same ▸ starting)
        · rw [spawned]
          rfl
  | mainFails =>
      refine ⟨fun _ same => ?_, guard.starting⟩
      cases same
  | mainEnds =>
      refine ⟨fun _ same => ?_, guard.starting⟩
      cases same
  | watcher _ handled => exact ⟨guard.main, fun starting => absurd starting (handle_not_starting handled)⟩
  | crashes => exact ⟨guard.main, nofun⟩

theorem watchGuard_of_reachable {watch : Watch} (reachable : sleepWatch.machine.Reachable watch) :
    WatchGuard watch := by
  refine reachable.invariant WatchGuard ?_ ?_
  · rintro watch ⟨⟨state, start, running⟩, absent⟩
    refine ⟨fun other same => ?_, fun starting => ?_⟩
    · rw [running] at same
      cases same
      exact .initial start
    · rw [absent] at starting
      cases starting
  · exact fun _ _ _ guard moved => guard.step (watchStep_of_step moved)

theorem WatchGuard.main_graceOver {watch : Watch} {state next : SwaylockState} {occurrence : Occurrence}
    (guard : WatchGuard watch) (running : watch.main = some state)
    (moved : swaylock.machine.step state occurrence next)
    (given : givesUp watch ⟨some next, spawnWatcher watch.watcher next occurrence.event⟩ = true) :
    watch.graceOver = true := by
  rcases spawnWatcher_cases watch.watcher next occurrence.event with same | ⟨pipes, started, _⟩
  · simp [givesUp, same] at given
  · have allowed : enabled state occurrence = true := moved.1
    have due : state.phase = .grace := by
      simp only [enabled, started, Bool.and_eq_true, beq_iff_eq] at allowed
      exact allowed.1
    have unset : state.graceTimer.isSome = false := by
      by_contra set_
      have past := (guard.main state running).past ((Bool.not_eq_false _).mp set_)
      rw [show state.lockCore.phase = .grace from due] at past
      cases past
    simpa [Watch.graceOver, running] using unset

theorem WatchGuard.watcher_iff {watch : Watch} {event : WatcherEvent} {next : Watcher}
    (guard : WatchGuard watch) (allowed : watch.watcher.enabled watch.writer event = true)
    (handled : watch.watcher.handle event = .ok next) :
    (givesUp watch { watch with watcher := next } = true → watch.graceOver = true) ↔
      undisturbedWatcher watch (.watcher event) = true := by
  cases event with
  | run opened matched granted =>
      refine ⟨fun _ => rfl, fun _ given => ?_⟩
      have free := guard.starting (by simpa [Watcher.enabled] using allowed)
      simp [givesUp, free] at given
  | prepareForSleep goingDown granted => cases handled
  | pipeClosed =>
      refine ⟨fun _ => rfl, fun _ _ => ?_⟩
      simp only [Watcher.enabled, Bool.and_eq_true, Bool.not_eq_true'] at allowed
      exact guard.graceOver_of_closed allowed.2
  | readReturns failed =>
      cases handled
      cases failed with
      | false =>
          refine ⟨fun _ => rfl, fun _ _ => ?_⟩
          simp only [Watcher.enabled, Bool.false_or, Bool.and_eq_true, Bool.not_eq_true'] at allowed
          exact guard.graceOver_of_closed allowed.2
      | true =>
          cases held : watch.watcher.sleepLockFd <;>
            simp [givesUp, undisturbedWatcher, held, Watcher.finishPrepareForSleep, Watcher.releaseInhibitorLock]
  | fails =>
      cases handled
      cases held : watch.watcher.sleepLockFd <;> simp [givesUp, undisturbedWatcher, held, Watcher.exit]

theorem crash_iff {watch : Watch} {event : WatcherEvent} {error : Halt}
    (handled : watch.watcher.handle event = .error error) :
    (givesUp watch { watch with watcher := .exit } = true → watch.graceOver = true) ↔
      undisturbedWatcher watch (.watcher event) = true := by
  cases event with
  | run opened matched granted =>
      simp only [Watcher.handle] at handled
      split at handled <;> cases handled
  | prepareForSleep goingDown granted =>
      cases held : watch.watcher.sleepLockFd <;> simp [givesUp, undisturbedWatcher, held, Watcher.exit]
  | pipeClosed => cases handled
  | readReturns failed => cases handled
  | fails => cases handled

/-- In every run of the two processes a step gives the lock up only after the grace period, exactly where no
signal or failure disturbs the watcher before. -/
theorem lock_kept_in_grace_iff {watch : Watch} (reachable : sleepWatch.machine.Reachable watch) :
    ∀ event next, sleepWatch.machine.step watch event next →
      ((givesUp watch next = true → watch.graceOver = true) ↔ undisturbedWatcher watch event = true) := by
  intro event next moved
  have guard := watchGuard_of_reachable reachable
  cases watchStep_of_step moved with
  | main running taken => exact ⟨fun _ => rfl, fun _ given => guard.main_graceOver running taken given⟩
  | mainFails => exact ⟨fun _ => rfl, fun _ given => by simp [givesUp] at given⟩
  | mainEnds => exact ⟨fun _ => rfl, fun _ given => by simp [givesUp] at given⟩
  | watcher allowed handled => exact guard.watcher_iff allowed handled
  | crashes _ handled => exact crash_iff handled

/-- A lock with a grace time of five seconds and its sleep watcher start in this state. -/
def graceWatch : Watch :=
  ⟨some (startState { SwaylockArgs.default with graceTime := 5 } .complete .opened), .absent⟩

theorem graceWatch_initial : sleepWatch.initial graceWatch :=
  ⟨⟨_, startState_initial _ .complete .opened, rfl⟩, rfl⟩

/-- The session is locked, the grace period starts, and the watcher gets its lock. -/
def graceStart : List WatchEvent :=
  ([Event.start, .check true, .locked, .sweep, .pollDone, .check true, .readiness true, .daemonize true,
    .startGrace (some (9, 10))].map fun event => .main event.obliged) ++ [.watcher (.run true true true)]

/-- A signal that ends the grace period lets the watcher exit and give the lock up. -/
theorem lock_kept_until_signal : ∃ watch next, sleepWatch.machine.step watch (.watcher .pipeClosed) next ∧
    givesUp watch next = true ∧ watch.graceOver = true := by
  obtain ⟨watch, reachable, ready⟩ := sleepWatch.play_reachable
    (graceStart ++ ([Event.armHiddenCheck, .check true, .lockNow].map fun event => WatchEvent.main event.obliged))
    (fun watch => decide (watch.watcher = ⟨.polling, true, true⟩) && !watch.writer)
    graceWatch_initial (by decide +kernel)
  simp only [Bool.and_eq_true, decide_eq_true_eq, Bool.not_eq_true'] at ready
  have moved : sleepWatch.machine.step watch (.watcher .pipeClosed) { watch with watcher := .exit } := by
    refine ⟨?_, rfl⟩
    change watch.watcher.enabled watch.writer .pipeClosed = true
    rw [ready.1, ready.2]
    rfl
  have given : givesUp watch { watch with watcher := .exit } = true := by
    rw [givesUp, ready.1]
    rfl
  exact ⟨watch, _, moved, given, (lock_kept_in_grace_iff reachable _ _ moved).mpr rfl given⟩

/-- A sleep signal in the grace period crashes the watcher, which gives the lock up at once. -/
theorem lock_lost_to_sleep_signal :
    ¬ ∀ watch event next, sleepWatch.machine.Reachable watch → sleepWatch.machine.step watch event next →
      givesUp watch next = true → watch.graceOver = true := by
  intro always
  obtain ⟨watch, reachable, ready⟩ := sleepWatch.play_reachable graceStart
    (fun watch => decide (watch.watcher = ⟨.polling, true, true⟩) && !watch.graceOver)
    graceWatch_initial (by decide +kernel)
  simp only [Bool.and_eq_true, decide_eq_true_eq, Bool.not_eq_true'] at ready
  have moved : sleepWatch.machine.step watch (.watcher (.prepareForSleep true true))
      { watch with watcher := .exit } := by
    refine ⟨?_, rfl⟩
    change watch.watcher.enabled watch.writer (.prepareForSleep true true) = true
    rw [ready.1]
    rfl
  have elapsed := always _ _ _ reachable moved (by rw [givesUp, ready.1]; rfl)
  rw [ready.2] at elapsed
  cases elapsed

end SwaylockPlugin
