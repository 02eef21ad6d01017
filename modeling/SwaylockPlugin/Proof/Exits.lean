import SwaylockPlugin.Proof.Hidden
import SwaylockPlugin.Proof.Signals

namespace SwaylockPlugin

open Library

/-- The program is run where every signal gets through. -/
def killing : Machine SwaylockState Occurrence :=
  swaylock.machine.restrict fun _ occurrence => ∀ pid, occurrence.env.kill pid = true

/-- The program ends by the return of the main function, by a failed poll, by a keymap that cannot be mapped or in the
handler of an event. -/
inductive Exit where
  | returned
  | pollFailed
  | keymapFailed
  | halted (occurrence : Occurrence) (status : Nat)

/-- The main function returns after the roundtrip, a poll follows a check, a keymap comes from a keyboard, and a handler
exits where its event is enabled. -/
def Exit.taken (state : SwaylockState) : Exit → Prop
  | .returned => state.phase = .roundtrip
  | .pollFailed => ∃ before env flushed, swaylock.machine.step before ⟨.check flushed, env⟩ state ∧ state.polling = true
  | .keymapFailed => state.dispatching = true ∧ ∃ seat, state.seatIs seat SwaylockSeat.keyboard = true
  | .halted occurrence status =>
      enabled state occurrence = true ∧ swaylock.next state occurrence = .error (.exited status)

/-- In every history of signals that leads to the records, each process group that was stopped was continued since. -/
def NoneLeftStopped (scene : Scene) : Prop :=
  ∀ stopped, signalling.Reachable (scene.roster, stopped) → ∀ id, stopped id = false

/-- The main function resumed the clients in these phases. -/
def Phase.resumed (phase : Phase) : Prop := phase = .unlock ∨ phase = .roundtrip

theorem LockStep.resumes {state : SwaylockState} {event : Event} {core : LockCore} (step : LockStep state event core)
    (elapsed : core.phase.resumed) : event = .resume ∨ state.phase.resumed := by
  unfold Phase.resumed at elapsed ⊢
  cases step with
  | resumed => exact .inl rfl
  | unlocked phase => exact .inr (.inl phase)
  | keeps => exact .inr elapsed
  | unlockedByInput => exact .inr elapsed
  | ended => exact .inr elapsed
  | graceOver => exact .inr elapsed
  | locked => exact .inr elapsed
  | swept | polled =>
      dsimp only at elapsed
      split at elapsed <;> simp at elapsed
  | _ => simp at elapsed

theorem roster_of_step {state next : SwaylockState} {occurrence : Occurrence} (sound : state.scene.roster.Sound)
    (moved : killing.step state occurrence next) :
    next.scene.roster.Sound ∧ ∃ events, rostering.Run state.scene.roster events next.scene.roster := by
  obtain ⟨events, run, _⟩ := signals_of_step moved.2 moved.1 sound
  exact ⟨sound.run run, events, run⟩

theorem roster_of_reachable {state : SwaylockState} (reachable : killing.Reachable state) :
    state.scene.roster.Sound ∧ ∃ stopped, signalling.Reachable (state.scene.roster, stopped) := by
  refine reachable.invariant (fun state => state.scene.roster.Sound ∧
    ∃ stopped, signalling.Reachable (state.scene.roster, stopped)) ?_ ?_
  · intro state start
    have empty : state.scene.roster = .empty :=
      congrArg₂ Roster.mk start.plugins.1 start.plugins.2.2.1
    rw [empty]
    exact ⟨nofun, _, .initial ⟨rfl, rfl⟩⟩
  · rintro state occurrence next ⟨sound, stopped, history⟩ moved
    obtain ⟨after, events, run⟩ := roster_of_step sound moved
    obtain ⟨later, path⟩ := run.observed (fun _ => false) (fun stopped _ event => event.signal stopped) stopped
    exact ⟨after, later, history.run path⟩

theorem runs_of_resumed {state : SwaylockState} (reachable : killing.Reachable state) (elapsed : state.phase.resumed)
    (id : BgClientId) : state.scene.roster.Runs id := by
  refine reachable.invariant_under (fun state => state.scene.roster.Sound)
    (fun state => state.phase.resumed → ∀ id, state.scene.roster.Runs id) ?_ ?_ ?_ elapsed id
  · exact fun _ before => (roster_of_reachable before).1
  · intro state start elapsed
    unfold Phase.resumed at elapsed
    simp [start.main.1] at elapsed
  · rintro state ⟨event, env⟩ next sound before ⟨moved, kills⟩ elapsed id
    rcases (lockStep_of_step moved).resumes elapsed with rfl | already
    · cases moved.2
      exact resumeAllClients_runs kills sound id
    · have signals := signals_of_step kills moved
      have calm : checksHidden state event = false := by
        by_contra checks
        rw [Bool.not_eq_false] at checks
        unfold checksHidden at checks
        split at checks
        · have expiring : state.expiring = true := ((Bool.and_eq_true _ _).mp moved.1).1
          unfold SwaylockState.expiring at expiring
          rcases already with unlock | roundtrip
          · simp [unlock] at expiring
          · simp [roundtrip] at expiring
        · cases checks
      rw [calm] at signals
      exact signals.runs sound (before already id)

/-- Where every signal gets through, every step moves the records so that a client is freed only while it runs, and an
exit leaves no process group stopped exactly when the main function returns or no client is paused. -/
theorem exits_leave_none_stopped_iff {state : SwaylockState} (reachable : killing.Reachable state) :
    (∃ stopped, signalling.Reachable (state.scene.roster, stopped)) ∧
    (∀ occurrence next, killing.step state occurrence next →
      ∃ events, rostering.Run state.scene.roster events next.scene.roster) ∧
    ∀ exit : Exit, exit.taken state → (NoneLeftStopped state.scene ↔ exit = .returned ∨
      ∀ id client, state.scene.bgClients.cell id = some client → client.paused = false) := by
  obtain ⟨sound, stopped, history⟩ := roster_of_reachable reachable
  refine ⟨⟨stopped, history⟩, fun occurrence next moved => (roster_of_step sound moved).2, fun exit taken => ?_⟩
  have none_ (runs : ∀ id, state.scene.roster.Runs id) : NoneLeftStopped state.scene := by
    intro stopped history id
    by_contra left
    obtain ⟨client, present, paused⟩ := (Roster.follows_of_reachable history id).mp ((Bool.not_eq_false _).mp left)
    exact absurd (paused.symm.trans (runs id client present)) (by decide)
  constructor
  · refine fun left => .inr fun id client present => ?_
    by_contra paused
    have still := (Roster.follows_of_reachable history id).mpr ⟨client, present, (Bool.not_eq_false _).mp paused⟩
    exact absurd (still.symm.trans (left stopped history id)) (by decide)
  · rintro (rfl | runs)
    · exact none_ (runs_of_resumed reachable (.inr taken))
    · exact none_ runs

theorem play_killing {state : SwaylockState} (events : List Event) (check : SwaylockState → Bool)
    (start : InitialState state) (played : (swaylock.play state (events.map Event.obliged)).any check = true) :
    ∃ final, killing.Reachable final ∧ check final = true := by
  obtain ⟨final, run, passed⟩ := swaylock.play_runs _ check played
  refine ⟨final, Machine.Reachable.run (.initial start) (run.restrict _ fun _ occurrence listed => ?_), passed⟩
  obtain ⟨event, _, rfl⟩ := List.mem_map.mp listed
  exact fun _ => rfl

/-- A hidden check stops the plugin while one output is dark. -/
def stoppedEvents : List Event :=
  oneDarkEvents ++ [.tick ⟨7, 0⟩, .sweep, .timer 3 ⟨0, true⟩, .pollDone, .check true]

/-- A stopped plugin is continued before the main function returns. -/
theorem exits_leave_none_stopped_returned : ∃ state : SwaylockState,
    state.scene.bgClients.live 0 = true ∧ Exit.returned.taken state ∧ NoneLeftStopped state.scene := by
  obtain ⟨state, reachable, passed⟩ := play_killing
    (stoppedEvents ++ [.terminate, .sweep, .pollDone, .check true, .resume, .unlock])
    (fun state => state.scene.bgClients.live 0 && state.phase == .roundtrip)
    (startState_initial { SwaylockArgs.default with pauseWhenHidden := true } .complete .opened)
    (by decide +kernel : (swaylock.play _ _).any _ = true)
  simp only [Bool.and_eq_true, beq_iff_eq] at passed
  exact ⟨state, passed.1, passed.2,
    ((exits_leave_none_stopped_iff reachable).2.2 .returned passed.2).mpr (.inl rfl)⟩

/-- A plugin is left stopped when the password backend hangs up. -/
theorem hangup_leaves_stopped : ¬ ∀ state : SwaylockState, killing.Reachable state →
    ∀ exit : Exit, exit.taken state → NoneLeftStopped state.scene := by
  intro claim
  obtain ⟨state, reachable, passed⟩ := play_killing stoppedEvents
    (fun state => enabled state (Event.obliged .commHangup) &&
      (state.scene.bgClients.cell 0).any fun client => client.paused)
    (startState_initial { SwaylockArgs.default with pauseWhenHidden := true } .complete .opened)
    (by decide +kernel : (swaylock.play _ _).any _ = true)
  simp only [Bool.and_eq_true, Option.any_eq_true] at passed
  obtain ⟨allowed, client, present, paused⟩ := passed
  obtain ⟨_, stopped, history⟩ := roster_of_reachable reachable
  have still := (Roster.follows_of_reachable history 0).mpr ⟨client, present, paused⟩
  have left := claim state reachable (.halted (Event.obliged .commHangup) 1) ⟨allowed, rfl⟩ stopped history 0
  exact absurd (still.symm.trans left) (by decide)

end SwaylockPlugin
