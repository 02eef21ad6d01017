import SwaylockPlugin.Construction.MainLoop
import SwaylockPlugin.Proof.Moves

namespace SwaylockPlugin

open Library

/-- A scene gives nobody up when the mark for the fall back stays and no display comes back. -/
def Unmarked (first second : Scene) : Prop :=
  second.startClientlessMode = first.startClientlessMode ∧ (second.display = true → first.display = true)

namespace Unmarked

variable {first second third : Scene}

theorem refl (scene : Scene) : Unmarked scene scene := ⟨rfl, id⟩

theorem trans (one : Unmarked first second) (two : Unmarked second third) : Unmarked first third :=
  ⟨two.1.trans one.1, fun up => one.2 (two.2 up)⟩

theorem of_lasting (lasting : Lasting first second) : Unmarked first second :=
  ⟨lasting.startClientlessMode, fun up => lasting.display.symm.trans up⟩

theorem of_still (still : Still first second) : Unmarked first second :=
  ⟨still.startClientlessMode, fun up => still.display.symm.trans up⟩

theorem of_changes {effects : List Effect} (changes : Changes effects first second) (apart : Effect.client ∉ effects) :
    Unmarked first second := by
  induction changes with
  | refl => exact refl first
  | step _ listed change ih =>
      refine ih.trans ?_
      cases change with
      | clients => exact absurd listed apart
      | display => exact ⟨rfl, nofun⟩
      | _ => exact ⟨rfl, id⟩

theorem of_retimed (kept : Retimed first second) : Unmarked first second := by
  obtain ⟨_, _, _, rfl⟩ := kept
  exact ⟨rfl, id⟩

theorem of_indicated (indicated : Indicated first second) : Unmarked first second := by
  obtain ⟨start, stop, early, draws, late⟩ := indicated
  exact ((of_retimed early).trans (of_changes draws.changes (by simp))).trans (of_retimed late)

theorem removeTimer? (scene : Scene) (timer : Option TimerId) : Unmarked scene (scene.removeTimer? timer) :=
  of_retimed (.removeTimer? scene timer)

end Unmarked

section Moves

variable {scene : Scene} {env : Environment}

theorem Move.unmarked {bounds : Bounds} (lasting : bounds.deaths = false) {one two : Option OutputId × Scene}
    (move : Move bounds one two) : Unmarked one.2 two.2 := by
  cases move with
  | quiet changes => exact .of_still (changes.still fun _ => id)
  | pause scene env client paused =>
      obtain ⟨_, same, _⟩ := setClientPaused_records scene env client paused
      dsimp only
      rw [same]
      exact ⟨rfl, id⟩
  | hang | forgetConnect | finish | forgetRedraw | forgetHidden | delist | lock => exact ⟨rfl, id⟩
  | register handled =>
      rcases clientResourceCreate_registered _ _ handled with rfl | ⟨_, _, registered⟩
      · exact .refl _
      · exact .of_lasting registered.lasting
  | clean handled =>
      obtain ⟨_, cleaned⟩ := cleanupClient_cleaned _ _ handled
      exact .of_lasting cleaned.lasting
  | died allowed => cases lasting.symm.trans allowed
  | start _ _ _ handled => exact .of_lasting (connectPlugin_connected _ _ _ handled).lasting
  | redraw handled => exact .of_changes (armRedraw_changes _ _ handled) (by simp)
  | cancel scene id => exact .of_changes (cancelSubmissionTimer_changes id) (by simp)
  | armHidden scene => exact .of_changes armHiddenCheck_changes (by simp)
  | @remove _ _ cleaned _ id output present handled =>
      have dropped : Unmarked cleaned (cleaned.dropOutput id output.clientSubmissionTimer) :=
        .removeTimer? cleaned output.clientSubmissionTimer
      rcases cleanupServing_cleaned _ _ handled with ⟨_, rfl⟩ | ⟨_, _, _, lasting⟩
      · exact dropped
      · exact (Unmarked.of_lasting lasting.lasting).trans dropped
  | display up => exact ⟨rfl, nofun⟩

theorem Moves.unmarked {bounds : Bounds} (lasting : bounds.deaths = false) {creating : Option OutputId}
    {first second : Scene} (moves : Moves bounds creating first second) : Unmarked first second :=
  moves.keep (fun _ => Unmarked first) (fun move before => before.trans (move.unmarked lasting)) (.refl first)

/-- A client that ends and is started again gives nobody up. -/
def restarts (scene : Scene) (env : Environment) (client : WlClientId) : Bool :=
  ((recordOf scene client).bind scene.bgClients.cell).all fun record => !abandons env record

theorem clientGone_unmarked {client : WlClientId} (again : restarts scene env client = true) :
    Ensures (clientGone scene env client) (Unmarked scene) := by
  refine .via (Unmarked scene) ?_ fun notified kept => ?_
  · cases found : recordOf scene client with
    | none => exact .pure (.refl scene)
    | some id =>
        refine (clientDestroyed_ends id).weaken fun next ⟨record, cleaned, cleaning, ends⟩ => ?_
        rcases ends with ⟨givenUp, _⟩ | ⟨_, _, connected⟩
        · simp [restarts, found, cleaning.present, givenUp] at again
        · exact (Unmarked.of_lasting cleaning.lasting).trans (.of_lasting connected.lasting)
  · exact (wlClientDestroy_still client env.owned).weaken fun _ still => kept.trans (.of_still still)

theorem clientGone_marks {client : WlClientId} (elapsed : restarts scene env client = false) :
    Ensures (clientGone scene env client) fun next =>
      next.startClientlessMode = true ∧ next.display = scene.display := by
  refine .via (fun next : Scene => next.startClientlessMode = true ∧ next.display = scene.display) ?_
    fun notified marked => ?_
  · cases found : recordOf scene client with
    | none => simp [restarts, found] at elapsed
    | some id =>
        refine (clientDestroyed_ends id).weaken fun next ⟨record, cleaned, cleaning, ends⟩ => ?_
        rcases ends with ⟨_, rfl⟩ | ⟨started, _⟩
        · exact ⟨rfl, cleaning.lasting.display⟩
        · simp [restarts, found, cleaning.present, started] at elapsed
  · refine (wlClientDestroy_still client env.owned).weaken fun _ still => ?_
    exact ⟨still.startClientlessMode.trans marked.1, still.display.trans marked.2⟩

theorem setupClientlessMode_down : (setupClientlessMode scene env).display = false := by
  unfold setupClientlessMode
  split
  · have falls (items : List OutputId) (state : Scene) :
        Unmarked state (items.foldl (fun state id => fallBackSurface state env id) state) :=
      foldl_keeps Unmarked.refl Unmarked.trans
        (fun state id => .of_changes (fallBackSurface_changes env id) (by simp)) items state
    dsimp only
    refine Bool.eq_false_iff.mpr fun up => ?_
    exact absurd ((falls _ _).2 up) Bool.false_ne_true
  · rename_i down
    exact (Bool.not_eq_true _).mp down

end Moves

section Steps

variable {state next : SwaylockState} {occurrence : Occurrence}

theorem unmarked_of_step (moved : swaylock.machine.step state occurrence next)
    (again : ∀ client, occurrence.event = .scene (.clientGone client) → restarts state.scene occurrence.env client = true) :
    Unmarked state.scene next.scene := by
  have step := sceneStep_of_step moved
  obtain ⟨event, env⟩ := occurrence
  generalize next.scene = last at step
  cases step with
  | tick => exact ⟨rfl, id⟩
  | @scene event _ _ handled =>
      by_cases dies : event.dies = true
      · cases event with
        | clientGone client => exact clientGone_unmarked (again client rfl) _ handled
        | _ => cases dies
      · exact (handleScene_moves state.runDisplay event _ handled).unmarked ((Bool.not_eq_true _).mp dies)
  | hiddenCheck _ kept =>
      have moves : Moves .lasting none state.scene (hiddenCheckTimeout state.scene env) := hiddenCheckTimeout_moves rfl
      exact (moves.unmarked rfl).trans (.of_retimed kept)
  | connectionTimeout _ handled kept =>
      have moves : Moves .lasting none _ _ := clientConnectionTimeout_moves _ _ handled
      exact (moves.unmarked rfl).trans (.of_retimed kept)
  | redrawTimeout _ handled kept =>
      have moves : Moves .lasting none _ _ := outputRedrawTimeout_moves _ _ handled
      exact (moves.unmarked rfl).trans (.of_retimed kept)
  | start kept creates runs =>
      have moves : Moves .lasting none _ _ := createSurfaces_moves (fun _ => rfl) _ creates
      exact (Unmarked.of_retimed kept).trans ((moves.trans (startMainPlugin_moves _ runs)).unmarked rfl)
  | armHiddenCheck => exact .of_changes armHiddenCheck_changes (by simp)
  | resume =>
      have moves : Moves .lasting none state.scene (resumeAllClients state.scene env) := resumeAllClients_moves
      exact moves.unmarked rfl
  | indicated indicated => exact .of_indicated indicated

end Steps

section MainLoop

/-- A plugin whose connection cannot be flushed is started again. -/
def flushRestarts (main : MainState) : MainEvent → Bool
  | .occur ⟨.scene (.clientGone client), env⟩ => main.stage != .flushing || restarts main.state.scene env client
  | _ => true

/-- Outside of a dispatch of the nested server nothing waits for the fall back. -/
def Settled (main : MainState) : Prop :=
  main.stage ≠ .nested → main.state.scene.display = true → main.state.scene.startClientlessMode = false

theorem afterDispatchNested_settles {scene : Scene} {env : Environment}
    (up : (afterDispatchNested scene env).display = true) : (afterDispatchNested scene env).startClientlessMode = false := by
  unfold afterDispatchNested at up ⊢
  split at up
  · rw [setupClientlessMode_down] at up
    cases up
  · rename_i unmarked
    rw [if_neg unmarked]
    exact (Bool.not_eq_true _).mp unmarked

theorem Settled.outside {main : MainState} {occurrence : Occurrence} {state : SwaylockState} (settled : Settled main)
    (outside : main.stage ≠ .nested) (admitted : main.admits occurrence.event = true)
    (again : flushRestarts main (.occur occurrence) = true)
    (moved : swaylock.machine.step main.state occurrence state) (stage : LoopStage) : Settled ⟨state, stage⟩ := by
  have unmarked : Unmarked main.state.scene state.scene := by
    refine unmarked_of_step moved fun client gone => ?_
    obtain ⟨event, env⟩ := occurrence
    cases gone
    have flushing : main.stage = .flushing := by
      cases here : main.stage with
      | flushing => rfl
      | nested => exact absurd here outside
      | polling => simp [MainState.admits, here, Event.ticks, Event.dispatches, SceneEvent.nested] at admitted
    simpa [flushRestarts, flushing] using again
  intro _ up
  exact unmarked.1.trans (settled outside (unmarked.2 up))

theorem Settled.step {main next : MainState} {event : MainEvent} (settled : Settled main)
    (moved : (mainLoop.machine.guarded flushRestarts).step main event next) : Settled next := by
  obtain ⟨⟨allowed, handled⟩, again⟩ := moved
  change mainEnabled main event = true at allowed
  cases event with
  | poll =>
      cases handled
      simp only [mainEnabled, Bool.and_eq_true, beq_iff_eq] at allowed
      exact fun _ => settled (by rw [allowed.1]; decide)
  | dispatchNested =>
      cases handled
      exact fun outside => absurd rfl outside
  | occur occurrence =>
      obtain ⟨state, computed, rest⟩ := bind_ok.mp handled
      cases rest
      obtain ⟨permitted, admitted⟩ := (Bool.and_eq_true _ _).mp allowed
      by_cases outside : main.stage = .nested
      · obtain ⟨event, env⟩ := occurrence
        intro left
        have ends : event = .scene .nestedDispatched := by
          simp only [MainState.admits, outside, Bool.or_eq_true] at admitted
          rw [outside] at left
          cases event with
          | scene event => cases event <;> first | rfl | exact absurd rfl left
          | tick now => exact absurd rfl left
          | _ => rcases admitted with ticks | dispatches <;> contradiction
        subst ends
        obtain ⟨scene, ran, same⟩ := bind_ok.mp computed
        cases ran
        cases same
        exact afterDispatchNested_settles
      · exact settled.outside outside admitted again ⟨permitted, computed⟩ _

/-- A plugin whose connection cannot be flushed and that is not started again leaves a poll that waits for nothing. -/
theorem unmet_poll {main next : MainState} {event : MainEvent} (moved : mainLoop.machine.step main event next)
    (elapsed : flushRestarts main event = false) : mainEnabled next .poll = true ∧ next.state.scene.display = true ∧
      next.state.scene.startClientlessMode = true := by
  obtain ⟨allowed, handled⟩ := moved
  change mainEnabled main event = true at allowed
  match event with
  | .poll | .dispatchNested => cases elapsed
  | .occur ⟨event, env⟩ =>
      cases event with
      | scene event =>
          cases event with
          | clientGone client =>
              simp only [flushRestarts, Bool.or_eq_false_iff, bne_eq_false_iff_eq] at elapsed
              obtain ⟨state, computed, rest⟩ := bind_ok.mp handled
              obtain ⟨scene, gone, same⟩ := bind_ok.mp computed
              cases rest
              cases same
              simp only [mainEnabled, enabled, SceneEvent.nested, if_true, Bool.and_eq_true] at allowed
              obtain ⟨marked, display⟩ := clientGone_marks elapsed.2 _ gone
              refine ⟨?_, display.trans allowed.1.1.2, marked⟩
              change (main.stage == .flushing && main.state.polling) = true
              rw [elapsed.1, allowed.1.1.1]
              rfl
          | _ => cases elapsed
      | _ => cases elapsed

/-- In every run in which each plugin whose connection cannot be flushed is started again, no poll blocks while the nested
display waits for the fall back, and the first one that is not started again leads to such a poll. -/
theorem no_poll_before_fall_back (main : MainState) :
    ((mainLoop.machine.guarded flushRestarts).Reachable main → mainEnabled main .poll = true →
      main.state.scene.display = true → main.state.scene.startClientlessMode = false) ∧
    ∀ event next, mainLoop.machine.step main event next → flushRestarts main event = false →
      mainEnabled next .poll = true ∧ next.state.scene.display = true ∧ next.state.scene.startClientlessMode = true := by
  refine ⟨fun reachable polls up => ?_, fun event next => unmet_poll⟩
  have settled : Settled main := by
    refine reachable.invariant Settled ?_ ?_
    · exact fun main start _ _ => start.1.display.2
    · exact fun _ _ _ settled moved => settled.step moved
  simp only [mainEnabled, Bool.and_eq_true, beq_iff_eq] at polls
  exact settled (by rw [polls.1]; decide) up

/-- The plugin of all outputs asks for a registry, and then the main loop is about to poll again. -/
def registryEvents : List MainEvent :=
  [.occur (Event.start.obliged), .occur (Event.check true).obliged, .poll, .dispatchNested,
    .occur (Event.scene (.request 0 .getRegistry)).obliged, .occur (Event.scene .nestedDispatched).obliged,
    .occur Event.sweep.obliged, .occur Event.pollDone.obliged, .occur (Event.check true).obliged]

/-- The connection of the plugin ends while it is flushed, and the plugin is started again where that succeeds. -/
def flushedAway (spawned : Option Int) : MainEvent :=
  .occur ⟨.scene (.clientGone 0), ⟨fun _ => spawned, fun _ => true, fun _ => true, []⟩⟩

/-- A plugin that is started again after a flush lets the next poll start without a mark. -/
theorem no_poll_before_fall_back_restarted : ∃ main, mainEnabled main .poll = true ∧
    main.state.scene.startClientlessMode = false ∧ main.state.scene.clients = [1] := by
  obtain ⟨main, reachable, passed⟩ := mainLoop.play_guarded flushRestarts (registryEvents ++ [flushedAway (some 3)])
    (fun main => mainEnabled main .poll && main.state.scene.display && main.state.scene.clients == [1])
    (⟨startState_initial .default .complete .opened, rfl⟩ :
      mainLoop.initial ⟨defaultState, .flushing⟩)
    (by decide +kernel : ((mainLoop.guarded flushRestarts).play _ _).any _ = true)
  simp only [Bool.and_eq_true, beq_iff_eq] at passed
  have clear := (no_poll_before_fall_back main).1 reachable passed.1.1 passed.1.2
  exact ⟨main, passed.1.1, clear, passed.2⟩

/-- A poll starts with the mark still set where a plugin exits after its registry, its connection cannot be flushed and it
cannot be started again. -/
theorem poll_blocks_before_fall_back : ¬ ∀ main, mainLoop.machine.Reachable main → mainEnabled main .poll = true →
    main.state.scene.display = true → main.state.scene.startClientlessMode = false := by
  intro claim
  obtain ⟨main, reachable, passed⟩ := mainLoop.play_reachable (registryEvents ++ [flushedAway none])
    (fun main => mainEnabled main .poll && main.state.scene.display && main.state.scene.startClientlessMode)
    (⟨startState_initial .default .complete .opened, rfl⟩ :
      mainLoop.initial ⟨defaultState, .flushing⟩)
    (by decide +kernel : (mainLoop.play _ _).any _ = true)
  simp only [Bool.and_eq_true] at passed
  rw [claim main reachable passed.1.1 passed.1.2] at passed
  exact absurd passed.2 (by decide)

end MainLoop

end SwaylockPlugin
