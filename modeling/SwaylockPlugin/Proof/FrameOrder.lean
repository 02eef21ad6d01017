import SwaylockPlugin.Proof.Delivery

namespace SwaylockPlugin

open Library

/-- An observer lists the frame callbacks that were requested on each surface. -/
def framesAsked (asked : List (SurfaceId × ResourceId)) (state : SwaylockState) (occurrence : Occurrence) :
    List (SurfaceId × ResourceId) :=
  match occurrence.event with
  | .scene (.request client (.surface id .frame)) =>
      if ownsSurface state.scene client id then asked ++ [(id, state.scene.resources.next)] else asked
  | _ => asked

/-- An upstream frame callback completes a batch only where no waiting batch holds a frame callback that was requested
earlier on the same surface than one of the batch. -/
def completesOldest (pair : SwaylockState × List (SurfaceId × ResourceId)) (occurrence : Occurrence) : Bool :=
  match occurrence.event with
  | .scene (.backgroundFrameDone id) => pair.1.scene.batches.oldest pair.2 id
  | _ => true

/-- The done events of the frame callbacks of a surface are sent in the order of the requests. -/
def DoneInOrder (scene : Scene) (asked : List (SurfaceId × ResourceId)) : Prop :=
  ∀ surface, ((callbacksDone scene.wire).filter fun callback =>
    (Batches.askedOn surface asked).contains callback).Sublist (Batches.askedOn surface asked)

/-- A batch holds nothing but what a surface had collected when a commit made the batch. -/
def MadeByCommit (state : SwaylockState) (batch : CallbackId) : Prop :=
  ∃ (before after : SwaylockState) (client : WlClientId) (surface : SurfaceId) (env : Environment)
      (events : List Occurrence), swaylock.machine.Reachable before ∧
    swaylock.machine.step before ⟨.scene (.request client (.surface surface .commit)), env⟩ after ∧
    swaylock.machine.Run after events state ∧ before.scene.batches.nextBatch = batch ∧
    after.scene.batches = before.scene.batches.pass surface ∧
    (state.scene.batches.lists (.inr batch)).Sublist (before.scene.batches.lists (.inl surface))

section Wire

variable {state next : SwaylockState} {occurrence : Occurrence}

theorem callbacksDone_of_step (moved : swaylock.machine.step state occurrence next)
    (other : ∀ batch, occurrence.event ≠ .scene (.backgroundFrameDone batch)) :
    callbacksDone next.scene.wire = callbacksDone state.scene.wire := by
  obtain ⟨event, env⟩ := occurrence
  cases objectStep_of_step moved with
  | aside changes => exact changes.done
  | emptied _ _ _ emptied =>
      obtain ⟨before, after, early, destroyed, late⟩ := emptied
      have between : Changes destroyEffects before after :=
        Changes.foldlM (fun _ item => destroyOwned_changes item) env.owned before after destroyed
      exact late.done.trans ((between.callbacksDone (by simp)).trans early.done)
  | presented => exact absurd rfl (other _)
  | request _ handled => exact (handleRequest_changes _ _ next.scene handled).callbacksDone (by simp)

theorem BatchDone.callbacksDone {first second : Scene} {id : CallbackId} {record : FrameCallbacks}
    (step : BatchDone id record first second) :
    callbacksDone second.wire = callbacksDone first.wire ++ first.batches.lists (.inr id) := by
  have told (callbacks : List ResourceId) :
      (callbacks.map fun callback => Message.plugin (.callbackDone callback)).filterMap Message.completes = callbacks := by
    rw [List.filterMap_map]
    exact List.filterMap_some
  rw [SwaylockPlugin.callbacksDone, step.wire, List.filterMap_append, told, batches_inr step.before]
  rfl

theorem framed_of_step {client : WlClientId} {id : SurfaceId} {env : Environment}
    (moved : swaylock.machine.step state ⟨.scene (.request client (.surface id .frame)), env⟩ next) :
    ownsSurface state.scene client id = true ∧ next.scene = nestedSurfaceFrame state.scene client id ∨
      ownsSurface state.scene client id = false ∧ KeepsWaiting state.scene next.scene := by
  obtain ⟨scene, handled, same⟩ := bind_ok.mp moved.2
  cases same
  change (if ownsSurface state.scene client id then _ else _) = Except.ok scene at handled
  split at handled
  · rename_i owned
    cases handled
    exact .inl ⟨owned, rfl⟩
  · rename_i foreign
    cases handled
    have posted : Changes [.plugin] state.scene (invalidObject state.scene client) :=
      .postError state.scene client _ (by simp)
    exact .inr ⟨Bool.not_eq_true _ ▸ foreign, (KeepsObjects.of_changes posted (by simp)).waiting⟩

end Wire

section Turns

variable {scene : Scene} {asked : List (SurfaceId × ResourceId)} {done : List ResourceId}

theorem inTurn_framed (turn : scene.batches.InTurn asked done) (client : WlClientId) (id : SurfaceId) :
    (nestedSurfaceFrame scene client id).batches.InTurn (asked ++ [(id, scene.resources.next)]) done := by
  cases present : scene.forwardSurfaces.cell id with
  | some surface => exact batches_framed client present ▸ turn.push id
  | none =>
      refine (turn.push id).drop (fun place => ?_) (Nat.le_refl _) (Nat.le_refl _)
      have created := KeepsWaiting.createResource scene client .frameCallback
      have kept : KeepsWaiting scene (nestedSurfaceFrame scene client id) :=
        created.trans (.setForward _ id fun surface there => absurd (present.symm.trans there) (by simp))
      refine (kept.lists place).trans ?_
      rcases scene.batches.push_lists id place with ⟨rfl, same⟩ | ⟨_, same⟩
      · exact same ▸ List.sublist_cons_self _ _
      · exact same ▸ .refl _

variable {state next : SwaylockState} {occurrence : Occurrence}

theorem inTurn_of_step (users : UserGuard none state.scene)
    (turn : state.scene.batches.InTurn asked (callbacksDone state.scene.wire))
    (moved : swaylock.machine.step state occurrence next) (admitted : completesOldest (state, asked) occurrence = true) :
    next.scene.batches.InTurn (framesAsked asked state occurrence) (callbacksDone next.scene.wire) := by
  obtain ⟨event, env⟩ := occurrence
  by_cases completes : ∃ batch, event = .scene (.backgroundFrameDone batch)
  · obtain ⟨batch, rfl⟩ := completes
    obtain ⟨record, step⟩ := batchDone_of_step moved
    rw [step.callbacksDone]
    refine turn.deliver admitted (fun place => ?_) (Nat.le_of_eq step.next.symm) (Nat.le_of_eq step.later.symm) step.gone
    by_cases here : place = .inr batch
    · rw [here, step.gone]
      exact List.nil_sublist _
    · exact step.others place here ▸ .refl _
  · rw [callbacksDone_of_step moved fun batch same => completes ⟨batch, same⟩]
    by_cases asks : ∃ client id, event = .scene (.request client (.surface id .frame))
    · obtain ⟨client, id, rfl⟩ := asks
      unfold framesAsked
      rcases framed_of_step moved with ⟨owned, same⟩ | ⟨foreign, kept⟩
      · dsimp only
        rw [if_pos owned, same]
        exact inTurn_framed turn client id
      · dsimp only
        rw [if_neg (foreign ▸ Bool.false_ne_true)]
        exact turn.drop kept.lists kept.resources kept.later
    · have idle : framesAsked asked state ⟨event, env⟩ = asked := by
        unfold framesAsked
        split
        · rename_i client id asking
          exact absurd ⟨client, id, asking⟩ asks
        · rfl
      rw [idle]
      cases callbackStep_of_step users turn.delivered.sound moved with
      | waiting kept => exact turn.drop kept.lists kept.resources kept.later
      | framed => exact absurd ⟨_, _, rfl⟩ asks
      | passed batches => exact batches ▸ turn.pass _
      | completed => exact absurd ⟨_, rfl⟩ completes

/-- Frame callbacks stay in turn where the batches with the oldest ones are completed. -/
theorem inTurn_of_reachable
    (reachable : ((swaylock.machine.observed [] framesAsked).guarded completesOldest).Reachable (state, asked)) :
    state.scene.batches.InTurn asked (callbacksDone state.scene.wire) := by
  refine reachable.invariant_under (fun pair => UserGuard none pair.1.scene)
    (fun pair => pair.1.scene.batches.InTurn pair.2 (callbacksDone pair.1.scene.wire)) ?_ ?_ ?_
  · exact fun pair before => userGuard_of_reachable before.of_restrict.of_observed
  · rintro ⟨state, asked⟩ ⟨initial, rfl⟩
    have guard := callbackGuard_of_reachable (.initial ⟨initial, rfl⟩)
    have silent : callbacksDone state.scene.wire = [] := by rw [initial.wire]; rfl
    have empty (place : Nat ⊕ Nat) : state.scene.batches.lists place = [] := batches_initial initial place
    rw [silent]
    refine ⟨guard.delivered, ?_, ?_, .nil, ?_, ?_, ?_, ?_, ?_, .nil⟩ <;> simp [empty]
  · rintro ⟨state, asked⟩ occurrence ⟨next, _⟩ users turn ⟨⟨moved, rfl⟩, admitted⟩
    exact inTurn_of_step users turn moved admitted

theorem madeByCommit_of_reachable (reachable : swaylock.machine.Reachable state) {batch : CallbackId}
    (waits : state.scene.batches.lists (.inr batch) ≠ []) : MadeByCommit state batch := by
  induction reachable with
  | initial first => exact absurd (batches_initial first _) waits
  | @step state next occurrence before moved ih =>
      have later (kept : (next.scene.batches.lists (.inr batch)).Sublist (state.scene.batches.lists (.inr batch))) :
          MadeByCommit next batch := by
        obtain ⟨start, made, client, surface, env, events, reached, commits, run, fresh, passed, held⟩ :=
          ih fun none => waits (List.sublist_nil.mp (none ▸ kept))
        exact ⟨start, made, client, surface, env, events ++ [occurrence], reached, commits, run.append (.single moved), fresh,
          passed, kept.trans held⟩
      have users := userGuard_of_reachable before
      obtain ⟨done, observed⟩ := before.observed [] doneCallbacks
      have sound := (callbackGuard_of_reachable observed).delivered.sound
      obtain ⟨event, env⟩ := occurrence
      cases callbackStep_of_step users sound moved with
      | waiting kept => exact later (kept.lists _)
      | @framed client id _ same =>
          refine later ?_
          rw [same]
          exact .refl _
      | @passed client id _ batches =>
          rcases state.scene.batches.pass_lists id (.inr batch) with ⟨new, same⟩ | ⟨other, _⟩ | ⟨_, same⟩
          · refine ⟨state, next, client, id, env, [], before, moved, .rest next, (Sum.inr.inj new).symm, batches, ?_⟩
            rw [batches, same]
          · cases other
          · exact later (by rw [batches, same])
      | @completed id _ _ step =>
          by_cases here : (.inr batch : Nat ⊕ Nat) = .inr id
          · exact absurd (here ▸ step.gone) waits
          · exact later (step.others _ here ▸ .refl _)

end Turns

/-- A frame callback is done at most once and only with the batch that a commit made of it and of earlier ones, and where
upstream completes the batches with the oldest frame callbacks first, those of a surface are done in the order of the
requests. -/
theorem callbacks_done_in_turn {state : SwaylockState} {asked : List (SurfaceId × ResourceId)}
    (reachable : ((swaylock.machine.observed [] framesAsked).guarded completesOldest).Reachable (state, asked)) :
    (callbacksDone state.scene.wire).Nodup ∧
    (∀ callback ∈ callbacksDone state.scene.wire, ∃ surface, (surface, callback) ∈ asked) ∧
    DoneInOrder state.scene asked ∧
    ∀ occurrence next, swaylock.machine.step state occurrence next →
      callbacksDone next.scene.wire = callbacksDone state.scene.wire ∨
      ∃ batch, occurrence.event = .scene (.backgroundFrameDone batch) ∧ MadeByCommit state batch ∧
        callbacksDone next.scene.wire = callbacksDone state.scene.wire ++ state.scene.batches.lists (.inr batch) := by
  have turn := inTurn_of_reachable reachable
  refine ⟨turn.delivered.once, turn.finished, turn.sublist, fun occurrence next moved => ?_⟩
  by_cases completes : ∃ batch, occurrence.event = .scene (.backgroundFrameDone batch)
  · obtain ⟨event, env⟩ := occurrence
    obtain ⟨batch, rfl⟩ := completes
    obtain ⟨record, step⟩ := batchDone_of_step moved
    have done := step.callbacksDone
    by_cases empty : state.scene.batches.lists (.inr batch) = []
    · rw [empty, List.append_nil] at done
      exact .inl done
    · exact .inr ⟨batch, rfl, madeByCommit_of_reachable reachable.of_restrict.of_observed empty, done⟩
  · exact .inl (callbacksDone_of_step moved fun batch same => completes ⟨batch, same⟩)

/-- Frame callbacks that are requested for one frame each are done in order. -/
theorem callbacks_done_in_turn_twice : ∃ (state : SwaylockState) (asked : List (SurfaceId × ResourceId)),
    callbacksDone state.scene.wire = [2, 3] ∧ DoneInOrder state.scene asked := by
  obtain ⟨⟨state, asked⟩, reachable, passed⟩ := (swaylock.observed [] framesAsked).play_guarded completesOldest
    ((presentingEvents ++ [Event.scene (.request 0 (.surface 0 .frame)), .scene (.request 0 (.surface 0 .commit)),
      .scene (.backgroundFrameDone 0), .scene (.backgroundFrameDone 1)]).map Event.obliged)
    (fun pair => callbacksDone pair.1.scene.wire == [2, 3]) (⟨startState_initial _ _ _, rfl⟩ : (swaylock.observed [] framesAsked).initial (defaultState, []))
    (by decide +kernel : (((swaylock.observed _ _).guarded _).play (defaultState, _) _).any _ = true)
  rw [swaylock.observed_machine] at reachable
  exact ⟨state, asked, by simpa using passed, (callbacks_done_in_turn reachable).2.2.1⟩

/-- Two frame callbacks that one commit takes are done in the order opposite to their requests. -/
theorem callbacks_done_newest_first : ¬ ∀ (state : SwaylockState) (asked : List (SurfaceId × ResourceId)),
    (swaylock.machine.observed [] framesAsked).Reachable (state, asked) → DoneInOrder state.scene asked := by
  intro claim
  obtain ⟨⟨state, asked⟩, reachable, passed⟩ := swaylock.play_observed [] framesAsked
    ((presentingEvents.dropLast ++ [Event.scene (.request 0 (.surface 0 .frame)), .scene (.request 0 (.surface 0 .commit)),
      .scene (.backgroundFrameDone 0)]).map Event.obliged)
    (fun pair => callbacksDone pair.1.scene.wire == [3, 2] && pair.2 == [(0, 2), (0, 3)]) (startState_initial _ _ _)
    (by decide +kernel : ((swaylock.observed _ _).play (defaultState, _) _).any _ = true)
  obtain ⟨done, requested⟩ := Bool.and_eq_true_iff.mp passed
  have ordered := claim state asked reachable 0
  have both : asked = [(0, 2), (0, 3)] := beq_iff_eq.mp requested
  rw [beq_iff_eq.mp done, both] at ordered
  revert ordered
  decide

end SwaylockPlugin
