import SwaylockPlugin.Proof.Callbacks
import SwaylockPlugin.Proof.NestedOutputs

namespace SwaylockPlugin

open Library

/-- A handler that obtains an output finds it in the list of outputs or does nothing. -/
def Harmless {State Error : Type} (surfaces : List OutputId) (obtained : Option OutputId) (state : State)
    (result : Except Error State) : Prop :=
  ∀ output, obtained = some output → output ∈ surfaces ∨ result = .ok state

/-- A request on a layer surface or with an output resource obtains the output that is the user data of the resource,
and a bind obtains the output of the global. -/
def requestedOutput (scene : Scene) (client : WlClientId) : Request → Option OutputId
  | .bindOutput output => some output
  | .surface id (.getLayerSurface (some resource)) =>
      match ownsSurface scene client id, ownedRole scene client resource with
      | true, some (.output output) => some output
      | _, _ => none
  | .object id (.ackConfigure _) =>
      match ownedRole scene client id with
      | some (.layerSurface output) => some output
      | _ => none
  | _ => none

theorem output_freed {scene : Scene} {id : OutputId} (gone : scene.outputs.live id = false) {Result : Type}
    (rest : SwaylockSurface → Handled Result) : (scene.output id >>= rest) = .error .invalidPointer := by
  unfold Scene.output
  rw [Heap.not_live_iff.mp gone]
  rfl

theorem handleRequest_freed {scene : Scene} {client : WlClientId} {request : Request} {output : OutputId}
    (named : requestedOutput scene client request = some output) (gone : scene.outputs.live output = false) :
    handleRequest scene client request = .error .invalidPointer := by
  unfold requestedOutput at named
  split at named
  · cases named
    exact output_freed gone _
  · rename_i id resource
    split at named
    · rename_i found owned role
      cases named
      change (if ownsSurface scene client id = true then getLayerSurface scene client id (some resource) else _) = _
      rw [if_pos owned]
      unfold getLayerSurface
      dsimp only
      rw [role]
      have chosen : layerOutput scene client (some output) = some output := by simp [layerOutput]
      change wlrLayerShellGetLayerSurface scene client id (some output) = _
      unfold wlrLayerShellGetLayerSurface
      rw [chosen]
      exact output_freed gone _
    · cases named
  · rename_i id serial
    split at named
    · rename_i role
      cases named
      unfold handleRequest
      dsimp only
      rw [role]
      exact output_freed gone _
    · cases named
  · cases named

/-- In every reachable state a request finds the output that it obtains in the list of outputs, or does nothing with it,
exactly when the output was not removed or there is no memory for the resource that it asks for. -/
theorem stale_requests_iff (state : SwaylockState) (scene : Nested.NestedScene) :
    (swaylock.machine.Reachable state → ∀ client request,
      Harmless state.scene.surfaces (requestedOutput state.scene client request) state.scene
          (handleRequest state.scene client request) ↔
        ∀ output, requestedOutput state.scene client request = some output → state.scene.outputs.live output = true) ∧
    (Nested.nesting.machine.Reachable scene → ∀ event, Nested.nestedEnabled scene event = true →
      (Harmless scene.surfaces (Nested.target scene event) scene (Nested.handleNested scene event) ↔
        (event.uses = true → ∀ output, Nested.target scene event = some output →
          scene.outputs.live output = true))) := by
  constructor
  · intro reachable client request
    obtain ⟨_, listed⟩ := surfaces_listed reachable
    refine forall_congr' fun output => imp_congr_right fun named => ?_
    cases live : state.scene.outputs.live output with
    | true => exact iff_of_true (.inl ((listed output).mpr live)) rfl
    | false =>
        refine iff_of_false ?_ Bool.false_ne_true
        rintro (inside | unchanged)
        · exact Bool.false_ne_true (live.symm.trans ((listed output).mp inside))
        · cases (handleRequest_freed named live).symm.trans unchanged
  · intro reachable event allowed
    obtain ⟨⟨lists, sound⟩, connected⟩ := Nested.sound_of_reachable reachable
    constructor
    · intro harmless
      by_contra absent
      have failed := Nested.handleNested_removed sound absent
      simp only [not_forall, Bool.not_eq_true] at absent
      obtain ⟨_, output, named, gone⟩ := absent
      rcases harmless output named with inside | unchanged
      · exact Bool.false_ne_true (gone.symm.trans ((connected.present output).mp inside))
      · cases failed.symm.trans unchanged
    · intro present output named
      cases used : event.uses with
      | true => exact .inl ((connected.present output).mpr (present used output named))
      | false => exact .inr (Nested.handleNested_idle named used)

/-- A plugin for all outputs acknowledges a configure of an output that was removed. -/
theorem stale_requests_fail : ¬ ∀ state, swaylock.machine.Reachable state → ∀ client request,
    Harmless state.scene.surfaces (requestedOutput state.scene client request) state.scene
      (handleRequest state.scene client request) := by
  intro claim
  obtain ⟨state, reachable, passed⟩ := swaylock.play_reachable
    ((presentingEvents ++ [Event.scene (.outputRemoved 1)]).map Event.obliged)
    (fun state => requestedOutput state.scene 0 (.object 1 (.ackConfigure 100002)) == some 0 &&
      !state.scene.outputs.live 0)
    (startState_initial _ _ _) (by decide +kernel : (swaylock.play defaultState _).any _ = true)
  simp only [Bool.and_eq_true, beq_iff_eq, Bool.not_eq_true'] at passed
  obtain ⟨named, gone⟩ := passed
  rcases claim state reachable 0 (.object 1 (.ackConfigure 100002)) 0 named with inside | unchanged
  · exact Bool.false_ne_true (gone.symm.trans (((surfaces_listed reachable).2 0).mp inside))
  · cases (handleRequest_freed named gone).symm.trans unchanged

/-- A request on a layer surface of a present output is harmless. -/
theorem stale_requests_present : ∃ state : SwaylockState, Harmless state.scene.surfaces
    (requestedOutput state.scene 0 (.object 1 (.ackConfigure 100002))) state.scene
      (handleRequest state.scene 0 (.object 1 (.ackConfigure 100002))) := by
  obtain ⟨state, reachable, passed⟩ := swaylock.play_reachable (presentingEvents.map Event.obliged)
    (fun state => (requestedOutput state.scene 0 (.object 1 (.ackConfigure 100002))).all state.scene.outputs.live)
    (startState_initial _ _ _) (by decide +kernel : (swaylock.play defaultState _).any _ = true)
  refine ⟨state, ((stale_requests_iff state Nested.startScene).1 reachable 0 _).mpr fun output named => ?_⟩
  rw [named] at passed
  exact passed

end SwaylockPlugin
