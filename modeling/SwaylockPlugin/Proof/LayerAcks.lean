import SwaylockPlugin.Proof.Callbacks
import SwaylockPlugin.Proof.Cycles

namespace SwaylockPlugin

open Library

/-- The plugin surface that is found through an output is the one with a layer surface object. -/
def FindsLayer (scene : Scene) (layer : ResourceId) (output : OutputId) : Prop :=
  ∃ target id surface, scene.outputs.cell output = some target ∧ target.pluginSurface = some id ∧
    scene.forwardSurfaces.cell id = some surface ∧ surface.layerSurface = some layer

/-- The surface of a layer surface object was not destroyed and is still in the role. -/
def KeepsLayer (scene : Scene) (layer : ResourceId) (output : OutputId) : Prop :=
  ∃ id surface, scene.forwardSurfaces.cell id = some surface ∧ surface.layerSurface = some layer ∧
    surface.swaySurface = some output

/-- The surface in the role on an output used a serial last. -/
def RepeatsSerial (scene : Scene) (output : OutputId) (serial : UInt32) : Prop :=
  ∃ id surface, scene.forwardSurfaces.cell id = some surface ∧ surface.swaySurface = some output ∧
    surface.lastUsedPluginSerial = serial

variable {scene next : Scene} {client : WlClientId} {layer : ResourceId} {output : OutputId} {serial : UInt32}

theorem SceneGuard.serving (guard : SceneGuard none scene) {id : SurfaceId} {surface : ForwardSurface}
    (present : scene.forwardSurfaces.cell id = some surface) (role : surface.swaySurface = some output) :
    ∃ target, scene.outputs.cell output = some target ∧ target.pluginSurface = some id := by
  obtain ⟨_, core, there, linked⟩ := guard.links.served output id surface present role
  obtain ⟨target, found, rfl⟩ := Option.map_eq_some_iff.mp there
  exact ⟨target, found, linked⟩

theorem SceneGuard.served (guard : SceneGuard none scene) {target : SwaylockSurface} {id : SurfaceId}
    {surface : ForwardSurface} (there : scene.outputs.cell output = some target)
    (linked : target.pluginSurface = some id) (present : scene.forwardSurfaces.cell id = some surface) :
    surface.swaySurface = some output := by
  obtain ⟨record, found, role⟩ :=
    guard.links.linked output target.core id (Scene.outputCore_of_present there) nofun linked
  cases present.symm.trans found
  exact role

theorem findsLayer_iff (guard : SceneGuard none scene) : FindsLayer scene layer output ↔ KeepsLayer scene layer output := by
  constructor
  · rintro ⟨target, id, surface, there, linked, present, made⟩
    exact ⟨id, surface, present, made, guard.served there linked present⟩
  · rintro ⟨id, surface, present, made, role⟩
    obtain ⟨target, there, linked⟩ := guard.serving present role
    exact ⟨target, id, surface, there, linked, present, made⟩

theorem zwlrLayerSurfaceAckConfigure_notes {target : SwaylockSurface} {id : SurfaceId} {surface : ForwardSurface}
    (there : scene.outputs.cell output = some target) (linked : target.pluginSurface = some id)
    (present : scene.forwardSurfaces.cell id = some surface)
    (acks : zwlrLayerSurfaceAckConfigure scene client output serial = .ok next) :
    ∃ record, next.forwardSurfaces.cell id = some record ∧ record.lastUsedPluginSerial = serial := by
  obtain ⟨_, found, acks⟩ := bind_ok.mp acks
  cases there.symm.trans (demand_ok.mp found)
  obtain ⟨_, found, acks⟩ := bind_ok.mp acks
  cases linked.symm.trans (demand_ok.mp found)
  obtain ⟨_, found, acks⟩ := bind_ok.mp acks
  cases present.symm.trans (demand_ok.mp found)
  split at acks
  · rename_i used
    cases acks
    exact ⟨surface, present, (beq_iff_eq.mp used).symm⟩
  · have noted := cell_noteSerial present serial
    dsimp only at acks
    split at acks
    · cases acks
      exact ⟨_, noted, rfl⟩
    · rename_i pair rest _
      cases acks
      exact ⟨_, cell_usePair noted pair rest, rfl⟩

theorem zwlrLayerSurfaceAckConfigure_unchanged_iff (guard : SceneGuard none scene) :
    zwlrLayerSurfaceAckConfigure scene client output serial = .ok scene ↔ RepeatsSerial scene output serial := by
  constructor
  · intro acks
    obtain ⟨target, found, rest⟩ := bind_ok.mp acks
    have there := demand_ok.mp found
    obtain ⟨id, found, rest⟩ := bind_ok.mp rest
    have linked := demand_ok.mp found
    obtain ⟨surface, found, _⟩ := bind_ok.mp rest
    have present := demand_ok.mp found
    obtain ⟨record, same, used⟩ := zwlrLayerSurfaceAckConfigure_notes there linked present acks
    cases present.symm.trans same
    exact ⟨id, surface, present, guard.served there linked present, used⟩
  · rintro ⟨id, surface, present, role, used⟩
    obtain ⟨target, there, linked⟩ := guard.serving present role
    unfold zwlrLayerSurfaceAckConfigure Scene.output Scene.forward
    rw [there]
    change (demand _ target.pluginSurface >>= _) = _
    rw [linked]
    change (demand _ (scene.forwardSurfaces.cell id) >>= _) = _
    rw [present]
    exact if_pos (beq_iff_eq.mpr used.symm)

/-- In every reachable state an acknowledgement on a layer surface object finds the surface of that object, or has no
effect, exactly when that surface was not destroyed and is still in the role, or the serial was used last. -/
theorem acks_find_surface_iff {state : SwaylockState} (reachable : swaylock.machine.Reachable state)
    (owned : ownedRole state.scene client layer = some (.layerSurface output)) :
    FindsLayer state.scene layer output ∨
        handleRequest state.scene client (.object layer (.ackConfigure serial)) = .ok state.scene ↔
      KeepsLayer state.scene layer output ∨ RepeatsSerial state.scene output serial := by
  have guard := (guarded_of_reachable reachable).1
  have handles : handleRequest state.scene client (.object layer (.ackConfigure serial)) =
      zwlrLayerSurfaceAckConfigure state.scene client output serial := by
    unfold handleRequest
    dsimp only
    rw [owned]
    rfl
  rw [findsLayer_iff guard, handles, zwlrLayerSurfaceAckConfigure_unchanged_iff guard]

/-- A plugin that drew acknowledges the configure of its own surface. -/
theorem acks_find_surface_iff_drawn : ∃ state : SwaylockState, FindsLayer state.scene 1 0 ∨
    handleRequest state.scene 0 (.object 1 (.ackConfigure 100002)) = .ok state.scene := by
  obtain ⟨state, reachable, passed⟩ := swaylock.play_reachable (presentingEvents.map Event.obliged)
    (fun state => (ownedRole state.scene 0 1 == some (.layerSurface 0)) &&
      (state.scene.forwardSurfaces.cell 0).any fun surface => surface.layerSurface == some 1 && surface.swaySurface == some 0)
    (startState_initial _ _ _) (by decide +kernel : (swaylock.play defaultState _).any _ = true)
  simp only [Bool.and_eq_true, Option.any_eq_true, beq_iff_eq] at passed
  obtain ⟨owned, surface, present, made, role⟩ := passed
  exact ⟨state, (acks_find_surface_iff reachable owned).mpr (.inl ⟨0, surface, present, made, role⟩)⟩

/-- An acknowledgement on the layer surface object of a destroyed surface follows a null pointer. -/
theorem ack_finds_no_surface : ¬ ∀ (state : SwaylockState) (client : WlClientId) (layer : ResourceId) (output : OutputId)
    (serial : UInt32), swaylock.machine.Reachable state →
      ownedRole state.scene client layer = some (.layerSurface output) → FindsLayer state.scene layer output ∨
        handleRequest state.scene client (.object layer (.ackConfigure serial)) = .ok state.scene := by
  intro claim
  obtain ⟨state, reachable, passed⟩ := swaylock.play_reachable
    ((presentingEvents ++ [Event.scene (.request 0 (.surface 0 .destroy))]).map Event.obliged)
    (fun state => (ownedRole state.scene 0 1 == some (.layerSurface 0)) &&
      ((state.scene.outputs.cell 0).all fun target => target.pluginSurface.isNone) &&
      !(handleRequest state.scene 0 (.object 1 (.ackConfigure 100002))).toBool)
    (startState_initial _ _ _) (by decide +kernel : (swaylock.play defaultState _).any _ = true)
  simp only [Bool.and_eq_true, beq_iff_eq, Bool.not_eq_true'] at passed
  obtain ⟨⟨owned, alone⟩, failed⟩ := passed
  rcases claim state 0 1 0 100002 reachable owned with ⟨target, id, surface, there, linked, _⟩ | unchanged
  · rw [there, Option.all_some, linked] at alone
    cases alone
  · rw [unchanged] at failed
    cases failed

end SwaylockPlugin
