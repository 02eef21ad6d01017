import SwaylockPlugin.Proof.Own

namespace SwaylockPlugin

open Library

variable {meets : CycleView → CycleEvent → Prop} {hidden : Option OutputId}

/-- An output that loses its plugin surface forgets it. -/
def forgetPlugin (scene : Scene) : Option OutputId → Scene
  | none => scene
  | some output => scene.setOutput output fun record => { record with pluginSurface := none }

/-- A plugin surface that is destroyed leaves its output and the heap. -/
def dropSurface (scene : Scene) (id : SurfaceId) (role : Option OutputId) : Scene :=
  { forgetPlugin scene role with forwardSurfaces := scene.forwardSurfaces.free id }

section Drop

variable {scene : Scene} {id : SurfaceId} {record : ForwardSurface}

theorem outputCore_dropSurface (scene : Scene) (id : SurfaceId) {role : Option OutputId} {output : OutputId}
    (apart : role ≠ some output) : (dropSurface scene id role).outputCore output = scene.outputCore output := by
  cases role with
  | none => rfl
  | some other => exact scene.outputCore_setOutput_other _ fun same => apart (congrArg some same.symm)

theorem outputCore_dropSurface_self (scene : Scene) (id : SurfaceId) (output : OutputId) :
    (dropSurface scene id (some output)).outputCore output =
      (scene.outputCore output).map fun core => { core with pluginSurface := none } := by
  change ((scene.outputs.modify output _).cell output).map SwaylockSurface.core = _
  rw [Heap.cell_modify_self, Scene.outputCore, Option.map_map, Option.map_map]
  rfl

theorem cell_dropSurface (scene : Scene) (id : SurfaceId) (role : Option OutputId) (surface : SurfaceId) :
    (dropSurface scene id role).forwardSurfaces.cell surface =
      if surface = id then none else scene.forwardSurfaces.cell surface := rfl

theorem dropSurface_rest (scene : Scene) (id : SurfaceId) (role : Option OutputId) :
    (dropSurface scene id role).args = scene.args ∧ (dropSurface scene id role).display = scene.display ∧
      (dropSurface scene id role).surfaces = scene.surfaces ∧ (dropSurface scene id role).wire = scene.wire ∧
      (dropSurface scene id role).outputs.next = scene.outputs.next ∧
      (dropSurface scene id role).forwardBuffers = scene.forwardBuffers := by
  cases role <;> exact ⟨rfl, rfl, rfl, rfl, rfl, rfl⟩

theorem dropSurface_links (present : scene.forwardSurfaces.cell id = some record) (guard : LinkGuard hidden scene) :
    LinkGuard hidden (dropSurface scene id record.swaySurface) := by
  obtain ⟨_, _, surfaces, wire, next, _⟩ := dropSurface_rest scene id record.swaySurface
  have served (output : OutputId) (role : record.swaySurface = some output) :=
    guard.served output id record present role
  constructor
  · rw [surfaces]
    exact guard.nodup
  · intro output
    rw [surfaces, guard.listed output]
    by_cases same : record.swaySurface = some output
    · rw [same, outputCore_dropSurface_self, Option.isSome_map]
    · rw [outputCore_dropSurface scene id same]
  · intro output core surface found shown linked
    by_cases same : record.swaySurface = some output
    · rw [same, outputCore_dropSurface_self, Option.map_eq_some_iff] at found
      obtain ⟨before, _, rfl⟩ := found
      cases linked
    · rw [outputCore_dropSurface scene id same] at found
      obtain ⟨other, there, role⟩ := guard.linked output core surface found shown linked
      refine ⟨other, ?_, role⟩
      rw [cell_dropSurface, if_neg]
      · exact there
      · rintro rfl
        rw [present] at there
        cases there
        exact same role
  · intro output surface other found role
    rw [cell_dropSurface] at found
    split at found
    · cases found
    · rename_i apart
      obtain ⟨shown, core, there, linked⟩ := guard.served output surface other found role
      have foreign : record.swaySurface ≠ some output := by
        intro same
        obtain ⟨_, old, stands, points⟩ := served output same
        rw [there] at stands
        cases stands
        exact apart (Option.some.inj (linked.symm.trans points))
      refine ⟨shown, core, ?_, linked⟩
      rw [outputCore_dropSurface scene id foreign]
      exact there
  · intro output above
    rw [wire]
    exact guard.unnamed output (next ▸ above)

theorem dropSurface_surfaces (role : Option OutputId) (guard : SurfaceGuard scene) :
    SurfaceGuard (dropSurface scene id role) := by
  obtain ⟨_, _, _, _, _, buffers⟩ := dropSurface_rest scene id role
  have old {surface : SurfaceId} {other : ForwardSurface}
      (found : (dropSurface scene id role).forwardSurfaces.cell surface = some other) :
      scene.forwardSurfaces.cell surface = some other := by
    rw [cell_dropSurface] at found
    split at found
    · cases found
    · exact found
  constructor
  · intro surface other found
    exact guard.records surface other (old found)
  · rw [buffers]
    exact guard.sized
  · rw [buffers]
    intro buffer shows present surface member
    obtain ⟨below, drawn⟩ := guard.shown buffer shows present surface member
    exact ⟨below, fun other found => drawn other (old found)⟩

theorem dropSurface_advances (lenient : Lenient meets) (present : scene.forwardSurfaces.cell id = some record) :
    Advances meets hidden scene (dropSurface scene id record.swaySurface) := by
  intro guard
  obtain ⟨args, display, _, wire, _, _⟩ := dropSurface_rest scene id record.swaySurface
  refine ⟨by rw [args], fun down => display.trans down, ⟨dropSurface_links present guard.links,
    dropSurface_surfaces _ guard.surfaces⟩, ?_, fun output _ => ⟨display, by rw [wire]⟩⟩
  intro output shown
  by_cases same : record.swaySurface = some output
  · obtain ⟨_, core, there, linked⟩ := guard.links.served output id record present same
    have after : (dropSurface scene id record.swaySurface).cycleView output =
        { scene.cycleView output with output := some { core with pluginSurface := none }, plugin := none } := by
      have gone : (dropSurface scene id record.swaySurface).outputCore output =
          some { core with pluginSurface := none } := by
        rw [same, outputCore_dropSurface_self, there]
        rfl
      rw [Scene.cycleView_alone gone rfl, display, wire]
      rfl
    rw [after]
    exact ⟨[.unlink], .single ⟨.unlink there, lenient.minor _ _ rfl⟩⟩
  · have kept : (dropSurface scene id record.swaySurface).cycleView output = scene.cycleView output := by
      apply Scene.cycleView_congr display (outputCore_dropSurface scene id same)
      · intro surface link
        obtain ⟨core, there, linked⟩ := Option.bind_eq_some_iff.mp link
        obtain ⟨other, found, role⟩ := guard.links.linked output core surface there shown linked
        unfold Scene.pluginView
        rw [cell_dropSurface, if_neg]
        rintro rfl
        rw [present] at found
        cases found
        exact same role
      · rw [wire]
    rw [kept]
    exact ⟨[], .rest _⟩

end Drop

theorem surfaceHandleResourceDestroy_advances (lenient : Lenient meets) (scene : Scene) (id : SurfaceId) :
    Ensures (surfaceHandleResourceDestroy scene id) (Advances meets hidden scene) := by
  refine .read fun surface present => ?_
  have cleared : Ensures (clearPluginSurface scene surface.swaySurface)
      fun next => next = forgetPlugin scene surface.swaySurface := by
    cases surface.swaySurface with
    | none => exact .pure rfl
    | some output => exact .read fun _ _ => .pure rfl
  refine cleared.bind fun start same => ?_
  subst same
  refine (unlinkAttachment_quiet _ (fun record => .ofPending record _) _).bind fun one first => ?_
  refine (unlinkAttachment_quiet one (fun record => .ofCommitted record id) _).bind fun two second => ?_
  refine (unlinkDesc_quiet two _ _).bind fun three third => ?_
  refine (unlinkDesc_quiet three _ _).bind fun four fourth => ?_
  have early := ((first.trans second).trans third).trans fourth
  refine (clearUserData_quiet four _ _).bind fun five fifth => ?_
  refine (clearUserData_quiet five _ _).bind fun six sixth => ?_
  refine (clearUserData_quiet six _ _).bind fun seven seventh => ?_
  refine (clearUserData_quiet seven _ _).bind fun eight eighth => ?_
  refine (clearUserData_quiet eight _ _).bind fun nine ninth => ?_
  have late := ((((early.trans fifth).trans sixth).trans seventh).trans eighth).trans ninth
  refine (destroySubsurfaceParts_quiet nine id).bind fun last tenth => .pure ?_
  have dropped : Quiet (dropSurface scene id surface.swaySurface)
      { last with forwardSurfaces := last.forwardSurfaces.free id } := by
    have both := (late.trans tenth).freeForward id
    have same : dropSurface scene id surface.swaySurface =
        { forgetPlugin scene surface.swaySurface with
          forwardSurfaces := (forgetPlugin scene surface.swaySurface).forwardSurfaces.free id } := by
      cases surface.swaySurface <;> rfl
    rw [same]
    exact both
  exact (dropSurface_advances lenient present).trans dropped.advances

end SwaylockPlugin
