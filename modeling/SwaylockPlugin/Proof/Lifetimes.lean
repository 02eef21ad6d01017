import SwaylockPlugin.Proof.Outputs

namespace SwaylockPlugin

open Library

variable {meets : CycleView → CycleEvent → Prop} {hidden : Option OutputId}

theorem handleGlobalOutput_advances (lenient : Lenient meets) (scene : Scene) (name : UInt32) :
    Advances meets none scene (handleGlobalOutput scene name) := by
  intro guard
  have core (id : OutputId) : (handleGlobalOutput scene name).outputCore id =
      if id = scene.outputs.next then some .allocated else scene.outputCore id := by
    change ((scene.outputs.alloc _).cell id).map SwaylockSurface.core = _
    rw [Heap.cell_alloc]
    split <;> rfl
  have absent : scene.outputCore scene.outputs.next = none := by
    rw [Scene.outputCore, Heap.cell_next]
    rfl
  have old {id : OutputId} {before : OutputCore} (present : scene.outputCore id = some before) :
      (handleGlobalOutput scene name).outputCore id = some before := by
    rw [core, if_neg]
    · exact present
    · rintro rfl
      rw [absent] at present
      cases present
  have links : LinkGuard none (handleGlobalOutput scene name) := by
    constructor
    · refine List.nodup_cons.mpr ⟨?_, guard.links.nodup⟩
      intro member
      have live := (guard.links.listed _).mp member
      rw [absent] at live
      cases live.1
    · intro id
      rw [core]
      split
      · rename_i same
        subst same
        exact ⟨fun _ => ⟨rfl, fun same => (by cases same)⟩, fun _ => List.mem_cons_self⟩
      · rename_i apart
        have listed := guard.links.listed id
        constructor
        · intro member
          rcases List.mem_cons.mp member with same | before
          · exact absurd same apart
          · exact listed.mp before
        · intro live
          exact List.mem_cons_of_mem _ (listed.mpr live)
    · intro id changed surface present shown linked
      rw [core] at present
      split at present
      · cases present
        cases linked
      · exact guard.links.linked id changed surface present shown linked
    · intro id surface record present role
      obtain ⟨shown, before, there, linked⟩ := guard.links.served id surface record present role
      exact ⟨shown, before, old there, linked⟩
    · intro id above
      exact guard.links.unnamed id (Nat.le_of_succ_le above)
  refine ⟨rfl, fun down => down, ⟨links, guard.surfaces.records, guard.surfaces.sized, guard.surfaces.shown⟩, ?_,
    fun _ same => by cases same⟩
  intro id _
  by_cases same : id = scene.outputs.next
  · subst same
    have after : (handleGlobalOutput scene name).cycleView scene.outputs.next =
        { scene.cycleView scene.outputs.next with output := some .allocated } := by
      have made := core scene.outputs.next
      rw [if_pos rfl] at made
      rw [Scene.cycleView_alone made rfl, Scene.cycleView, absent]
      rfl
    rw [after]
    have alone : (scene.cycleView scene.outputs.next).plugin = none := by
      rw [Scene.cycleView, absent]
      rfl
    exact ⟨[.appear], .single ⟨.appear absent alone (guard.links.unnamed _ (Nat.le_refl _)),
      lenient.minor _ _ rfl⟩⟩
  · have kept : (handleGlobalOutput scene name).cycleView id = scene.cycleView id := by
      refine Scene.cycleView_congr rfl ?_ (fun _ _ => rfl) rfl
      rw [core, if_neg same]
    rw [kept]
    exact ⟨[], .rest _⟩

theorem createLockSurface_advances (lenient : Lenient meets) {scene : Scene} {id : OutputId}
    {output : SwaylockSurface} (present : scene.outputs.cell id = some output) :
    Advances meets none scene (createLockSurface scene id) := by
  have armed : Quiet scene (scene.addTimer timeoutSurface (.outputRedrawTimeout id)).1 := .unrelated rfl
  unfold createLockSurface
  refine (Quiet.advances armed).trans (Own.advances (?_ : Own id _ _) ?_ ?_ ?_)
  · exact .setOutput _ id fun _ => rfl
  · exact @Scene.outputCore_isSome scene id output present
  · exact fun guard => ⟨guard.records, guard.sized, guard.shown⟩
  · intro _
    have stays : ((scene.addTimer timeoutSurface (.outputRedrawTimeout id)).1).outputs.cell id = some output := present
    rw [Scene.cycleView_setOutput _ stays rfl]
    have step := @CycleStep.create ((scene.addTimer timeoutSurface (.outputRedrawTimeout id)).1.cycleView id)
      output.core (Scene.outputCore_of_present present)
    exact ⟨[.create], .single ⟨step, lenient.minor _ _ rfl⟩⟩

theorem startOutputPlugin_advances (lenient : Lenient meets) (scene : Scene) (env : Environment) (id : OutputId) :
    Ensures (startOutputPlugin scene env id) (Advances meets none scene) := by
  unfold startOutputPlugin
  split
  · refine (runPluginCommand_quiet scene env (some id)).bind fun result started => ?_
    obtain ⟨next, success⟩ := result
    have quiet : Advances meets none scene next := Quiet.advances started
    dsimp only
    split
    · exact .pure quiet
    · exact .pure (quiet.trans (setupClientlessMode_advances lenient next env))
  · exact .pure (.refl scene)

theorem createSurface_advances (lenient : Lenient meets) (scene : Scene) (env : Environment) (id : OutputId) :
    Ensures (createSurface scene env id) (Advances meets none scene) := by
  refine .read fun output present => ?_
  refine (startOutputPlugin_advances lenient (createLockSurface scene id) env id).bind fun next started => ?_
  have created : Quiet next (next.setOutput id fun output => { output with created := true }) :=
    .setOutput next id fun _ => rfl
  exact .pure (((createLockSurface_advances lenient present).trans started).trans created.advances)

theorem initSurfaceIfReady_advances (lenient : Lenient meets) (scene : Scene) (env : Environment) (runDisplay : Bool)
    (id : OutputId) : Ensures (initSurfaceIfReady scene env runDisplay id) (Advances meets none scene) := by
  refine .read fun output _ => ?_
  split
  · exact .pure (.refl scene)
  · exact createSurface_advances lenient scene env id

theorem destroyOwned_advances (lenient : Lenient meets) (scene : Scene) (owned : Owned) :
    Ensures (destroyOwned scene owned) (Advances meets hidden scene) := by
  cases owned with
  | surface id => exact surfaceHandleResourceDestroy_advances lenient scene id
  | buffer id => exact bufferHandleResourceDestroy_advances scene id
  | imageDesc id => exact (imageDescHandleResourceDestroy_quiet scene id).weaken fun _ quiet => Quiet.advances quiet
  | resource id => exact (destroyResourceObject_quiet scene id).weaken fun _ quiet => Quiet.advances quiet

theorem wlClientDestroy_advances (lenient : Lenient meets) (scene : Scene) (client : WlClientId)
    (owned : List Owned) : Ensures (wlClientDestroy scene client owned) (Advances meets hidden scene) := by
  unfold wlClientDestroy
  split
  · refine .via (Advances meets hidden scene) ?_ fun next destroyed => ?_
    · exact .foldlM Advances.refl Advances.trans (destroyOwned_advances lenient) owned scene
    · have freed : Quiet next { next with wlClients := next.wlClients.free client } := .unrelated rfl
      exact .pure (destroyed.trans freed.advances)
  · exact .throw

theorem clientGone_advances (lenient : Lenient meets) (scene : Scene) (env : Environment) (client : WlClientId) :
    Ensures (clientGone scene env client) (Advances meets hidden scene) := by
  have notified : Ensures (notifyDestroyed scene env (recordOf scene client)) (Quiet scene) := by
    cases recordOf scene client with
    | none => exact .pure (.refl scene)
    | some id => exact clientDestroyed_quiet scene env id
  refine notified.bind fun next quiet => ?_
  exact (wlClientDestroy_advances lenient next client env.owned).weaken fun _ ended => quiet.advances.trans ended

theorem clientTimeout_advances (lenient : Lenient meets) (scene : Scene) (env : Environment) (id : BgClientId) :
    Ensures (clientTimeout scene env id) (Advances meets none scene) := by
  refine .read fun record _ => ?_
  have destroyed : Ensures (destroyTimedOut scene env record.client) (Advances meets none scene) := by
    unfold destroyTimedOut
    split
    · exact wlClientDestroy_advances lenient scene record.client env.owned
    · exact .pure (.refl scene)
  refine destroyed.bind fun next ended => ?_
  refine (cleanupClient_quiet next env id).bind fun last cleaned => ?_
  have quiet : Advances meets none next last := Quiet.advances cleaned
  exact .pure ((ended.trans quiet).trans (setupClientlessMode_advances lenient last env))

theorem clientConnectionTimeout_advances (lenient : Lenient meets) (scene : Scene) (env : Environment)
    (id : BgClientId) : Ensures (clientConnectionTimeout scene env id) (Advances meets none scene) := by
  refine .read fun record _ => ?_
  have disarmed : Quiet scene (scene.setBgClient id fun record => { record with clientConnectTimer := none }) :=
    .unrelated rfl
  exact (clientTimeout_advances lenient _ env id).weaken fun _ ended => disarmed.advances.trans ended

theorem outputRedrawTimeout_advances (lenient : Lenient meets) (scene : Scene) (env : Environment) (id : OutputId) :
    Ensures (outputRedrawTimeout scene env id) (Advances meets none scene) := by
  refine .read fun output _ => ?_
  have disarmed : Quiet scene (scene.setOutput id fun output => { output with clientSubmissionTimer := none }) :=
    .setOutput scene id fun _ => rfl
  dsimp only
  split
  · exact .pure disarmed.advances
  · exact (clientTimeout_advances lenient _ env _).weaken fun _ ended => disarmed.advances.trans ended

end SwaylockPlugin
