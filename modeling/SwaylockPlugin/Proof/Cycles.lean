import SwaylockPlugin.Library.Refinement
import SwaylockPlugin.Proof.Commits
import SwaylockPlugin.Proof.Lifetimes
import SwaylockPlugin.Proof.Removal
import SwaylockPlugin.Proof.SurfaceRoles

namespace SwaylockPlugin

open Library

/-- A scene event is admitted where the configure, the link or the commit that it brings is. -/
def AdmitsScene (meets : CycleView → CycleEvent → Prop) (scene : Scene) : SceneEvent → Prop
  | .configure output serial width height =>
      (scene.display = true → meets (scene.cycleView output) (.configure serial width height)) ∧
        (scene.display = false → meets (scene.cycleView output) (.answer serial width height))
  | .request client (.surface id (.getLayerSurface resource)) => ∀ output target surface,
      layerSurfaceOutput scene client resource = some output → scene.outputs.cell output = some target →
      target.pluginSurface = none → scene.forwardSurfaces.cell id = some surface → surface.swaySurface = none →
      meets (scene.cycleView output) (.link id surface.view)
  | .request _ (.surface id .commit) => ∀ surface output, scene.forwardSurfaces.cell id = some surface →
      surface.swaySurface = some output → AdmitsCommit meets (scene.cycleView output) surface
  | _ => True

variable {meets : CycleView → CycleEvent → Prop} {scene : Scene} {client : WlClientId}

section Requests

theorem invalidObject_advances (scene : Scene) (client : WlClientId) :
    Advances meets none scene (invalidObject scene client) :=
  Quiet.advances (.postError scene client _)

theorem advances_of_quiet {computation : Handled Scene} (quiet : Ensures computation (Quiet scene)) :
    Ensures computation (Advances meets none scene) :=
  quiet.weaken fun _ quiet => Quiet.advances quiet

theorem getLayerSurface_advances (up : scene.display = true) (id : SurfaceId) (resource : Option ResourceId)
    (admitted : ∀ output target surface, layerSurfaceOutput scene client resource = some output →
      scene.outputs.cell output = some target → target.pluginSurface = none →
      scene.forwardSurfaces.cell id = some surface → surface.swaySurface = none →
      meets (scene.cycleView output) (.link id surface.view)) :
    Ensures (getLayerSurface scene client id resource) (Advances meets none scene) := by
  unfold layerSurfaceOutput at admitted
  cases resource with
  | none => exact wlrLayerShellGetLayerSurface_advances scene client id none up admitted
  | some resource =>
      unfold namedOutput at admitted
      dsimp only [getLayerSurface] at admitted ⊢
      split
      · rename_i output named
        rw [named] at admitted
        exact wlrLayerShellGetLayerSurface_advances scene client id (some output) up admitted
      · exact .pure (invalidObject_advances scene client)

theorem handleSurface_advances (lenient : Lenient meets) (up : scene.display = true) (attached : Attached scene)
    (id : SurfaceId) (call : SurfaceCall) (admitted : AdmitsScene meets scene (.request client (.surface id call))) :
    Ensures (handleSurface scene client id call) (Advances meets none scene) := by
  cases call with
  | destroy => exact surfaceHandleResourceDestroy_advances lenient scene id
  | attach buffer =>
      cases buffer with
      | none => exact nestedSurfaceAttach_advances scene id none
      | some buffer =>
          simp only [handleSurface, attachOwned]
          split
          · exact nestedSurfaceAttach_advances scene id (some buffer)
          · exact .pure (invalidObject_advances scene client)
  | damage record => exact .pure (nestedSurfaceDamage_quiet scene id record).advances
  | damageBuffer record => exact .pure (nestedSurfaceDamageBuffer_quiet scene id record).advances
  | frame => exact .pure (nestedSurfaceFrame_quiet scene client id).advances
  | commit => exact (nestedSurfaceCommit_advances lenient up attached id admitted).bind fun _ moved => .pure moved
  | setBufferTransform transform =>
      exact .pure (Quiet.advances (setPending_quiet scene id fun _ => ⟨rfl, fun sound => sound⟩))
  | setBufferScale scale =>
      exact .pure (Quiet.advances (setPending_quiet scene id fun _ => ⟨rfl, fun sound => sound⟩))
  | getSubsurface parent =>
      simp only [handleSurface]
      split
      · exact advances_of_quiet (subcompositorGetSubsurface_quiet scene client id parent)
      · exact .pure (invalidObject_advances scene client)
  | getViewport =>
      refine advances_of_quiet (show Ensures (nestedViewporterGetViewport scene client id) _ from ?_)
      exact getExtension_quiet scene client id _ _ fun _ _ => ⟨rfl, fun sound => sound⟩
  | getFractionalScale =>
      exact advances_of_quiet (nestedFractionalScaleManagerGetFractionalScale_quiet scene client id)
  | getColorSurface =>
      refine advances_of_quiet (show Ensures (nestedColorGetSurface scene client id) _ from ?_)
      exact getExtension_quiet scene client id _ _ fun _ _ => ⟨rfl, fun sound => sound⟩
  | getColorRepresentation =>
      refine advances_of_quiet (show Ensures (nestedColorRepGetSurface scene client id) _ from ?_)
      exact getExtension_quiet scene client id _ _ fun _ _ => ⟨rfl, fun sound => sound⟩
  | getLayerSurface output => exact getLayerSurface_advances up id output admitted

theorem handleObject_advances (lenient : Lenient meets) (up : scene.display = true) (id : ResourceId)
    (call : ObjectCall) (role : Role) : Ensures (handleObject scene client id call role) (Advances meets none scene) := by
  have wrong : Ensures (pure (invalidObject scene client) : Handled Scene) (Advances meets none scene) :=
    .pure (invalidObject_advances scene client)
  have destroyed (scene : Scene) : Ensures (destroyResourceObject scene id) (Advances meets none scene) :=
    advances_of_quiet (destroyResourceObject_quiet scene id)
  have places (sibling : SurfaceId) {computation : Handled Scene} (quiet : Ensures computation (Quiet scene)) :
      Ensures (if ownsSurface scene client sibling then computation else return invalidObject scene client)
        (Advances meets none scene) := by
    split
    · exact advances_of_quiet quiet
    · exact wrong
  cases role with
  | viewport user =>
      cases call with
      | destroy => exact destroyed scene
      | setSource x y width height =>
          exact advances_of_quiet (nestedViewportSetSource_quiet scene client user x y width height)
      | setDestination width height =>
          exact advances_of_quiet (nestedViewportSetDestination_quiet scene client user width height)
      | _ => exact wrong
  | fractionalScale user =>
      cases call with
      | destroy => exact destroyed scene
      | _ => exact wrong
  | colorSurface user =>
      cases call with
      | destroy =>
          refine (nestedColorSurfaceUnsetImageDesc_quiet scene user).bind fun unset quiet => ?_
          exact (destroyed unset).weaken fun _ freed => quiet.advances.trans freed
      | setImageDescription desc intent =>
          simp only [handleObject, handleColorSurface]
          split
          · exact advances_of_quiet (nestedColorSurfaceSetImageDesc_quiet scene desc intent user)
          · exact wrong
      | unsetImageDescription => exact advances_of_quiet (nestedColorSurfaceUnsetImageDesc_quiet scene user)
      | _ => exact wrong
  | colorRepresentation user =>
      cases call with
      | destroy => exact destroyed scene
      | setAlphaMode mode =>
          refine advances_of_quiet (show Ensures (nestedColorRepSurfaceSetAlphaMode scene mode user) _ from ?_)
          apply setColorRepresentation_quiet
          exact fun _ => ⟨rfl, fun sound => sound⟩
      | setCoefficientsAndRange coefficients range =>
          refine advances_of_quiet (show Ensures (nestedColorRepSurfaceSetCoefficientsAndRange scene coefficients range user) _ from ?_)
          apply setColorRepresentation_quiet
          exact fun _ => ⟨rfl, fun sound => sound⟩
      | setChromaLocation location =>
          refine advances_of_quiet (show Ensures (nestedColorRepSurfaceSetChromaLocation scene location user) _ from ?_)
          apply setColorRepresentation_quiet
          exact fun _ => ⟨rfl, fun sound => sound⟩
      | _ => exact wrong
  | subsurface user =>
      cases call with
      | destroy => exact destroyed scene
      | setPosition x y =>
          exact advances_of_quiet (withSubsurface_quiet scene user fun id _ _ => .pure (setPendingEntry_quiet scene id _))
      | setSync =>
          exact advances_of_quiet (withSubsurface_quiet scene user fun id _ _ => .pure (setPendingEntry_quiet scene id _))
      | setDesync =>
          exact advances_of_quiet (withSubsurface_quiet scene user fun id _ _ => .pure (setPendingEntry_quiet scene id _))
      | placeAbove sibling =>
          exact places sibling (placeSubsurface_quiet scene client user sibling _ fun _ _ => ⟨rfl, fun sound => sound⟩)
      | placeBelow sibling =>
          exact places sibling (placeSubsurface_quiet scene client user sibling _ fun _ _ => ⟨rfl, fun sound => sound⟩)
      | _ => exact wrong
  | layerSurface output =>
      cases call with
      | destroy => exact .pure (.refl scene)
      | ackConfigure serial => exact zwlrLayerSurfaceAckConfigure_advances lenient scene client output serial up
      | _ => exact wrong
  | output output =>
      cases call with
      | destroy => exact destroyed scene
      | _ => exact wrong
  | frameCallback => exact wrong

theorem handleRequest_advances (lenient : Lenient meets) (up : scene.display = true) (attached : Attached scene)
    (request : Request) (offered : offered scene client request = true)
    (admitted : AdmitsScene meets scene (.request client request)) :
    Ensures (handleRequest scene client request) (Advances meets none scene) := by
  cases request with
  | getRegistry => exact advances_of_quiet (clientResourceCreate_quiet scene client)
  | bindOutput output => exact .read fun _ _ => .pure (Quiet.advances (createResource_quiet scene client _))
  | createSurface version => exact .pure (compositorCreateSurface_advances scene client version)
  | createBuffer width height =>
      have positive := (Bool.and_eq_true _ _).mp offered
      have positive : 0 < width ∧ 0 < height := ⟨of_decide_eq_true positive.1, of_decide_eq_true positive.2⟩
      exact .pure (createForwardBuffer_advances scene client ⟨toUInt32_pos positive.1, toUInt32_pos positive.2⟩)
  | createImageDesc => exact .pure (Quiet.advances (.unrelated rfl))
  | createOutputImageDesc description => exact .pure (Quiet.advances (.unrelated rfl))
  | destroyBuffer buffer =>
      simp only [handleRequest]
      split
      · exact bufferHandleResourceDestroy_advances scene buffer
      · exact .pure (invalidObject_advances scene client)
  | destroyImageDesc desc =>
      simp only [handleRequest]
      split
      · exact advances_of_quiet (imageDescHandleResourceDestroy_quiet scene desc)
      · exact .pure (invalidObject_advances scene client)
  | surface id call =>
      simp only [handleRequest]
      split
      · exact handleSurface_advances lenient up attached id call admitted
      · exact .pure (invalidObject_advances scene client)
  | object id call =>
      simp only [handleRequest]
      split
      · exact handleObject_advances lenient up id call _
      · exact .pure (invalidObject_advances scene client)

end Requests

section Events

theorem markPresented_quiet (scene : Scene) (env : Environment) (output : Option OutputId) :
    Ensures (markPresented scene env output) (Quiet scene) := by
  cases output with
  | none => exact .pure (.refl scene)
  | some output =>
      refine .read fun _ _ => .read fun record _ => .pure ?_
      have marked : Quiet scene (scene.setOutput output fun output =>
          { output with framePending := false, frameLastDone := scene.clock }) := .setOutput scene output fun _ => rfl
      exact marked.trans (resumeClientForSurface_quiet _ env record)

theorem bgFrameHandleDone_quiet (scene : Scene) (env : Environment) (id : CallbackId) :
    Ensures (bgFrameHandleDone scene env id) (Quiet scene) := by
  refine .read fun callbacks _ => (markPresented_quiet scene env callbacks.swaySurface).bind fun marked presented => ?_
  have completed (scene : Scene) (callback : ResourceId) : Quiet scene (completeCallback scene callback) := by
    have told : Quiet scene (scene.tell (.plugin (.callbackDone callback))) := .tell scene rfl
    exact told.trans (.unrelated rfl)
  have all := foldl_keeps Frame.refl Frame.trans completed callbacks.list marked
  exact .pure ((presented.trans all).trans (.unrelated rfl))

theorem fractScalePreferredScale_quiet (scene : Scene) (id : OutputId) (scale : UInt32) :
    Ensures (fractScalePreferredScale scene id scale) (Quiet scene) := by
  refine .read fun output _ => .check fun _ => ?_
  split
  · exact .pure (.refl scene)
  · have noted : Quiet scene (scene.setOutput id fun output => { output with lastFractionalScale := scale }) :=
      .setOutput scene id fun _ => rfl
    cases output.pluginSurface with
    | none => exact .pure noted
    | some surface =>
        refine .read fun record _ => ?_
        split
        · exact .pure (noted.trans (.tell _ rfl))
        · exact .pure noted

theorem createSurfaces_advances (lenient : Lenient meets) (scene : Scene) (env : Environment) :
    Ensures (createSurfaces scene env) (Advances meets none scene) := by
  refine Ensures.foldlM Advances.refl Advances.trans (fun state id => ?_) scene.surfaces scene
  exact .read fun output _ => .check fun _ => createSurface_advances lenient state env id

theorem startMainPlugin_advances (lenient : Lenient meets) (scene : Scene) (env : Environment) :
    Ensures (startMainPlugin scene env) (Advances meets none scene) := by
  unfold startMainPlugin
  split
  · exact .pure (.refl scene)
  · refine (runPluginCommand_quiet scene env none).bind fun result started => ?_
    obtain ⟨next, success⟩ := result
    have quiet : Advances meets none scene next := Quiet.advances started
    dsimp only
    split
    · exact .pure quiet
    · exact .pure (quiet.trans (setupClientlessMode_advances lenient next env))

theorem handleScene_advances (lenient : Lenient meets) (attached : Attached scene) (env : Environment)
    (runDisplay : Bool) (event : SceneEvent) (allowed : sceneEnabled scene env event = true)
    (up : event.nested = true → scene.display = true) (admitted : AdmitsScene meets scene event) :
    Ensures (handleScene scene env runDisplay event) (Advances meets none scene) := by
  cases event with
  | configure output serial width height =>
      refine extSessionLockSurfaceV1HandleConfigure_advances lenient scene env output ?_ admitted.1 admitted.2
      have fresh := ((Bool.and_eq_true _ _).mp allowed).2
      rw [issued_eq] at fresh
      simpa using fresh
  | outputAdded name => exact .pure (handleGlobalOutput_advances lenient scene name)
  | outputRemoved name => exact handleGlobalRemove_advances lenient scene env name
  | outputGeometry output =>
      refine .read fun _ _ => ?_
      split
      · exact .pure (renderDirty_advances lenient scene output)
      · exact .pure (.refl scene)
  | outputScale output factor =>
      have scaled : Quiet scene (scene.setOutput output fun output => { output with scale := factor }) :=
        .setOutput scene output fun _ => rfl
      refine .read fun _ _ => ?_
      dsimp only
      split
      · exact .pure (scaled.advances.trans (renderDirty_advances lenient _ output))
      · exact .pure scaled.advances
  | outputDone output =>
      have noted : Quiet scene (scene.setOutput output fun output => { output with hasOutputDone := true }) :=
        .setOutput scene output fun _ => rfl
      refine .read fun _ _ => (initSurfaceIfReady_advances lenient _ env runDisplay output).weaken fun _ ready => ?_
      exact noted.advances.trans ready
  | outputDescReady output =>
      have noted : Quiet scene (scene.setOutput output fun output => { output with outputDescCurrent := true }) :=
        .setOutput scene output fun _ => rfl
      refine .read fun _ _ => (initSurfaceIfReady_advances lenient _ env runDisplay output).weaken fun _ ready => ?_
      exact noted.advances.trans ready
  | preferredScale output scale => exact advances_of_quiet (fractScalePreferredScale_quiet scene output scale)
  | frameDone output =>
      have noted : Quiet scene (scene.setOutput output fun output => { output with frame := false }) :=
        .setOutput scene output fun _ => rfl
      exact .read fun _ _ => .pure (noted.advances.trans (render_advances lenient _ output))
  | backgroundFrameDone callbacks => exact advances_of_quiet (bgFrameHandleDone_quiet scene env callbacks)
  | request client request =>
      have offered := ((Bool.and_eq_true _ _).mp allowed).2
      exact handleRequest_advances lenient (up rfl) attached request offered admitted
  | clientGone client => exact clientGone_advances lenient scene env client
  | nestedDispatched =>
      refine .pure ?_
      unfold afterDispatchNested
      split
      · exact setupClientlessMode_advances lenient scene env
      · exact .refl scene

theorem Retimed.advances {first second : Scene} (retimed : Retimed first second) : Advances meets none first second := by
  obtain ⟨loop, fd, _, rfl⟩ := retimed
  intro guard
  exact ⟨rfl, fun down => down, ⟨⟨guard.links.nodup, guard.links.listed, guard.links.linked, guard.links.served,
    guard.links.unnamed⟩, ⟨guard.surfaces.records, guard.surfaces.sized, guard.surfaces.shown⟩⟩,
    fun id _ => ⟨[], .rest (first.cycleView id)⟩, fun _ _ => ⟨rfl, rfl⟩⟩

theorem Draws.advances (lenient : Lenient meets) {first second : Scene} (draws : Draws first second) :
    Advances meets none first second := by
  induction draws with
  | refl => exact .refl _
  | damage _ ih => exact ih.trans (damageState_advances lenient _)
  | arm ms onIndicator _ ih => exact ih.trans (Quiet.advances (.unrelated rfl))
  | disarm timer _ ih => exact ih.trans (Quiet.advances (.unrelated rfl))

variable {state next : SwaylockState} {occurrence : Occurrence}

theorem advances_of_step (lenient : Lenient meets) (attached : Attached state.scene)
    (moved : swaylock.machine.step state occurrence next)
    (admitted : ∀ event, occurrence.event = .scene event → AdmitsScene meets state.scene event) :
    Advances meets none state.scene next.scene := by
  have step := sceneStep_of_step moved
  have allowed : enabled state occurrence = true := moved.1
  obtain ⟨event, env⟩ := occurrence
  generalize next.scene = last at step
  cases step with
  | tick now => exact Quiet.advances (.unrelated rfl)
  | @scene event _ permitted handled =>
      refine handleScene_advances lenient attached env state.runDisplay event permitted (fun nested => ?_)
        (admitted event rfl) _ handled
      simp only [enabled, nested, if_true, Bool.and_eq_true] at allowed
      exact allowed.1.2
  | hiddenCheck _ kept => exact (hiddenCheckTimeout_quiet state.scene env).advances.trans kept.advances
  | connectionTimeout _ handled kept =>
      exact (clientConnectionTimeout_advances lenient state.scene env _ _ handled).trans kept.advances
  | redrawTimeout _ handled kept =>
      exact (outputRedrawTimeout_advances lenient state.scene env _ _ handled).trans kept.advances
  | start kept creates runs =>
      exact (kept.advances.trans (createSurfaces_advances lenient _ env _ creates)).trans
        (startMainPlugin_advances lenient _ env _ runs)
  | armHiddenCheck => exact (armHiddenCheck_quiet state.scene).advances
  | resume => exact (resumeAllClients_quiet state.scene env).advances
  | indicated indicated =>
      obtain ⟨start, stop, early, draws, late⟩ := indicated
      exact (early.advances.trans (draws.advances lenient)).trans late.advances

end Events

section Runs

variable {allowed : SwaylockState → Occurrence → Prop} {state : SwaylockState}

theorem sceneGuard_initial (initial : InitialState state) :
    SceneGuard none state.scene ∧ ∀ id, (state.scene.cycleView id).Fresh := by
  obtain ⟨noOutputs, noneListed⟩ := initial.outputs
  have noOutput : ∀ id, state.scene.outputCore id = none := fun id => by
    rw [Scene.outputCore, noOutputs]
    rfl
  have noSurface : ∀ id, state.scene.forwardSurfaces.cell id = none := fun id => by
    rw [initial.surfaces.1]
    rfl
  have noBuffer : ∀ id, state.scene.forwardBuffers.cell id = none := fun id => by
    rw [initial.objects.1]
    rfl
  have noEntry : ∀ id, entriesOf id state.scene.wire = [] := fun id => by
    rw [initial.wire]
    rfl
  have links : LinkGuard none state.scene := by
    constructor
    · rw [noneListed]
      exact List.nodup_nil
    · intro id
      simp [noneListed, noOutput]
    · intro id core surface shown
      rw [noOutput] at shown
      cases shown
    · intro id surface record live
      rw [noSurface] at live
      cases live
    · exact fun id _ => noEntry id
  have surfaces : SurfaceGuard state.scene := by
    constructor
    · intro id record live
      rw [noSurface] at live
      cases live
    · intro id buffer live
      rw [noBuffer] at live
      cases live
    · intro id buffer live
      rw [noBuffer] at live
      cases live
  refine ⟨⟨links, surfaces⟩, fun id => ⟨initial.display.1, noOutput id, ?_, noEntry id⟩⟩
  simp only [Scene.cycleView, noOutput, Option.bind_none]

/-- Where every step is admitted, the scene stays guarded and the cycle of every output makes runs of its own. -/
theorem cycles_of_reachable (lenient : Lenient meets)
    (admits : ∀ state occurrence event, (swaylock.machine.restrict allowed).Reachable state →
      allowed state occurrence → occurrence.event = .scene event → AdmitsScene meets state.scene event)
    (reachable : (swaylock.machine.restrict allowed).Reachable state) :
    SceneGuard none state.scene ∧ ∀ id, (cycle.restrict meets).Reachable (state.scene.cycleView id) := by
  induction reachable with
  | initial initial =>
      obtain ⟨guard, fresh⟩ := sceneGuard_initial initial
      exact ⟨guard, fun id => .initial (fresh id)⟩
  | step before moved ih =>
      obtain ⟨guard, cycles⟩ := ih
      have attached := attached_of_reachable before.of_restrict
      have advanced := advances_of_step lenient attached moved.1
        (fun event same => admits _ _ event before moved.2 same) guard
      refine ⟨advanced.guard, fun id => ?_⟩
      obtain ⟨events, run⟩ := advanced.runs id nofun
      exact (cycles id).run run

theorem lenient_always : Lenient fun _ _ => True := ⟨fun _ _ _ => trivial, fun _ _ _ => trivial⟩

theorem admitsScene_always (scene : Scene) (event : SceneEvent) : AdmitsScene (fun _ _ => True) scene event := by
  unfold AdmitsScene
  split
  · exact ⟨fun _ => trivial, fun _ => trivial⟩
  · exact fun _ _ _ _ _ _ _ _ => trivial
  · exact fun _ _ _ _ => ⟨fun _ _ => trivial, fun _ => trivial, fun _ _ _ => trivial⟩
  · trivial

theorem guarded_of_reachable (reachable : swaylock.machine.Reachable state) :
    SceneGuard none state.scene ∧ ∀ id, (cycle.restrict fun _ _ => True).Reachable (state.scene.cycleView id) :=
  cycles_of_reachable lenient_always (fun state _ event _ _ _ => admitsScene_always state.scene event)
    (reachable.restrict (fun _ _ => trivial : ∀ _ _, (fun _ _ => True) _ _))

/-- The program refines the configure cycle of every output: each step of a run makes steps of the cycle, in their order. -/
theorem cycle_refined (id : OutputId) : Refines swaylock.machine cycle fun state => state.scene.cycleView id where
  initial _ initial := (sceneGuard_initial initial).2 id
  step state occurrence next reached _ moved := by
    have guard := (guarded_of_reachable reached).1
    have advanced := advances_of_step lenient_always (attached_of_reachable reached) moved
      (fun event _ => admitsScene_always state.scene event) guard
    obtain ⟨events, run⟩ := advanced.runs id (by simp)
    exact ⟨events, run.of_restrict⟩

end Runs

end SwaylockPlugin
