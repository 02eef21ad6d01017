import SwaylockPlugin.Proof.OutputFootprints

namespace SwaylockPlugin

open Library

/-- A scene event has these effects unless it is a request. -/
abbrev eventEffects : List Effect :=
  destroyEffects ++ outputEffects ++
    [.output .plugin, .surface .assigned, .surface .position, .createSurface, .removeOutput]

/-- A scene event has these effects. -/
abbrev sceneEffects : List Effect := commitEffects ++ eventEffects

/-- A request has these effects unless it makes a registry. -/
abbrev requestEffects : List Effect :=
  commitEffects ++ destroyEffects ++ [.surface .assigned, .surface .position, .createSurface]

/-- A request has these effects unless it makes a registry, commits a surface or works on the size of one. -/
abbrev steadyEffects : List Effect :=
  [.upstream, .surface .content, .desc] ++ stackEffects ++ destroyEffects ++
    [.output .screen, .surface .role, .surface .assigned, .surface .position, .serial, .plugin, .createSurface]

/-- A request has these effects unless it makes a registry or commits a surface. -/
abbrev calmEffects : List Effect := steadyEffects ++ [.surface .size]

/-- A timer of the indicator and a key have these effects. -/
abbrev indicatorEffects : List Effect := renderEffects ++ [.armIndicator, .disarm]

variable {scene : Scene}

section Requests

theorem invalidObject_changes (client : WlClientId) : Changes steadyEffects scene (invalidObject scene client) :=
  .postError scene client _ (by simp)

theorem Changes.inRequest {effects : List Effect} {computation : Handled Scene}
    (covered : Ensures computation (Changes effects scene))
    (listed : ∀ effect ∈ effects, effect ∈ steadyEffects) : Ensures computation (Changes steadyEffects scene) :=
  covered.weaken fun _ changes => changes.widen listed

theorem getLayerSurface_changes (client : WlClientId) (id : SurfaceId) (resource : Option ResourceId) :
    Ensures (getLayerSurface scene client id resource) (Changes layerEffects scene) := by
  unfold getLayerSurface
  split
  · exact wlrLayerShellGetLayerSurface_changes client id none
  · split
    · exact wlrLayerShellGetLayerSurface_changes client id _
    · exact .pure (.postError scene client _ (by simp))

/-- A request on a surface is steady unless it commits, scales or transforms the surface. -/
def SurfaceCall.steady : SurfaceCall → Bool
  | .commit | .setBufferTransform _ | .setBufferScale _ => false
  | _ => true

theorem handleSurface_changes (client : WlClientId) (id : SurfaceId) {call : SurfaceCall} (steady : call.steady = true) :
    Ensures (handleSurface scene client id call) (Changes steadyEffects scene) := by
  cases call with
  | destroy => exact Changes.inRequest (surfaceHandleResourceDestroy_changes id) (by simp)
  | attach buffer =>
      cases buffer with
      | none => exact Changes.inRequest (nestedSurfaceAttach_changes id none) (by simp)
      | some buffer =>
          simp only [handleSurface, attachOwned]
          split
          · exact Changes.inRequest (nestedSurfaceAttach_changes id _) (by simp)
          · exact .pure (invalidObject_changes client)
  | damage record => exact .pure ((nestedSurfaceDamage_changes id record).widen (by simp))
  | damageBuffer record => exact .pure ((nestedSurfaceDamageBuffer_changes id record).widen (by simp))
  | frame => exact .pure ((nestedSurfaceFrame_changes client id).widen (by simp))
  | commit | setBufferTransform | setBufferScale => cases steady
  | getSubsurface parent =>
      simp only [handleSurface]
      split
      · exact Changes.inRequest (subcompositorGetSubsurface_changes client id parent) (by simp)
      · exact .pure (invalidObject_changes client)
  | getViewport => exact Changes.inRequest (nestedViewporterGetViewport_changes client id) (by simp)
  | getFractionalScale =>
      exact Changes.inRequest (nestedFractionalScaleManagerGetFractionalScale_changes client id) (by simp)
  | getColorSurface => exact Changes.inRequest (nestedColorGetSurface_changes client id) (by simp)
  | getColorRepresentation => exact Changes.inRequest (nestedColorRepGetSurface_changes client id) (by simp)
  | getLayerSurface resource => exact Changes.inRequest (getLayerSurface_changes client id resource) (by simp)

theorem destroyResourceObject_inRequest (id : ResourceId) :
    Ensures (destroyResourceObject scene id) (Changes steadyEffects scene) :=
  Changes.inRequest (destroyResourceObject_changes id) (by simp)

/-- A request on an object is steady unless it sets a part of a viewport. -/
def ObjectCall.steady : ObjectCall → Bool
  | .setSource _ _ _ _ | .setDestination _ _ => false
  | _ => true

theorem handleViewport_changes (client : WlClientId) (id : ResourceId) (user : Option SurfaceId)
    {call : ObjectCall} (steady : call.steady = true) :
    Ensures (handleViewport scene client id user call) (Changes steadyEffects scene) := by
  cases call with
  | destroy => exact destroyResourceObject_inRequest id
  | setSource | setDestination => cases steady
  | _ => exact .pure (invalidObject_changes client)

theorem handleSubsurface_changes (client : WlClientId) (id : ResourceId) (user : Option SurfaceId)
    (call : ObjectCall) : Ensures (handleSubsurface scene client id user call) (Changes steadyEffects scene) := by
  have moved {change : SubsurfaceEntry → SubsurfaceEntry} (kept : ∀ entry, (change entry).link = entry.link) :
      Ensures (withSubsurface scene user fun id _ _ => return setPendingEntry scene id change)
        (Changes steadyEffects scene) :=
    Changes.inRequest (setPendingEntry_changes user kept) (by simp)
  have placed {sibling : SurfaceId} {nextToParent : SurfaceId → SurfaceState → SurfaceState}
      (nextToSibling : SurfaceId → SurfaceId → List SurfaceId → List SurfaceId)
      (kept : ∀ id pending, (nextToParent id pending).unstacked = pending.unstacked) :
      Ensures (placeSubsurface scene client user sibling nextToParent nextToSibling) (Changes steadyEffects scene) :=
    Changes.inRequest (placeSubsurface_changes client user sibling nextToSibling kept) (by simp)
  cases call with
  | destroy => exact destroyResourceObject_inRequest id
  | setPosition x y => exact moved fun _ => rfl
  | setSync => exact moved fun _ => rfl
  | setDesync => exact moved fun _ => rfl
  | placeAbove sibling =>
      change Ensures (if ownsSurface scene client sibling then nestedSubsurfacePlaceAbove scene client user sibling
        else pure (invalidObject scene client)) _
      split
      · refine placed _ ?_
        exact fun _ _ => rfl
      · exact .pure (invalidObject_changes client)
  | placeBelow sibling =>
      change Ensures (if ownsSurface scene client sibling then nestedSubsurfacePlaceBelow scene client user sibling
        else pure (invalidObject scene client)) _
      split
      · refine placed _ ?_
        exact fun _ _ => rfl
      · exact .pure (invalidObject_changes client)
  | _ => exact .pure (invalidObject_changes client)

theorem handleColorSurface_changes (client : WlClientId) (id : ResourceId) (user : Option SurfaceId)
    (call : ObjectCall) : Ensures (handleColorSurface scene client id user call) (Changes steadyEffects scene) := by
  cases call with
  | destroy =>
      refine (nestedColorSurfaceUnsetImageDesc_changes user).bind fun unset changed => ?_
      have widened : Changes steadyEffects scene unset := changed.widen (by simp)
      exact widened.andThen (destroyResourceObject_inRequest id)
  | setImageDescription desc intent =>
      simp only [handleColorSurface]
      split
      · exact Changes.inRequest (nestedColorSurfaceSetImageDesc_changes desc intent user) (by simp)
      · exact .pure (invalidObject_changes client)
  | unsetImageDescription => exact Changes.inRequest (nestedColorSurfaceUnsetImageDesc_changes user) (by simp)
  | _ => exact .pure (invalidObject_changes client)

theorem handleColorRepresentation_changes (client : WlClientId) (id : ResourceId) (user : Option SurfaceId)
    (call : ObjectCall) :
    Ensures (handleColorRepresentation scene client id user call) (Changes steadyEffects scene) := by
  cases call with
  | destroy => exact destroyResourceObject_inRequest id
  | setAlphaMode mode =>
      refine Changes.inRequest (setColorRepresentation_changes ?_ user) (by simp)
      exact fun _ => rfl
  | setCoefficientsAndRange coefficients range =>
      refine Changes.inRequest (setColorRepresentation_changes ?_ user) (by simp)
      exact fun _ => rfl
  | setChromaLocation location =>
      refine Changes.inRequest (setColorRepresentation_changes ?_ user) (by simp)
      exact fun _ => rfl
  | _ => exact .pure (invalidObject_changes client)

theorem handleLayerSurface_changes (client : WlClientId) (output : OutputId) (call : ObjectCall) :
    Ensures (handleLayerSurface scene client output call) (Changes steadyEffects scene) := by
  cases call with
  | destroy => exact .pure (.refl scene)
  | ackConfigure serial => exact Changes.inRequest (zwlrLayerSurfaceAckConfigure_changes client output serial) (by simp)
  | _ => exact .pure (invalidObject_changes client)

theorem handleDestroyOnly_changes (client : WlClientId) (id : ResourceId) (call : ObjectCall) :
    Ensures (handleDestroyOnly scene client id call) (Changes steadyEffects scene) := by
  cases call with
  | destroy => exact destroyResourceObject_inRequest id
  | _ => exact .pure (invalidObject_changes client)

theorem handleObject_changes (client : WlClientId) (id : ResourceId) {call : ObjectCall} (steady : call.steady = true)
    (role : Role) : Ensures (handleObject scene client id call role) (Changes steadyEffects scene) := by
  cases role with
  | viewport user => exact handleViewport_changes client id user steady
  | fractionalScale user => exact handleDestroyOnly_changes client id call
  | colorSurface user => exact handleColorSurface_changes client id user call
  | colorRepresentation user => exact handleColorRepresentation_changes client id user call
  | subsurface user => exact handleSubsurface_changes client id user call
  | layerSurface output => exact handleLayerSurface_changes client output call
  | output output => exact handleDestroyOnly_changes client id call
  | frameCallback => exact .pure (invalidObject_changes client)

theorem handleObject_calm (client : WlClientId) (id : ResourceId) (call : ObjectCall) (role : Role) :
    Ensures (handleObject scene client id call role) (Changes calmEffects scene) := by
  by_cases steady : call.steady = true
  · exact (handleObject_changes client id steady role).weaken fun _ changes => changes.widen (by simp)
  · have invalid : Changes calmEffects scene (invalidObject scene client) :=
      (invalidObject_changes client).widen (by simp)
    cases call with
    | setSource x y width height =>
        cases role with
        | viewport user =>
            exact (nestedViewportSetSource_changes client user x y width height).weaken fun _ changes =>
              changes.widen (by simp)
        | _ => exact .pure invalid
    | setDestination width height =>
        cases role with
        | viewport user =>
            exact (nestedViewportSetDestination_changes client user width height).weaken fun _ changes =>
              changes.widen (by simp)
        | _ => exact .pure invalid
    | _ => exact absurd rfl steady

/-- A request is calm when it neither makes a registry nor commits a surface. -/
def Request.calm : Request → Bool
  | .getRegistry => false
  | .surface _ .commit => false
  | _ => true

/-- A request is steady when it is calm and does not work on the size of a surface. -/
def Request.steady : Request → Bool
  | .getRegistry => false
  | .surface _ call => call.steady
  | .object _ call => call.steady
  | _ => true

theorem handleRequest_steady (client : WlClientId) {request : Request} (steady : request.steady = true) :
    Ensures (handleRequest scene client request) (Changes steadyEffects scene) := by
  cases request with
  | getRegistry => cases steady
  | bindOutput output => exact Changes.inRequest (bindWlOutput_changes client output) (by simp)
  | createSurface version => exact .pure (.single (.createSurface client version) (by simp))
  | createBuffer width height => exact .pure (.single (.buffers _) (by simp))
  | createImageDesc => exact .pure (.single (.descs _ _) (by simp))
  | createOutputImageDesc description => exact .pure (.single (.descs _ scene.nextDescription) (by simp))
  | destroyBuffer buffer =>
      simp only [handleRequest]
      split
      · exact Changes.inRequest (bufferHandleResourceDestroy_changes buffer) (by simp)
      · exact .pure (invalidObject_changes client)
  | destroyImageDesc desc =>
      simp only [handleRequest]
      split
      · exact Changes.inRequest (imageDescHandleResourceDestroy_changes desc) (by simp)
      · exact .pure (invalidObject_changes client)
  | surface id call =>
      simp only [handleRequest]
      split
      · exact handleSurface_changes client id steady
      · exact .pure (invalidObject_changes client)
  | object id call =>
      simp only [handleRequest]
      split
      · exact handleObject_changes client id steady _
      · exact .pure (invalidObject_changes client)

theorem handleRequest_calm (client : WlClientId) {request : Request} (calm : request.calm = true) :
    Ensures (handleRequest scene client request) (Changes calmEffects scene) := by
  have invalid : Changes calmEffects scene (invalidObject scene client) :=
    (invalidObject_changes client).widen (by simp)
  by_cases steady : request.steady = true
  · exact (handleRequest_steady client steady).weaken fun _ changes => changes.widen (by simp)
  · cases request with
    | getRegistry => cases calm
    | surface id call =>
        simp only [handleRequest]
        split
        · cases call with
          | commit => cases calm
          | setBufferTransform | setBufferScale => exact .pure (.setSize scene id (fun _ => rfl) (by simp))
          | _ => exact absurd rfl steady
        · exact .pure invalid
    | object id call =>
        simp only [handleRequest]
        split
        · exact handleObject_calm client id call _
        · exact .pure invalid
    | _ => exact absurd rfl steady

theorem handleRequest_requestEffects (client : WlClientId) {request : Request} (other : request ≠ .getRegistry) :
    Ensures (handleRequest scene client request) (Changes requestEffects scene) := by
  by_cases calm : request.calm = true
  · exact (handleRequest_calm client calm).weaken fun _ changes => changes.widen (by simp)
  · cases request with
    | getRegistry => exact absurd rfl other
    | surface id call =>
        cases call with
        | commit =>
            simp only [handleRequest]
            split
            · exact (nestedSurfaceCommit_changes id).bind fun result changed => .pure (changed.widen (by simp))
            · exact .pure ((invalidObject_changes client).widen (by simp))
        | _ => exact absurd rfl calm
    | _ => exact absurd rfl calm

theorem Changes.inScene {effects : List Effect} {computation : Handled Scene}
    (covered : Ensures computation (Changes effects scene))
    (listed : ∀ effect ∈ effects, effect ∈ sceneEffects) : Ensures computation (Changes sceneEffects scene) :=
  covered.weaken fun _ changes => changes.widen listed

theorem handleRequest_changes (client : WlClientId) (request : Request) :
    Ensures (handleRequest scene client request) (Changes sceneEffects scene) := by
  by_cases registry : request = .getRegistry
  · subst registry
    exact Changes.inScene (clientResourceCreate_changes client) (by simp)
  · exact Changes.inScene (handleRequest_requestEffects client registry) (by simp)

end Requests

section Events

theorem handleWlOutputGeometry_changes (runDisplay : Bool) (id : OutputId) :
    Ensures (handleWlOutputGeometry scene runDisplay id) (Changes renderEffects scene) := by
  apply Ensures.read
  intro output _
  split
  · exact .pure (renderDirty_changes id)
  · exact .pure (.refl scene)

theorem handleWlOutputScale_changes (runDisplay : Bool) (id : OutputId) (factor : Int32) :
    Ensures (handleWlOutputScale scene runDisplay id factor) (Changes renderEffects scene) := by
  apply Ensures.read
  intro output _
  have scaled : Changes renderEffects scene (scene.setOutput id fun output => { output with scale := factor }) :=
    .setOutput .screen scene id (fun _ => rfl) (by simp)
  dsimp only
  split
  · exact .pure (scaled.trans (renderDirty_changes id))
  · exact .pure scaled

theorem handleWlOutputDone_changes (env : Environment) (runDisplay : Bool) (id : OutputId) :
    Ensures (handleWlOutputDone scene env runDisplay id) (Changes createEffects scene) := by
  apply Ensures.read
  intro output _
  have noted : Changes createEffects scene (scene.setOutput id fun output => { output with hasOutputDone := true }) :=
    .setOutput .screen scene id (fun _ => rfl) (by simp)
  exact noted.andThen (initSurfaceIfReady_changes env runDisplay id)

theorem handleOutputDescReady_changes (env : Environment) (runDisplay : Bool) (id : OutputId) :
    Ensures (handleOutputDescReady scene env runDisplay id) (Changes createEffects scene) := by
  apply Ensures.read
  intro output _
  have noted : Changes createEffects scene
      (scene.setOutput id fun output => { output with outputDescCurrent := true }) :=
    .setOutput .screen scene id (fun _ => rfl) (by simp)
  exact noted.andThen (initSurfaceIfReady_changes env runDisplay id)

theorem surfaceFrameHandleDone_changes (id : OutputId) :
    Ensures (surfaceFrameHandleDone scene id) (Changes renderEffects scene) := by
  apply Ensures.read
  intro output _
  apply Ensures.pure
  refine Changes.trans ?_ (render_changes id)
  exact .setOutput .screen scene id (fun _ => rfl) (by simp)

theorem afterDispatchNested_changes (env : Environment) :
    Changes fallBackEffects scene (afterDispatchNested scene env) := by
  unfold afterDispatchNested
  split
  · exact setupClientlessMode_changes env
  · exact .refl scene

/-- A scene event that is no request comes from upstream or from the nested server itself. -/
def SceneEvent.isRequest : SceneEvent → Bool
  | .request _ _ => true
  | _ => false

theorem handleScene_eventEffects (env : Environment) (runDisplay : Bool) {event : SceneEvent}
    (other : event.isRequest = false) :
    Ensures (handleScene scene env runDisplay event) (Changes (.done :: eventEffects) scene) := by
  have covered {effects : List Effect} {computation : Handled Scene} (handled : Ensures computation (Changes effects scene))
      (listed : ∀ effect ∈ effects, effect ∈ .done :: eventEffects) :
      Ensures computation (Changes (.done :: eventEffects) scene) :=
    handled.weaken fun _ changes => changes.widen listed
  cases event with
  | configure output serial width height =>
      exact covered (extSessionLockSurfaceV1HandleConfigure_changes env output serial width height) (by simp)
  | outputAdded name => exact .pure (.single (.addOutput _ ⟨rfl, rfl⟩) (by simp))
  | outputRemoved name => exact covered (handleGlobalRemove_changes env name) (by simp)
  | outputGeometry output => exact covered (handleWlOutputGeometry_changes runDisplay output) (by simp)
  | outputScale output factor => exact covered (handleWlOutputScale_changes runDisplay output factor) (by simp)
  | outputDone output => exact covered (handleWlOutputDone_changes env runDisplay output) (by simp)
  | outputDescReady output => exact covered (handleOutputDescReady_changes env runDisplay output) (by simp)
  | preferredScale output scale => exact covered (fractScalePreferredScale_changes output scale) (by simp)
  | frameDone output => exact covered (surfaceFrameHandleDone_changes output) (by simp)
  | backgroundFrameDone callbacks => exact covered (bgFrameHandleDone_changes env callbacks) (by simp)
  | request client request => cases other
  | clientGone client => exact covered (clientGone_changes env client) (by simp)
  | nestedDispatched => exact .pure ((afterDispatchNested_changes env).widen (by simp))

theorem handleScene_changes (env : Environment) (runDisplay : Bool) (event : SceneEvent) :
    Ensures (handleScene scene env runDisplay event) (Changes (.done :: sceneEffects) scene) := by
  by_cases other : event.isRequest = false
  · exact (handleScene_eventEffects env runDisplay other).weaken fun _ changes => changes.widen (by simp)
  · cases event with
    | request client request =>
        exact (handleRequest_changes client request).weaken fun _ changes => changes.widen (by simp)
    | _ => exact absurd rfl other

theorem createSurfaces_changes (env : Environment) :
    Ensures (createSurfaces scene env) (Changes createEffects scene) := by
  apply Changes.foldlM
  intro state id
  apply Ensures.read
  intro output _
  apply Ensures.check
  intro _
  exact createSurface_changes env id

theorem startMainPlugin_changes (env : Environment) :
    Ensures (startMainPlugin scene env) (Changes createEffects scene) := by
  unfold startMainPlugin
  split
  · exact .pure (.refl scene)
  · refine (runPluginCommand_changes env none).bind fun result started => ?_
    obtain ⟨next, success⟩ := result
    have widened : Changes createEffects scene next := started.widen (by simp)
    dsimp only
    split
    · exact .pure widened
    · exact .pure (widened.trans ((setupClientlessMode_changes env).widen (by simp)))

end Events

end SwaylockPlugin
