import SwaylockPlugin.Proof.Frame

namespace SwaylockPlugin

open Library

theorem deleteImageDescIfUnreferenced_quiet (scene : Scene) (id : DescId) :
    Ensures (deleteImageDescIfUnreferenced scene id) (Quiet scene) := by
  refine .read fun desc _ => ?_
  split
  · exact .pure (.refl scene)
  · exact .pure (.unrelated rfl)

theorem changeImageDesc_quiet (scene : Scene) (id : DescId)
    (change : ForwardImageDesc → ForwardImageDesc) :
    Ensures (scene.changeImageDesc id change) (Quiet scene) :=
  .read fun _ _ => .pure (.unrelated rfl)

theorem changeBuffer_quiet (scene : Scene) (id : BufferId) {change : ForwardBuffer → ForwardBuffer}
    (shrinks : ∀ buffer : ForwardBuffer, buffer.Shrinks (change buffer)) :
    Ensures (scene.changeBuffer id change) (Quiet scene) :=
  .read fun _ _ => .pure (.setBuffer scene id shrinks)

theorem unlinkDesc_quiet (scene : Scene) (remove : ForwardImageDesc → ForwardImageDesc)
    (desc : Option DescId) : Ensures (unlinkDesc scene remove desc) (Quiet scene) := by
  cases desc with
  | none => exact .pure (.refl scene)
  | some desc =>
      refine (changeImageDesc_quiet scene desc remove).bind fun middle changed => ?_
      exact (deleteImageDescIfUnreferenced_quiet middle desc).weaken fun _ deleted => changed.trans deleted

theorem releasePendingBuffer_quiet (scene : Scene) (id : SurfaceId) (attachment : Attachment) :
    Ensures (releasePendingBuffer scene id attachment) (Quiet scene) := by
  cases attachment with
  | null => exact .pure (.refl scene)
  | committed => exact .pure (.refl scene)
  | unreachable => exact .throw
  | buffer buffer =>
      refine .via (Quiet scene) (changeBuffer_quiet scene buffer ?_) fun middle changed => ?_
      · exact fun record => .ofPending record _
      · refine .read fun record _ => ?_
        split
        · exact .check fun _ => .pure (changed.trans (.freeBuffer middle buffer))
        · exact .pure changed

theorem unlinkAttachment_quiet (scene : Scene) {remove : ForwardBuffer → ForwardBuffer}
    (shrinks : ∀ buffer : ForwardBuffer, buffer.Shrinks (remove buffer))
    (attachment : Attachment) : Ensures (unlinkAttachment scene remove attachment) (Quiet scene) := by
  cases attachment with
  | null => exact .pure (.refl scene)
  | committed => exact .pure (.refl scene)
  | unreachable => exact .pure (.refl scene)
  | buffer buffer => exact .read fun _ _ => .check fun _ => .pure (.setBuffer scene buffer shrinks)

theorem clearUserData_quiet (scene : Scene) (role : Role) (resource : Option ResourceId) :
    Ensures (clearUserData scene role resource) (Quiet scene) := by
  cases resource with
  | none => exact .pure (.refl scene)
  | some resource => exact .read fun _ _ => .pure (.unrelated rfl)

theorem nestedSurfaceDamage_quiet (scene : Scene) (id : SurfaceId) (record : DamageRecord) :
    Quiet scene (nestedSurfaceDamage scene id record) :=
  .setForward scene id fun _ => ⟨rfl, fun sound => sound⟩

theorem nestedSurfaceDamageBuffer_quiet (scene : Scene) (id : SurfaceId) (record : DamageRecord) :
    Quiet scene (nestedSurfaceDamageBuffer scene id record) :=
  .setForward scene id fun _ => ⟨rfl, fun sound => sound⟩

theorem createResource_quiet (scene : Scene) (client : WlClientId) (role : Role) :
    Quiet scene (scene.createResource client role).1 :=
  .unrelated rfl

theorem nestedSurfaceFrame_quiet (scene : Scene) (client : WlClientId) (id : SurfaceId) :
    Quiet scene (nestedSurfaceFrame scene client id) :=
  (createResource_quiet scene client .frameCallback).trans (.setForward _ id fun _ => ⟨rfl, fun sound => sound⟩)

theorem setPending_quiet (scene : Scene) (id : SurfaceId) {change : SurfaceState → SurfaceState}
    (kept : ∀ pending, (change pending).attachment = pending.attachment ∧
      (pending.Sound → (change pending).Sound)) :
    Quiet scene (scene.setPending id change) := by
  refine .setForward scene id fun surface => ⟨?_, fun sound => ?_⟩
  · simp only [ForwardSurface.core, ForwardSurface.attachments, ForwardSurface.roleCore,
      ForwardSurface.cycle, (kept surface.pending).1]
  · exact ⟨(kept surface.pending).2 sound.1, sound.2⟩

theorem unlinkEntry_quiet (scene : Scene) {change : ForwardSurface → ForwardSurface}
    (kept : ∀ surface, Steady ForwardSurface.core surface (change surface)) (link : Option SurfaceId) :
    Ensures (unlinkEntry scene change link) (Quiet scene) := by
  cases link with
  | none => exact .pure (.refl scene)
  | some owner => exact .read fun _ _ => .pure (.setForward scene owner kept)

theorem destroySubsurfaceParts_quiet (scene : Scene) (id : SurfaceId) :
    Ensures (destroySubsurfaceParts scene id) (Quiet scene) := by
  refine .read fun surface _ => ?_
  have told : Quiet scene
      (if surface.extSubsurface then scene.tell (.subsurface id .destroy) else scene) := by
    split
    · exact .tell scene rfl
    · exact .refl scene
  have cleared : Quiet scene ((if surface.extSubsurface then scene.tell (.subsurface id .destroy) else scene).setForward
      id fun surface => { surface with extSubsurface := false, extSurface := .none }) :=
    told.trans (.setForward _ id fun _ => ⟨rfl, fun sound => sound⟩)
  refine .via (Quiet scene) ?_ fun pending unlinked => .via (Quiet scene) ?_ fun committed unlinkedAgain => ?_
  · refine (unlinkEntry_quiet _ ?_ _).weaken fun _ unlinked => cleared.trans unlinked
    exact fun _ => ⟨rfl, fun sound => sound⟩
  · refine (unlinkEntry_quiet _ ?_ _).weaken fun _ again => unlinked.trans again
    exact fun _ => ⟨rfl, fun sound => sound⟩
  · exact .pure (unlinkedAgain.trans (.setForward committed id fun _ => ⟨rfl, fun sound => sound⟩))

theorem frameCallbackHandleResourceDestroy_quiet (scene : Scene) (id : ResourceId) :
    Quiet scene (frameCallbackHandleResourceDestroy scene id) := by
  have swept : Quiet scene { scene with forwardSurfaces := scene.forwardSurfaces.mapAll fun _ surface =>
      { surface with frameCallbacks := surface.frameCallbacks.erase id } } :=
    .sweepForward scene fun _ _ => ⟨rfl, fun sound => sound⟩
  exact swept.trans (.unrelated rfl)

theorem withSubsurface_quiet (scene : Scene) (user : Option SurfaceId)
    {act : SurfaceId → ForwardSurface → SurfaceId → Handled Scene}
    (quiet : ∀ id surface parent, Ensures (act id surface parent) (Quiet scene)) :
    Ensures (withSubsurface scene user act) (Quiet scene) := by
  refine .read fun id _ => .read fun surface _ => ?_
  split
  · exact .pure (.refl scene)
  · split
    · exact .pure (.refl scene)
    · exact .check fun _ => quiet _ _ _

theorem setPendingEntry_quiet (scene : Scene) (id : SurfaceId) (change : SubsurfaceEntry → SubsurfaceEntry) :
    Quiet scene (setPendingEntry scene id change) :=
  .setForward scene id fun _ => ⟨rfl, fun sound => sound⟩

theorem placeSubsurface_quiet (scene : Scene) (client : WlClientId) (user : Option SurfaceId)
    (sibling : SurfaceId) {nextToParent : SurfaceId → SurfaceState → SurfaceState}
    (nextToSibling : SurfaceId → SurfaceId → List SurfaceId → List SurfaceId)
    (kept : ∀ id pending, (nextToParent id pending).attachment = pending.attachment ∧
      (pending.Sound → (nextToParent id pending).Sound)) :
    Ensures (placeSubsurface scene client user sibling nextToParent nextToSibling) (Quiet scene) := by
  refine .read fun id _ => .read fun other _ => .check fun _ => ?_
  refine withSubsurface_quiet scene user fun id surface parent => ?_
  split
  · exact .read fun _ _ => .pure (setPending_quiet scene parent fun pending => kept id _)
  · split
    · exact .read fun _ _ => .pure (setPending_quiet scene parent fun _ => ⟨rfl, fun sound => sound⟩)
    · exact .pure (.postError scene client _)

theorem subcompositorGetSubsurface_quiet (scene : Scene) (client : WlClientId) (child parent : SurfaceId) :
    Ensures (subcompositorGetSubsurface scene client child parent) (Quiet scene) := by
  refine .read fun surface _ => ?_
  split
  · exact .pure (.postError scene client _)
  · refine .via (fun _ => True) (fun _ _ => trivial) fun ancestor _ => ?_
    split
    · exact .pure (.postError scene client _)
    · refine .pure (Frame.trans ?_ (setPending_quiet _ parent fun _ => ⟨rfl, fun sound => sound⟩))
      exact (createResource_quiet scene client _).trans (.setForward _ child fun _ => ⟨rfl, fun sound => sound⟩)

theorem getExtension_quiet (scene : Scene) (client : WlClientId) (id : SurfaceId) (role : Role)
    (current : ForwardSurface → Option ResourceId) {keep : ResourceId → ForwardSurface → ForwardSurface}
    (kept : ∀ resource surface, Steady ForwardSurface.core surface (keep resource surface)) :
    Ensures (getExtension scene client id role current keep) (Quiet scene) := by
  refine .read fun surface _ => .pure ?_
  have posted : Quiet scene
      (if (current surface).isSome then scene.postError client .exists else scene) := by
    split
    · exact .postError scene client _
    · exact .refl scene
  exact (posted.trans (createResource_quiet _ client role)).trans (.setForward _ id fun _ => kept _ _)

theorem viewportHandleResourceDestroy_quiet (scene : Scene) (user : Option SurfaceId) :
    Ensures (viewportHandleResourceDestroy scene user) (Quiet scene) := by
  cases user with
  | none => exact .pure (.refl scene)
  | some id => exact .read fun _ _ => .pure (.setForward scene id fun _ => ⟨rfl, fun sound => sound⟩)

theorem nestedViewportSetSource_quiet (scene : Scene) (client : WlClientId) (user : Option SurfaceId)
    (x y width height : WlFixed) :
    Ensures (nestedViewportSetSource scene client user x y width height) (Quiet scene) := by
  unfold nestedViewportSetSource
  dsimp only
  split
  · exact .pure (.postError scene client _)
  · rename_i valid
    refine .read fun id _ => .read fun _ _ => .pure (setPending_quiet scene id fun _ => ⟨rfl, fun sound => ?_⟩)
    have sizes : width = wlFixedFromInt (-1) ∨ 0 < width ∧ 0 < height := by
      by_cases unset : width = wlFixedFromInt (-1)
      · exact .inl unset
      · right
        simp [unset] at valid
        exact ⟨valid.1.2, valid.2⟩
    exact ⟨sound.1, sizes⟩

theorem nestedViewportSetDestination_quiet (scene : Scene) (client : WlClientId) (user : Option SurfaceId)
    (width height : Int32) :
    Ensures (nestedViewportSetDestination scene client user width height) (Quiet scene) := by
  unfold nestedViewportSetDestination
  split
  · exact .pure (.postError scene client _)
  · rename_i valid
    refine .read fun id _ => .read fun _ _ => .pure (setPending_quiet scene id fun _ => ⟨rfl, fun sound => ?_⟩)
    have sizes : width = -1 ∨ 0 < width ∧ 0 < height := by
      by_cases unset : width = -1
      · exact .inl unset
      · right
        simpa [unset] using valid
    exact ⟨sizes, sound.2⟩

theorem announceScale_quiet (scene : Scene) (id : SurfaceId) (output : Option OutputId) :
    Ensures (announceScale scene id output) (Quiet scene) := by
  cases output with
  | none => exact .pure (.refl scene)
  | some output =>
      refine .read fun record _ => ?_
      split
      · exact .pure (.tell scene rfl)
      · exact .pure (.refl scene)

theorem nestedFractionalScaleManagerGetFractionalScale_quiet (scene : Scene) (client : WlClientId)
    (id : SurfaceId) :
    Ensures (nestedFractionalScaleManagerGetFractionalScale scene client id) (Quiet scene) := by
  refine .via (Quiet scene) (getExtension_quiet scene client id _ _ fun _ _ => ⟨rfl, fun sound => sound⟩) fun middle created => ?_
  refine .read fun surface _ => ?_
  exact (announceScale_quiet middle id surface.swaySurface).weaken fun _ announced => created.trans announced

theorem fractionalScaleHandleResourceDestroy_quiet (scene : Scene) (user : Option SurfaceId) :
    Ensures (fractionalScaleHandleResourceDestroy scene user) (Quiet scene) := by
  cases user with
  | none => exact .pure (.refl scene)
  | some id => exact .read fun _ _ => .pure (.setForward scene id fun _ => ⟨rfl, fun sound => sound⟩)

theorem nestedColorSurfaceSetImageDesc_quiet (scene : Scene) (desc : DescId) (intent : UInt32)
    (user : Option SurfaceId) :
    Ensures (nestedColorSurfaceSetImageDesc scene desc intent user) (Quiet scene) := by
  cases user with
  | none => exact .pure (.refl scene)
  | some id =>
      refine .read fun surface _ => ?_
      refine (unlinkDesc_quiet scene _ _).bind fun middle dropped => ?_
      refine (changeImageDesc_quiet _ desc _).weaken fun final changed => Frame.trans ?_ changed
      exact dropped.trans (setPending_quiet middle id fun _ => ⟨rfl, fun sound => sound⟩)

theorem nestedColorSurfaceUnsetImageDesc_quiet (scene : Scene) (user : Option SurfaceId) :
    Ensures (nestedColorSurfaceUnsetImageDesc scene user) (Quiet scene) := by
  cases user with
  | none => exact .pure (.refl scene)
  | some id =>
      refine .read fun surface _ => ?_
      refine (unlinkDesc_quiet scene _ _).bind fun middle dropped => ?_
      exact .pure (dropped.trans (setPending_quiet middle id fun _ => ⟨rfl, fun sound => sound⟩))

theorem colorSurfaceHandleResourceDestroy_quiet (scene : Scene) (resource : ResourceId)
    (user : Option SurfaceId) :
    Ensures (colorSurfaceHandleResourceDestroy scene resource user) (Quiet scene) := by
  cases user with
  | none => exact .pure (.refl scene)
  | some id => exact .read fun _ _ => .check fun _ => .pure (.setForward scene id fun _ => ⟨rfl, fun sound => sound⟩)

theorem imageDescHandleResourceDestroy_quiet (scene : Scene) (desc : DescId) :
    Ensures (imageDescHandleResourceDestroy scene desc) (Quiet scene) :=
  unlinkDesc_quiet scene _ (some desc)

theorem setColorRepresentation_quiet (scene : Scene) {change : SurfaceState → SurfaceState}
    (kept : ∀ pending, (change pending).attachment = pending.attachment ∧
      (pending.Sound → (change pending).Sound)) (user : Option SurfaceId) :
    Ensures (setColorRepresentation scene change user) (Quiet scene) := by
  cases user with
  | none => exact .pure (.refl scene)
  | some id => exact .read fun _ _ => .pure (setPending_quiet scene id kept)

theorem colorRepHandleResourceDestroy_quiet (scene : Scene) (resource : ResourceId)
    (user : Option SurfaceId) :
    Ensures (colorRepHandleResourceDestroy scene resource user) (Quiet scene) := by
  cases user with
  | none => exact .pure (.refl scene)
  | some id => exact .read fun _ _ => .check fun _ => .pure (.setForward scene id fun _ => ⟨rfl, fun sound => sound⟩)

theorem runDestroyHandler_quiet (scene : Scene) (id : ResourceId) (role : Role) :
    Ensures (runDestroyHandler scene id role) (Quiet scene) := by
  cases role with
  | viewport user => exact viewportHandleResourceDestroy_quiet scene user
  | fractionalScale user => exact fractionalScaleHandleResourceDestroy_quiet scene user
  | colorSurface user => exact colorSurfaceHandleResourceDestroy_quiet scene id user
  | colorRepresentation user => exact colorRepHandleResourceDestroy_quiet scene id user
  | subsurface user =>
      cases user with
      | none => exact .pure (.refl scene)
      | some surface => exact destroySubsurfaceParts_quiet scene surface
  | layerSurface _ => exact .pure (.refl scene)
  | output _ => exact .pure (.refl scene)
  | frameCallback => exact .pure (frameCallbackHandleResourceDestroy_quiet scene id)

theorem destroyResourceObject_quiet (scene : Scene) (id : ResourceId) :
    Ensures (destroyResourceObject scene id) (Quiet scene) := by
  refine .read fun resource _ => ?_
  refine (runDestroyHandler_quiet scene id resource.role).bind fun middle handled => ?_
  exact .pure (handled.trans (.unrelated rfl))

theorem setClientPaused_quiet (scene : Scene) (env : Environment) (id : BgClientId) (paused : Bool) :
    Quiet scene (setClientPaused scene env id paused) := by
  unfold setClientPaused
  split
  · exact .refl scene
  · split
    · exact .refl scene
    · exact .unrelated rfl

theorem resumeAllClients_quiet (scene : Scene) (env : Environment) :
    Quiet scene (resumeAllClients scene env) :=
  foldl_keeps Frame.refl Frame.trans (fun scene id => setClientPaused_quiet scene env id false) _ _

theorem resumeClientForSurface_quiet (scene : Scene) (env : Environment) (output : SwaylockSurface) :
    Quiet scene (resumeClientForSurface scene env output) := by
  unfold resumeClientForSurface
  split
  · exact .refl scene
  · exact setClientPaused_quiet scene env _ false

theorem armHiddenCheck_quiet (scene : Scene) : Quiet scene (armHiddenCheck scene) := by
  unfold armHiddenCheck
  split
  · exact .unrelated rfl
  · exact .refl scene

theorem hiddenCheckTimeout_quiet (scene : Scene) (env : Environment) :
    Quiet scene (hiddenCheckTimeout scene env) := by
  have started : Quiet scene { scene with hiddenCheckTimer := none } := .unrelated rfl
  refine (started.trans ?_).trans (armHiddenCheck_quiet _)
  exact foldl_keeps Frame.refl Frame.trans
    (fun scene id => setClientPaused_quiet scene env id (clientIsHidden scene id)) _ _

theorem releaseClient_quiet (scene : Scene) (id : BgClientId) (output : Option OutputId) :
    Ensures (releaseClient scene id output) (Quiet scene) := by
  cases output with
  | none => exact .check fun _ => .pure (.unrelated rfl)
  | some output => exact .read fun _ _ => .check fun _ => .pure (.setOutput scene output fun _ => rfl)

theorem cleanupClient_quiet (scene : Scene) (env : Environment) (id : BgClientId) :
    Ensures (cleanupClient scene env id) (Quiet scene) := by
  have resumed := setClientPaused_quiet scene env id false
  refine .read fun record _ => ?_
  refine (releaseClient_quiet _ id record.uniqueOutput).bind fun middle released => ?_
  have unlisted : Quiet scene { setClientPaused scene env id false with
      clients := (setClientPaused scene env id false).clients.erase id } := resumed.trans (.unrelated rfl)
  have removed := unlisted.trans (.removeTimer? _ record.clientConnectTimer)
  exact .pure ((removed.trans released).trans (.unrelated rfl))

theorem assignClient_quiet (scene : Scene) (id : BgClientId) (output : Option OutputId) :
    Ensures (assignClient scene id output) (Quiet scene) := by
  cases output with
  | none => exact .check fun _ => .pure (.unrelated rfl)
  | some output =>
      refine .read fun _ _ => .check fun _ => .pure (Frame.trans (.setOutput scene output ?_) (.unrelated rfl))
      exact fun _ => rfl

theorem runPluginCommand_quiet (scene : Scene) (env : Environment) (output : Option OutputId) :
    Ensures (runPluginCommand scene env output) fun result => Quiet scene result.1 := by
  unfold runPluginCommand
  split
  · exact .pure (.refl scene)
  · refine .via (Quiet scene) ?_ fun _ connected => .pure connected
    refine .check fun _ => ?_
    refine (assignClient_quiet _ _ output).weaken fun final assigned => Frame.trans ?_ assigned
    exact .unrelated rfl

theorem clientDestroyed_quiet (scene : Scene) (env : Environment) (id : BgClientId) :
    Ensures (clientDestroyed scene env id) (Quiet scene) := by
  refine .read fun record _ => ?_
  refine (cleanupClient_quiet scene env id).bind fun middle cleaned => ?_
  split
  · refine (runPluginCommand_quiet middle env record.uniqueOutput).bind fun result started => ?_
    obtain ⟨final, success⟩ := result
    dsimp only at started ⊢
    split
    · exact .pure (cleaned.trans started)
    · exact .pure ((cleaned.trans started).trans (.unrelated rfl))
  · exact .pure (cleaned.trans (.unrelated rfl))

theorem clientResourceCreate_quiet (scene : Scene) (client : WlClientId) :
    Ensures (clientResourceCreate scene client) (Quiet scene) := by
  unfold clientResourceCreate
  split
  · exact .pure (.refl scene)
  · refine .read fun record _ => .pure ?_
    exact (Frame.removeTimer? scene record.clientConnectTimer).trans (.unrelated rfl)

theorem takeSerial_quiet (scene : Scene) (client : Option BgClientId) :
    Ensures (takeSerial scene client) fun result => Quiet scene result.1 :=
  .read fun _ _ => .read fun _ _ => .pure (.unrelated rfl)

end SwaylockPlugin
