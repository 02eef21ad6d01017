import SwaylockPlugin.Proof.Footprints

namespace SwaylockPlugin

open Library

variable {scene : Scene}

section Subsurface

theorem withSubsurface_changes {effects : List Effect} (user : Option SurfaceId)
    {act : SurfaceId → ForwardSurface → SurfaceId → Handled Scene}
    (acts : ∀ id surface parent, Ensures (act id surface parent) (Changes effects scene)) :
    Ensures (withSubsurface scene user act) (Changes effects scene) := by
  apply Ensures.read
  intro id _
  apply Ensures.read
  intro surface _
  split
  · exact .pure (.refl scene)
  · split
    · exact .pure (.refl scene)
    · exact .check fun _ => acts _ _ _

theorem setPendingEntry_changes (user : Option SurfaceId) {change : SubsurfaceEntry → SubsurfaceEntry}
    (kept : ∀ entry, (change entry).link = entry.link) :
    Ensures (withSubsurface scene user fun id _ _ => return setPendingEntry scene id change)
      (Changes [.surface .position] scene) := by
  apply withSubsurface_changes user
  intro id surface parent
  apply Ensures.pure
  apply Changes.setForward .position
  · intro record
    simp only [SurfaceGroup.mask, kept]
  · simp

theorem placeSubsurface_changes (client : WlClientId) (user : Option SurfaceId) (sibling : SurfaceId)
    {nextToParent : SurfaceId → SurfaceState → SurfaceState}
    (nextToSibling : SurfaceId → SurfaceId → List SurfaceId → List SurfaceId)
    (kept : ∀ id pending, (nextToParent id pending).unstacked = pending.unstacked) :
    Ensures (placeSubsurface scene client user sibling nextToParent nextToSibling)
      (Changes [.surface .tree, .plugin] scene) := by
  apply Ensures.read
  intro id _
  apply Ensures.read
  intro other _
  apply Ensures.check
  intro _
  apply withSubsurface_changes user
  intro child surface parent
  split
  · apply Ensures.read
    intro owner _
    apply Ensures.pure
    apply Changes.setForward .tree
    · intro record
      simp only [SurfaceGroup.mask, kept]
      rfl
    · simp
  · split
    · exact .read fun _ _ => .pure (.setForward .tree scene parent (fun _ => rfl) (by simp))
    · exact .pure (.postError scene client _ (by simp))

theorem nestedSubsurfacePlaceAbove_changes (client : WlClientId) (user : Option SurfaceId) (sibling : SurfaceId) :
    Ensures (nestedSubsurfacePlaceAbove scene client user sibling) (Changes [.surface .tree, .plugin] scene) :=
  placeSubsurface_changes client user sibling _ fun _ _ => rfl

theorem nestedSubsurfacePlaceBelow_changes (client : WlClientId) (user : Option SurfaceId) (sibling : SurfaceId) :
    Ensures (nestedSubsurfacePlaceBelow scene client user sibling) (Changes [.surface .tree, .plugin] scene) :=
  placeSubsurface_changes client user sibling _ fun _ _ => rfl

/-- A child gets its parent, an upstream surface and a resource, and the parent has it pending on top. -/
abbrev hangChild (scene : Scene) (client : WlClientId) (child parent : SurfaceId) : Scene :=
  Scene.setPending ((scene.createResource client (.subsurface (some child))).1.setForward child fun surface =>
    { surface with
      subsurface := some scene.resources.next
      subsurfaceParent := some parent
      subsurfPendingEntry := { surface.subsurfPendingEntry with link := some parent }
      extSurface := createExtSurface scene.globals }) parent fun pending =>
    { pending with subsurfacesAbove := pending.subsurfacesAbove ++ [child] }

/-- A subsurface request posts an error, or it hangs a child without a role below a parent that does not descend from
it. -/
inductive Parents (scene : Scene) (client : WlClientId) (child parent : SurfaceId) : Scene → Prop
  | refused (error : PluginError) : Parents scene client child parent (scene.postError client error)
  | hung {surface : ForwardSurface} {ancestor : SurfaceId} (present : scene.forwardSurfaces.cell child = some surface)
      (unlayered : surface.layerSurface = none) (free : surface.subsurfaceParent = none)
      (walked : lastAncestor scene (scene.forwardSurfaces.next + 1) parent = .ok ancestor) (apart : ancestor ≠ child) :
      Parents scene client child parent (hangChild scene client child parent)

theorem subcompositorGetSubsurface_parents (client : WlClientId) (child parent : SurfaceId) :
    Ensures (subcompositorGetSubsurface scene client child parent) (Parents scene client child parent) := by
  refine .read fun surface present => ?_
  split
  · exact .pure (.refused _)
  · rename_i free
    simp only [Bool.or_eq_true, Option.isSome_iff_ne_none, ne_eq, not_or, not_not] at free
    refine .via (fun ancestor => lastAncestor scene (scene.forwardSurfaces.next + 1) parent = .ok ancestor)
      (fun _ walked => walked) fun ancestor walked => ?_
    split
    · exact .pure (.refused _)
    · rename_i apart
      exact .pure (.hung present free.1 free.2 walked apart)

theorem subcompositorGetSubsurface_changes (client : WlClientId) (child parent : SurfaceId) :
    Ensures (subcompositorGetSubsurface scene client child parent)
      (Changes [.resource, .surface .objects, .surface .tree, .plugin] scene) := by
  refine (subcompositorGetSubsurface_parents client child parent).weaken fun next parents => ?_
  cases parents with
  | refused error => exact .postError scene client error (by simp)
  | hung =>
      refine Changes.trans ?_ (.setForward .tree _ parent (fun _ => rfl) (by simp))
      have created : Changes [.resource, .surface .objects, .surface .tree, .plugin] scene
          (scene.createResource client (.subsurface (some child))).1 := .createResource scene client _ (by simp)
      have named := created.trans (.setForward .objects _ child (fun _ => rfl) (by simp) :
        Changes _ _ (Scene.setForward _ child fun surface => { surface with subsurface := some scene.resources.next }))
      have hung := named.trans (.setForward .tree _ child (fun _ => rfl) (by simp) :
        Changes _ _ (Scene.setForward _ child fun surface => { surface with
          subsurfaceParent := some parent
          subsurfPendingEntry := { surface.subsurfPendingEntry with link := some parent }
          extSurface := createExtSurface scene.globals }))
      simp only [Scene.setForward, Heap.modify_modify] at hung
      exact hung

end Subsurface

section Extension

theorem getExtension_changes (client : WlClientId) (id : SurfaceId) (role : Role)
    (current : ForwardSurface → Option ResourceId) {keep : ResourceId → ForwardSurface → ForwardSurface}
    (kept : ∀ resource surface, SurfaceGroup.objects.mask (keep resource surface) =
      SurfaceGroup.objects.mask surface) :
    Ensures (getExtension scene client id role current keep)
      (Changes [.plugin, .resource, .surface .objects] scene) := by
  apply Ensures.read
  intro surface _
  have posted : Changes [.plugin, .resource, .surface .objects] scene
      (if (current surface).isSome then scene.postError client .exists else scene) := by
    split
    · exact .postError scene client _ (by simp)
    · exact .refl scene
  apply Ensures.pure
  refine Changes.trans ?_ (.setForward .objects _ id (kept _) (by simp))
  exact posted.trans (.createResource _ client role (by simp))

theorem nestedViewporterGetViewport_changes (client : WlClientId) (id : SurfaceId) :
    Ensures (nestedViewporterGetViewport scene client id) (Changes [.plugin, .resource, .surface .objects] scene) := by
  refine getExtension_changes client id _ _ ?_
  exact fun _ _ => rfl

theorem nestedColorGetSurface_changes (client : WlClientId) (id : SurfaceId) :
    Ensures (nestedColorGetSurface scene client id) (Changes [.plugin, .resource, .surface .objects] scene) := by
  refine getExtension_changes client id _ _ ?_
  exact fun _ _ => rfl

theorem nestedColorRepGetSurface_changes (client : WlClientId) (id : SurfaceId) :
    Ensures (nestedColorRepGetSurface scene client id) (Changes [.plugin, .resource, .surface .objects] scene) := by
  refine getExtension_changes client id _ _ ?_
  exact fun _ _ => rfl

theorem viewportHandleResourceDestroy_changes (user : Option SurfaceId) :
    Ensures (viewportHandleResourceDestroy scene user) (Changes [.surface .objects] scene) := by
  cases user with
  | none => exact .pure (.refl scene)
  | some id => exact .read fun _ _ => .pure (.setForward .objects scene id (fun _ => rfl) (by simp))

theorem nestedViewportSetSource_changes (client : WlClientId) (user : Option SurfaceId)
    (x y width height : WlFixed) :
    Ensures (nestedViewportSetSource scene client user x y width height)
      (Changes [.plugin, .surface .size] scene) := by
  unfold nestedViewportSetSource
  dsimp only
  split
  · exact .pure (.postError scene client _ (by simp))
  · apply Ensures.read
    intro id _
    apply Ensures.read
    intro surface _
    exact .pure (.setSize scene id (fun _ => rfl) (by simp))

theorem nestedViewportSetDestination_changes (client : WlClientId) (user : Option SurfaceId)
    (width height : Int32) :
    Ensures (nestedViewportSetDestination scene client user width height)
      (Changes [.plugin, .surface .size] scene) := by
  unfold nestedViewportSetDestination
  split
  · exact .pure (.postError scene client _ (by simp))
  · apply Ensures.read
    intro id _
    apply Ensures.read
    intro surface _
    exact .pure (.setSize scene id (fun _ => rfl) (by simp))

theorem announceScale_changes (id : SurfaceId) (output : Option OutputId) :
    Ensures (announceScale scene id output) (Changes [.plugin] scene) := by
  cases output with
  | none => exact .pure (.refl scene)
  | some output =>
      apply Ensures.read
      intro record _
      split
      · exact .pure (.tell scene _ (by simp [Message.effect]))
      · exact .pure (.refl scene)

theorem nestedFractionalScaleManagerGetFractionalScale_changes (client : WlClientId) (id : SurfaceId) :
    Ensures (nestedFractionalScaleManagerGetFractionalScale scene client id)
      (Changes [.plugin, .resource, .surface .objects] scene) := by
  refine .via (Changes [.plugin, .resource, .surface .objects] scene) ?_ fun middle changed => ?_
  · exact getExtension_changes client id _ _ fun _ _ => rfl
  · apply Ensures.read
    intro surface _
    exact changed.andThen ((announceScale_changes id _).weaken fun _ told => told.widen (by simp))

theorem fractionalScaleHandleResourceDestroy_changes (user : Option SurfaceId) :
    Ensures (fractionalScaleHandleResourceDestroy scene user) (Changes [.surface .objects] scene) := by
  cases user with
  | none => exact .pure (.refl scene)
  | some id => exact .read fun _ _ => .pure (.setForward .objects scene id (fun _ => rfl) (by simp))

theorem nestedColorSurfaceSetImageDesc_changes (desc : DescId) (intent : UInt32) (user : Option SurfaceId) :
    Ensures (nestedColorSurfaceSetImageDesc scene desc intent user) (Changes [.desc, .surface .content] scene) := by
  cases user with
  | none => exact .pure (.refl scene)
  | some id =>
      apply Ensures.read
      intro surface _
      refine .via (Changes [.desc, .surface .content] scene) ?_ fun dropped changed => ?_
      · exact (unlinkDesc_changes _ _).weaken fun _ unlinked => unlinked.widen (by simp)
      · have taken : Changes [.desc, .surface .content] scene (dropped.setPending id fun pending =>
            { pending with renderIntent := intent, imageDesc := some desc }) :=
          changed.trans (.setPending dropped id (fun _ => rfl) (by simp))
        refine taken.andThen ?_
        exact (changeImageDesc_changes desc _).weaken fun _ linked => linked.widen (by simp)

theorem nestedColorSurfaceUnsetImageDesc_changes (user : Option SurfaceId) :
    Ensures (nestedColorSurfaceUnsetImageDesc scene user) (Changes [.desc, .surface .content] scene) := by
  cases user with
  | none => exact .pure (.refl scene)
  | some id =>
      apply Ensures.read
      intro surface _
      refine .via (Changes [.desc, .surface .content] scene) ?_ fun dropped changed => ?_
      · exact (unlinkDesc_changes _ _).weaken fun _ unlinked => unlinked.widen (by simp)
      · exact .pure (changed.trans (.setPending dropped id (fun _ => rfl) (by simp)))

theorem colorSurfaceHandleResourceDestroy_changes (resource : ResourceId) (user : Option SurfaceId) :
    Ensures (colorSurfaceHandleResourceDestroy scene resource user) (Changes [.surface .objects] scene) := by
  cases user with
  | none => exact .pure (.refl scene)
  | some id =>
      apply Ensures.read
      intro surface _
      exact .check fun _ => .pure (.setForward .objects scene id (fun _ => rfl) (by simp))

theorem imageDescHandleResourceDestroy_changes (desc : DescId) :
    Ensures (imageDescHandleResourceDestroy scene desc) (Changes [.desc] scene) := by
  refine (changeImageDesc_changes desc _).bind fun middle changed => ?_
  exact changed.andThen (deleteImageDescIfUnreferenced_changes desc)

theorem setColorRepresentation_changes {change : SurfaceState → SurfaceState}
    (plain : ∀ pending, (change pending).plain = pending.plain) (user : Option SurfaceId) :
    Ensures (setColorRepresentation scene change user) (Changes [.surface .content] scene) := by
  cases user with
  | none => exact .pure (.refl scene)
  | some id => exact .read fun _ _ => .pure (.setPending scene id plain (by simp))

theorem colorRepHandleResourceDestroy_changes (resource : ResourceId) (user : Option SurfaceId) :
    Ensures (colorRepHandleResourceDestroy scene resource user)
      (Changes [.surface .objects, .surface .content] scene) := by
  cases user with
  | none => exact .pure (.refl scene)
  | some id =>
      refine .read fun surface _ => .check fun _ => .pure ?_
      have left : Changes [.surface .objects, .surface .content] scene
          (scene.setForward id fun surface => { surface with colorRepresentation := none }) :=
        .setForward .objects scene id (fun _ => rfl) (by simp)
      have both := left.trans (.setPending _ id (fun _ => rfl) (by simp) : Changes _ _ (Scene.setPending _ id fun pending =>
        { pending with
          hasAlphaMode := false
          alphaMode := 0
          hasCoefRange := false
          coefficients := 0
          range := 0
          hasChromaLocation := false
          chromaLocation := 0 }))
      simp only [Scene.setPending, Scene.setForward, Heap.modify_modify] at both
      exact both

end Extension

section Objects

theorem runDestroyHandler_changes (id : ResourceId) {role : Role} (other : ∀ user, role ≠ .subsurface user) :
    Ensures (runDestroyHandler scene id role)
      (Changes [.surface .objects, .surface .frames, .surface .content, .callbacks] scene) := by
  cases role with
  | viewport user => exact (viewportHandleResourceDestroy_changes user).weaken fun _ after => after.widen (by simp)
  | fractionalScale user =>
      exact (fractionalScaleHandleResourceDestroy_changes user).weaken fun _ after => after.widen (by simp)
  | colorSurface user =>
      exact (colorSurfaceHandleResourceDestroy_changes id user).weaken fun _ after => after.widen (by simp)
  | colorRepresentation user =>
      exact (colorRepHandleResourceDestroy_changes id user).weaken fun _ after => after.widen (by simp)
  | subsurface user => exact absurd rfl (other user)
  | layerSurface output => exact .pure (.refl scene)
  | output output => exact .pure (.refl scene)
  | frameCallback => exact .pure ((frameCallbackHandleResourceDestroy_changes id).widen (by simp))

theorem destroyResourceObject_changes (id : ResourceId) :
    Ensures (destroyResourceObject scene id) (Changes destroyEffects scene) := by
  apply Ensures.read
  intro resource _
  refine .via (Changes destroyEffects scene) ?_ fun handled changed => ?_
  · cases role : resource.role with
    | subsurface user =>
        cases user with
        | none => exact .pure (.refl scene)
        | some surface =>
            exact (destroySubsurfaceParts_changes surface).weaken fun _ parted => parted.widen (by simp)
    | _ => exact (runDestroyHandler_changes id (by simp)).weaken fun _ after => after.widen (by simp)
  · exact .pure (changed.trans (.destroyResource handled id (by simp)))

theorem destroyOwned_changes (owned : Owned) :
    Ensures (destroyOwned scene owned) (Changes destroyEffects scene) := by
  cases owned with
  | surface id => exact surfaceHandleResourceDestroy_changes id
  | buffer id => exact (bufferHandleResourceDestroy_changes id).weaken fun _ after => after.widen (by simp)
  | imageDesc id => exact (imageDescHandleResourceDestroy_changes id).weaken fun _ after => after.widen (by simp)
  | resource id => exact destroyResourceObject_changes id

end Objects

section LayerShell

theorem bindWlOutput_changes (client : WlClientId) (output : OutputId) :
    Ensures (bindWlOutput scene client output) (Changes [.resource] scene) :=
  .read fun _ _ => .pure (.createResource scene client _ (by simp))

/-- A layer surface has these effects. -/
abbrev layerEffects : List Effect :=
  [.output .plugin, .output .screen, .surface .assigned, .serial, .resource, .plugin]

theorem linkLayerSurface_changes (client : WlClientId) (id : SurfaceId) (output : OutputId) :
    Ensures (linkLayerSurface scene client id output) (Changes layerEffects scene) := by
  have linked : Changes layerEffects scene ((scene.setOutput output fun output =>
      { output with pluginSurface := some id }).setForward id fun surface =>
        { surface with swaySurface := some output }) := by
    refine Changes.trans ?_ (.setForward .assigned _ id (fun _ => rfl) (by simp))
    exact .setOutput .plugin scene output (fun _ => rfl) (by simp)
  apply Ensures.read
  intro record _
  apply Ensures.read
  intro bgClient _
  apply Ensures.read
  intro entry _
  apply Ensures.check
  intro _
  refine (takeSerial_changes _).bind fun taken serial => .pure ?_
  refine Changes.trans ?_ (.setForward .assigned _ id (fun _ => rfl) (by simp))
  refine Changes.trans ?_ (.createResource _ client _ (by simp))
  exact linked.trans (serial.widen (by simp))

theorem wlrLayerShellGetLayerSurface_changes (client : WlClientId) (id : SurfaceId)
    (resource : Option OutputId) :
    Ensures (wlrLayerShellGetLayerSurface scene client id resource) (Changes layerEffects scene) := by
  unfold wlrLayerShellGetLayerSurface
  split
  · exact .pure (.refl scene)
  · apply Ensures.read
    intro output _
    apply Ensures.read
    intro surface _
    split
    · exact .pure (.postError scene client _ (by simp))
    · refine (linkLayerSurface_changes client id _).bind fun linked changed => ?_
      split
      · exact changed.andThen ((announceScale_changes id _).weaken fun _ told => told.widen (by simp))
      · exact .pure changed

/-- An acknowledgement has these effects. -/
abbrev ackEffects : List Effect := [.output .screen, .surface .role, .plugin]

theorem zwlrLayerSurfaceAckConfigure_changes (client : WlClientId) (output : OutputId) (serial : UInt32) :
    Ensures (zwlrLayerSurfaceAckConfigure scene client output serial) (Changes ackEffects scene) := by
  apply Ensures.read
  intro record _
  apply Ensures.read
  intro id _
  apply Ensures.read
  intro surface _
  split
  · exact .pure (.refl scene)
  · have noted : Changes ackEffects scene (scene.setForward id fun surface =>
        { surface with lastUsedPluginSerial := serial }) :=
      .setForward .role scene id (fun _ => rfl) (by simp)
    dsimp only
    split
    · exact .pure (noted.trans (.postError _ client _ (by simp)))
    · rename_i pair rest _
      apply Ensures.pure
      apply noted.trans
      have used : Changes ackEffects (scene.setForward id fun surface =>
          { surface with lastUsedPluginSerial := serial }) ((scene.setForward id fun surface =>
          { surface with lastUsedPluginSerial := serial }).setForward id fun surface => { surface with
            lastAckedWidth := pair.configWidth
            lastAckedHeight := pair.configHeight
            serialTable := rest }) :=
        .setForward .role _ id (fun _ => rfl) (by simp)
      unfold usePair
      dsimp only
      split
      · exact used
      · exact used.trans (.setOutput .screen _ output (fun _ => rfl) (by simp))

end LayerShell

end SwaylockPlugin
