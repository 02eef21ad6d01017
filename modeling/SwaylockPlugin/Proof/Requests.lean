import SwaylockPlugin.Proof.Objects
import SwaylockPlugin.Proof.Roles

namespace SwaylockPlugin

open Library

/-- An object of a plugin surface is of one of these kinds. -/
inductive ObjectKind where
  | viewport
  | fractionalScale
  | colorSurface
  | colorRepresentation
  | subsurface
  deriving DecidableEq

namespace ObjectKind

/-- A surface points to its object of a kind. -/
def pointer : ObjectKind → ForwardSurface → Option ResourceId
  | viewport => ForwardSurface.viewport
  | fractionalScale => ForwardSurface.fractionalScale
  | colorSurface => ForwardSurface.colorSurface
  | colorRepresentation => ForwardSurface.colorRepresentation
  | subsurface => ForwardSurface.subsurface

/-- An object of a kind has its surface as user data. -/
def role : ObjectKind → Option SurfaceId → Role
  | viewport => .viewport
  | fractionalScale => .fractionalScale
  | colorSurface => .colorSurface
  | colorRepresentation => .colorRepresentation
  | subsurface => .subsurface

theorem role_inj {kind other : ObjectKind} {user surface : Option SurfaceId}
    (same : kind.role user = other.role surface) : kind = other ∧ user = surface := by
  cases kind <;> cases other <;> simp_all [role]

theorem role_ne_frameCallback (kind : ObjectKind) (user : Option SurfaceId) : kind.role user ≠ .frameCallback := by
  cases kind <;> exact nofun

end ObjectKind

/-- These effects leave attachments, trees, buffers and resources alone. -/
abbrev plainEffects : List Effect :=
  [.output .client, .output .timer, .output .screen, .surface .role, .surface .content, .surface .size,
    .surface .position, .desc, .serial, .client, .arm, .disarm, .upstream, .plugin]

/-- A layer role adds these effects to the plain ones. -/
abbrev layeredEffects : List Effect := [.output .plugin, .surface .assigned] ++ plainEffects

/-- A surface gets an object of a kind when only its pointer to the object changes. -/
structure Points (kind : ObjectKind) (resource : ResourceId) (change : ForwardSurface → ForwardSurface) : Prop where
  pointer : ∀ surface, kind.pointer (change surface) = some resource
  others : ∀ surface other, other ≠ kind → other.pointer (change surface) = other.pointer surface
  callbacks : ∀ surface, (change surface).frameCallbacks = surface.frameCallbacks
  kept : ∀ surface, SurfaceGroup.objects.mask (change surface) = SurfaceGroup.objects.mask surface

/-- A surface gets a new object of a kind among plain changes. -/
def Extended (client : WlClientId) (kind : ObjectKind) (id : SurfaceId) (first last : Scene) : Prop :=
  ∃ middle change, Changes plainEffects first middle ∧ Points kind middle.resources.next change ∧
    Changes plainEffects ((middle.createResource client (kind.role (some id))).1.setForward id change) last

/-- A connection gets a resource that is no object of a surface and no frame callback among the listed changes. -/
def Allotted (effects : List Effect) (client : WlClientId) (first last : Scene) : Prop :=
  ∃ middle role, Changes effects first middle ∧ role ≠ .frameCallback ∧
    (∀ kind user, role ≠ ObjectKind.role kind user) ∧
    Changes effects (middle.createResource client role).1 last

/-- A surface without an output gets the layer role on an output without a surface, among plain changes. -/
def Layered (client : WlClientId) (id : SurfaceId) (first last : Scene) : Prop :=
  ∃ output target surface taken serial, first.outputs.cell output = some target ∧ target.pluginSurface = none ∧
    first.forwardSurfaces.cell id = some surface ∧ surface.swaySurface = none ∧
    Changes plainEffects (assumeRole first id output) taken ∧
    Changes plainEffects ((taken.createResource client (.layerSurface output)).1.setForward id
      (acceptRole serial taken.resources.next)) last

theorem Layered.allotted {client : WlClientId} {id : SurfaceId} {first last : Scene}
    (layered : Layered client id first last) : Allotted layeredEffects client first last := by
  obtain ⟨output, target, surface, taken, serial, _, _, _, _, before, after⟩ := layered
  have assumed : Changes layeredEffects first (assumeRole first id output) := by
    refine Changes.trans ?_ (.setForward .assigned _ id (fun _ => rfl) (by simp))
    exact .setOutput .plugin first output (fun _ => rfl) (by simp)
  have accepted : Changes layeredEffects (taken.createResource client (.layerSurface output)).1
      ((taken.createResource client (.layerSurface output)).1.setForward id (acceptRole serial taken.resources.next)) :=
    .setForward .assigned _ id (fun _ => rfl) (by simp)
  refine ⟨taken, .layerSurface output, assumed.trans (before.widen (by simp)), nofun, fun kind user => ?_,
    accepted.trans (after.widen (by simp))⟩
  cases kind <;> exact nofun

theorem Allotted.changes {effects : List Effect} {client : WlClientId} {first last : Scene}
    (allotted : Allotted effects client first last) : Changes (effects ++ [.resource]) first last := by
  obtain ⟨middle, role, before, _, _, after⟩ := allotted
  have created : Changes [.resource] middle (middle.createResource client role).1 :=
    .createResource middle client role (by simp)
  exact ((before.widen (by simp +contextual)).trans (created.widen (by simp))).trans (after.widen (by simp +contextual))

theorem Extended.changes {client : WlClientId} {kind : ObjectKind} {id : SurfaceId} {first last : Scene}
    (extended : Extended client kind id first last) :
    Changes (plainEffects ++ [.resource, .surface .objects]) first last := by
  obtain ⟨middle, change, before, points, after⟩ := extended
  have created : Changes [.resource, .surface .objects] middle (middle.createResource client (kind.role (some id))).1 :=
    .createResource middle client _ (by simp)
  have pointed := created.trans (.setForward .objects _ id points.kept (by simp))
  exact ((before.widen (by simp)).trans (pointed.widen (by simp))).trans (after.widen (by simp))

theorem Allotted.bound (scene : Scene) (client : WlClientId) (output : OutputId) :
    Allotted plainEffects client scene (scene.createResource client (.output output)).1 := by
  refine ⟨scene, .output output, .refl scene, nofun, fun kind user => ?_, .refl _⟩
  cases kind <;> exact nofun

theorem compositorCreateSurface_changes (scene : Scene) (client : WlClientId) (version : Nat) :
    Changes [.createSurface] scene (compositorCreateSurface scene client version) :=
  .single (.createSurface client version) (by simp)

theorem createForwardBuffer_changes (scene : Scene) (client : WlClientId) (width height : Int32) :
    Changes [.buffer] scene (createForwardBuffer scene client width height) :=
  .single (.buffers _) (by simp)

/-- A request asks for an object of a surface. -/
def Request.asks : Request → Option (SurfaceId × ObjectKind)
  | .surface id .getViewport => some (id, .viewport)
  | .surface id .getFractionalScale => some (id, .fractionalScale)
  | .surface id .getColorSurface => some (id, .colorSurface)
  | .surface id .getColorRepresentation => some (id, .colorRepresentation)
  | .surface id (.getSubsurface _) => some (id, .subsurface)
  | _ => none

/-- A request of a plugin takes one of these steps. -/
inductive RequestStep (scene : Scene) (client : WlClientId) : Request → Scene → Prop
  | plain {request : Request} {next : Scene} (changes : Changes plainEffects scene next) :
      RequestStep scene client request next
  | bound {output : OutputId} (present : (scene.outputs.cell output).isSome = true) :
      RequestStep scene client (.bindOutput output) (scene.createResource client (.output output)).1
  | layered {id : SurfaceId} {resource : Option ResourceId} {next : Scene} (layered : Layered client id scene next) :
      RequestStep scene client (.surface id (.getLayerSurface resource)) next
  | surface (version : Nat) :
      RequestStep scene client (.createSurface version) (compositorCreateSurface scene client version)
  | buffer (width height : Int32) :
      RequestStep scene client (.createBuffer width height) (createForwardBuffer scene client width height)
  | attached {id : SurfaceId} {buffer : Option BufferId} {next : Scene} (owned : ownsSurface scene client id = true)
      (allowed : ∀ name, buffer = some name → ownsBuffer scene client name = true)
      (handled : nestedSurfaceAttach scene id buffer = .ok next) :
      RequestStep scene client (.surface id (.attach buffer)) next
  | framed (id : SurfaceId) : RequestStep scene client (.surface id .frame) (nestedSurfaceFrame scene client id)
  | committed {id : SurfaceId} {next : Scene} {outcome : CommitOutcome} (owned : ownsSurface scene client id = true)
      (handled : nestedSurfaceCommit scene id = .ok (next, outcome)) :
      RequestStep scene client (.surface id .commit) next
  | parented {child parent : SurfaceId} {next : Scene} (owned : ownsSurface scene client child = true)
      (also : ownsSurface scene client parent = true)
      (handled : subcompositorGetSubsurface scene client child parent = .ok next) :
      RequestStep scene client (.surface child (.getSubsurface parent)) next
  | extended {request : Request} {next : Scene} {id : SurfaceId} {kind : ObjectKind} (other : kind ≠ .subsurface)
      (extended : Extended client kind id scene next) (asks : request.asks = some (id, kind)) :
      RequestStep scene client request next
  | placedAbove {id : ResourceId} {user : Option SurfaceId} {sibling : SurfaceId} {next : Scene}
      (role : ownedRole scene client id = some (.subsurface user)) (owned : ownsSurface scene client sibling = true)
      (handled : nestedSubsurfacePlaceAbove scene client user sibling = .ok next) :
      RequestStep scene client (.object id (.placeAbove sibling)) next
  | placedBelow {id : ResourceId} {user : Option SurfaceId} {sibling : SurfaceId} {next : Scene}
      (role : ownedRole scene client id = some (.subsurface user)) (owned : ownsSurface scene client sibling = true)
      (handled : nestedSubsurfacePlaceBelow scene client user sibling = .ok next) :
      RequestStep scene client (.object id (.placeBelow sibling)) next
  | destroyed {request : Request} {middle next : Scene} {owned : Owned}
      (listed : requestedObjects scene client request = [owned]) (before : Changes [.desc, .surface .content] scene middle)
      (handled : destroyOwned middle owned = .ok next) : RequestStep scene client request next

variable {scene : Scene} {client : WlClientId}

theorem RequestStep.ofChanges {request : Request} {effects : List Effect} {computation : Handled Scene}
    (changes : Ensures computation (Changes effects scene)) (listed : ∀ effect ∈ effects, effect ∈ plainEffects) :
    Ensures computation (RequestStep scene client request) :=
  changes.weaken fun _ changed => .plain (changed.widen listed)

theorem invalidObject_step (request : Request) : RequestStep scene client request (invalidObject scene client) :=
  .plain (.postError scene client _ (by simp))

theorem linkLayerSurface_layered {id : SurfaceId} {output : OutputId} {target : SwaylockSurface}
    {surface : ForwardSurface} (there : scene.outputs.cell output = some target) (free : target.pluginSurface = none)
    (present : scene.forwardSurfaces.cell id = some surface) (apart : surface.swaySurface = none) :
    Ensures (linkLayerSurface scene client id output) (Layered client id scene) := by
  refine .read fun record _ => .read fun bgClient _ => .read fun entry _ => .check fun _ => ?_
  refine (takeSerial_changes _).bind fun taken serial => .pure ?_
  exact ⟨output, target, surface, taken.1, taken.2, there, free, present, apart, serial.widen (by simp), .refl _⟩

theorem wlrLayerShellGetLayerSurface_layered (id : SurfaceId) (output : Option OutputId) :
    Ensures (wlrLayerShellGetLayerSurface scene client id output) fun next =>
      Changes plainEffects scene next ∨ Layered client id scene next := by
  unfold wlrLayerShellGetLayerSurface
  split
  · exact .pure (.inl (.refl scene))
  · rename_i output _
    refine .read fun target there => .read fun surface present => ?_
    split
    · exact .pure (.inl (.postError scene client _ (by simp)))
    · rename_i alone
      simp only [Bool.or_eq_true, Option.isSome_iff_ne_none, ne_eq, not_or, not_not] at alone
      refine (linkLayerSurface_layered there alone.1 present alone.2).bind fun linked layered => ?_
      split
      · refine (announceScale_changes id _).weaken fun last told => .inr ?_
        obtain ⟨name, target, surface, taken, serial, there, free, present, apart, before, after⟩ := layered
        exact ⟨name, target, surface, taken, serial, there, free, present, apart, before,
          after.trans (told.widen (by simp))⟩
      · exact .pure (.inr layered)

theorem getLayerSurface_layered (id : SurfaceId) (resource : Option ResourceId) :
    Ensures (getLayerSurface scene client id resource) fun next =>
      Changes plainEffects scene next ∨ Layered client id scene next := by
  unfold getLayerSurface
  split
  · exact wlrLayerShellGetLayerSurface_layered id none
  · split
    · exact wlrLayerShellGetLayerSurface_layered id _
    · exact .pure (.inl (.postError scene client _ (by simp)))

theorem getLayerSurface_step (id : SurfaceId) (resource : Option ResourceId) :
    Ensures (getLayerSurface scene client id resource)
      (RequestStep scene client (.surface id (.getLayerSurface resource))) :=
  (getLayerSurface_layered id resource).weaken fun _ ends => ends.elim .plain .layered

theorem getExtension_extended (kind : ObjectKind) (id : SurfaceId) (current : ForwardSurface → Option ResourceId)
    {keep : ResourceId → ForwardSurface → ForwardSurface} (points : ∀ resource, Points kind resource (keep resource)) :
    Ensures (getExtension scene client id (kind.role (some id)) current keep) (Extended client kind id scene) := by
  refine .read fun surface _ => .pure ⟨_, _, ?_, points _, .refl _⟩
  split
  · exact .postError scene client _ (by simp)
  · exact .refl scene

theorem nestedViewporterGetViewport_extended (id : SurfaceId) :
    Ensures (nestedViewporterGetViewport scene client id) (Extended client .viewport id scene) := by
  refine getExtension_extended .viewport id (·.viewport) fun resource => ⟨fun _ => rfl, ?_, fun _ => rfl, fun _ => rfl⟩
  intro surface other apart
  cases other with
  | viewport => exact absurd rfl apart
  | _ => rfl

theorem nestedFractionalScaleManagerGetFractionalScale_extended (id : SurfaceId) :
    Ensures (nestedFractionalScaleManagerGetFractionalScale scene client id)
      (Extended client .fractionalScale id scene) := by
  refine .via (Extended client .fractionalScale id scene) ?_ fun got extended => ?_
  · refine getExtension_extended .fractionalScale id (·.fractionalScale) fun resource =>
      ⟨fun _ => rfl, ?_, fun _ => rfl, fun _ => rfl⟩
    intro surface other apart
    cases other with
    | fractionalScale => exact absurd rfl apart
    | _ => rfl
  · refine .read fun surface _ => (announceScale_changes id _).weaken fun last told => ?_
    obtain ⟨middle, change, before, points, after⟩ := extended
    exact ⟨middle, change, before, points, after.trans (told.widen (by simp))⟩

theorem nestedColorGetSurface_extended (id : SurfaceId) :
    Ensures (nestedColorGetSurface scene client id) (Extended client .colorSurface id scene) := by
  refine getExtension_extended .colorSurface id (·.colorSurface) fun resource =>
    ⟨fun _ => rfl, ?_, fun _ => rfl, fun _ => rfl⟩
  intro surface other apart
  cases other with
  | colorSurface => exact absurd rfl apart
  | _ => rfl

theorem nestedColorRepGetSurface_extended (id : SurfaceId) :
    Ensures (nestedColorRepGetSurface scene client id) (Extended client .colorRepresentation id scene) := by
  refine getExtension_extended .colorRepresentation id (·.colorRepresentation) fun resource =>
    ⟨fun _ => rfl, ?_, fun _ => rfl, fun _ => rfl⟩
  intro surface other apart
  cases other with
  | colorRepresentation => exact absurd rfl apart
  | _ => rfl

theorem handleSurface_step (id : SurfaceId) (call : SurfaceCall) (owned : ownsSurface scene client id = true) :
    Ensures (handleSurface scene client id call) (RequestStep scene client (.surface id call)) := by
  cases call with
  | destroy =>
      have listed : requestedObjects scene client (.surface id .destroy) = [.surface id] := if_pos owned
      exact fun next handled => .destroyed listed (.refl scene) handled
  | attach buffer =>
      cases buffer with
      | none => exact fun next handled => .attached owned nofun handled
      | some buffer =>
          simp only [handleSurface, attachOwned]
          split
          · rename_i allowed
            refine fun next handled => .attached owned (fun name same => ?_) handled
            rw [← Option.some.inj same]
            exact allowed
          · exact .pure (invalidObject_step _)
  | damage record => exact .pure (.plain ((nestedSurfaceDamage_changes id record).widen (by simp)))
  | damageBuffer record => exact .pure (.plain ((nestedSurfaceDamageBuffer_changes id record).widen (by simp)))
  | frame => exact .pure (.framed id)
  | commit =>
      refine Ensures.via (fun result => nestedSurfaceCommit scene id = .ok result) (fun _ handled => handled) ?_
      exact fun result handled => .pure (.committed owned handled)
  | setBufferTransform transform => exact .pure (.plain (.setSize scene id (fun _ => rfl) (by simp)))
  | setBufferScale scale => exact .pure (.plain (.setSize scene id (fun _ => rfl) (by simp)))
  | getSubsurface parent =>
      simp only [handleSurface]
      split
      · rename_i also
        exact fun next handled => .parented owned also handled
      · exact .pure (invalidObject_step _)
  | getViewport => exact (nestedViewporterGetViewport_extended id).weaken fun _ made => .extended (by decide) made rfl
  | getFractionalScale =>
      refine (nestedFractionalScaleManagerGetFractionalScale_extended id).weaken fun _ made => ?_
      exact .extended (by decide) made rfl
  | getColorSurface => exact (nestedColorGetSurface_extended id).weaken fun _ made => .extended (by decide) made rfl
  | getColorRepresentation =>
      exact (nestedColorRepGetSurface_extended id).weaken fun _ made => .extended (by decide) made rfl
  | getLayerSurface resource => exact getLayerSurface_step id resource

theorem destroyResourceObject_step {id : ResourceId} {role : Role} (owned : ownedRole scene client id = some role)
    (layer : ∀ output, role ≠ .layerSurface output) (callback : role ≠ .frameCallback) {middle : Scene}
    (before : Changes [.desc, .surface .content] scene middle) :
    Ensures (destroyResourceObject middle id) (RequestStep scene client (.object id .destroy)) := by
  have listed : requestedObjects scene client (.object id .destroy) = [.resource id] := by
    simp only [requestedObjects, owned]
  exact fun next handled => .destroyed listed before handled

theorem handleObject_step (id : ResourceId) (call : ObjectCall) {role : Role}
    (owned : ownedRole scene client id = some role) :
    Ensures (handleObject scene client id call role) (RequestStep scene client (.object id call)) := by
  have wrong : Ensures (pure (invalidObject scene client) : Handled Scene)
      (RequestStep scene client (.object id call)) := .pure (invalidObject_step _)
  have moved {user : Option SurfaceId} {change : SubsurfaceEntry → SubsurfaceEntry}
      (kept : ∀ entry, (change entry).link = entry.link) :
      Ensures (withSubsurface scene user fun id _ _ => return setPendingEntry scene id change)
        (RequestStep scene client (.object id call)) :=
    .ofChanges (setPendingEntry_changes user kept) (by simp)
  cases role with
  | viewport user =>
      cases call with
      | destroy => exact destroyResourceObject_step owned nofun nofun (.refl scene)
      | setSource x y width height =>
          exact .ofChanges (nestedViewportSetSource_changes client user x y width height) (by simp)
      | setDestination width height =>
          exact .ofChanges (nestedViewportSetDestination_changes client user width height) (by simp)
      | _ => exact wrong
  | fractionalScale user =>
      cases call with
      | destroy => exact destroyResourceObject_step owned nofun nofun (.refl scene)
      | _ => exact wrong
  | colorSurface user =>
      cases call with
      | destroy =>
          refine (nestedColorSurfaceUnsetImageDesc_changes user).bind fun unset changed => ?_
          exact destroyResourceObject_step owned nofun nofun changed
      | setImageDescription desc intent =>
          change Ensures (if ownsImageDesc scene client desc then nestedColorSurfaceSetImageDesc scene desc intent user
            else pure (invalidObject scene client)) _
          split
          · exact .ofChanges (nestedColorSurfaceSetImageDesc_changes desc intent user) (by simp)
          · exact wrong
      | unsetImageDescription => exact .ofChanges (nestedColorSurfaceUnsetImageDesc_changes user) (by simp)
      | _ => exact wrong
  | colorRepresentation user =>
      cases call with
      | destroy => exact destroyResourceObject_step owned nofun nofun (.refl scene)
      | setAlphaMode mode =>
          refine .ofChanges (setColorRepresentation_changes ?_ user) (by simp)
          exact fun _ => rfl
      | setCoefficientsAndRange coefficients range =>
          refine .ofChanges (setColorRepresentation_changes ?_ user) (by simp)
          exact fun _ => rfl
      | setChromaLocation location =>
          refine .ofChanges (setColorRepresentation_changes ?_ user) (by simp)
          exact fun _ => rfl
      | _ => exact wrong
  | subsurface user =>
      cases call with
      | destroy => exact destroyResourceObject_step owned nofun nofun (.refl scene)
      | setPosition x y => exact moved fun _ => rfl
      | setSync => exact moved fun _ => rfl
      | setDesync => exact moved fun _ => rfl
      | placeAbove sibling =>
          change Ensures (if ownsSurface scene client sibling then nestedSubsurfacePlaceAbove scene client user sibling
            else pure (invalidObject scene client)) _
          split
          · rename_i also
            exact fun next handled => .placedAbove owned also handled
          · exact wrong
      | placeBelow sibling =>
          change Ensures (if ownsSurface scene client sibling then nestedSubsurfacePlaceBelow scene client user sibling
            else pure (invalidObject scene client)) _
          split
          · rename_i also
            exact fun next handled => .placedBelow owned also handled
          · exact wrong
      | _ => exact wrong
  | layerSurface output =>
      cases call with
      | destroy => exact .pure (.plain (.refl scene))
      | ackConfigure serial => exact .ofChanges (zwlrLayerSurfaceAckConfigure_changes client output serial) (by simp)
      | _ => exact wrong
  | output output =>
      cases call with
      | destroy => exact destroyResourceObject_step owned nofun nofun (.refl scene)
      | _ => exact wrong
  | frameCallback => exact wrong

theorem handleRequest_step (client : WlClientId) (request : Request) :
    Ensures (handleRequest scene client request) (RequestStep scene client request) := by
  cases request with
  | getRegistry => exact .ofChanges (clientResourceCreate_changes client) (by simp)
  | bindOutput output => exact .read fun record present => .pure (.bound (by rw [present]; rfl))
  | createSurface version => exact .pure (.surface version)
  | createBuffer width height => exact .pure (.buffer width height)
  | createImageDesc => exact .pure (.plain (.single (.descs _ _) (by simp)))
  | createOutputImageDesc description => exact .pure (.plain (.single (.descs _ scene.nextDescription) (by simp)))
  | destroyBuffer buffer =>
      simp only [handleRequest]
      split
      · rename_i owned
        have listed : requestedObjects scene client (.destroyBuffer buffer) = [.buffer buffer] := if_pos owned
        exact fun next handled => .destroyed listed (.refl scene) handled
      · exact .pure (invalidObject_step _)
  | destroyImageDesc desc =>
      simp only [handleRequest]
      split
      · rename_i owned
        have listed : requestedObjects scene client (.destroyImageDesc desc) = [.imageDesc desc] := if_pos owned
        exact fun next handled => .destroyed listed (.refl scene) handled
      · exact .pure (invalidObject_step _)
  | surface id call =>
      simp only [handleRequest]
      split
      · rename_i owned
        exact handleSurface_step id call owned
      · exact .pure (invalidObject_step _)
  | object id call =>
      simp only [handleRequest]
      split
      · rename_i role owned
        exact handleObject_step id call owned
      · exact .pure (invalidObject_step _)

end SwaylockPlugin
