import SwaylockPlugin.Proof.Callbacks
import SwaylockPlugin.Proof.Limits
import SwaylockPlugin.Proof.Presents

namespace SwaylockPlugin

open Library

/-- A plugin surface keeps its state in a pending and in a committed record. -/
inductive StateRecord where
  | pending
  | committed
  deriving DecidableEq

/-- A record of a surface is one of its states. -/
def StateRecord.state (surface : ForwardSurface) : StateRecord → SurfaceState
  | pending => surface.pending
  | committed => surface.committed

/-- A look has nothing set when it is the default one. -/
abbrev Look.unset : Look := defaultSurfaceState.look

/-- An extension object controls a part of a look and leaves everything else at its default. -/
def Look.controlled (look : Look) : ObjectKind → Look
  | .viewport =>
      { Look.unset with
        viewportSourceX := look.viewportSourceX
        viewportSourceY := look.viewportSourceY
        viewportSourceW := look.viewportSourceW
        viewportSourceH := look.viewportSourceH
        viewportDestWidth := look.viewportDestWidth
        viewportDestHeight := look.viewportDestHeight }
  | .colorSurface =>
      { Look.unset with
        imageDesc := look.imageDesc
        renderIntent := look.renderIntent }
  | .colorRepresentation =>
      { Look.unset with
        hasAlphaMode := look.hasAlphaMode
        alphaMode := look.alphaMode
        hasCoefRange := look.hasCoefRange
        coefficients := look.coefficients
        range := look.range
        hasChromaLocation := look.hasChromaLocation
        chromaLocation := look.chromaLocation }
  | .fractionalScale => Look.unset
  | .subsurface => Look.unset

/-- A part of a surface is what an object of a kind controls in one of its records. -/
def ForwardSurface.part (surface : ForwardSurface) (record : StateRecord) (kind : ObjectKind) : Look :=
  (record.state surface).look.controlled kind

/-- The looks of a surface are the pending and the committed one. -/
def ForwardSurface.looks (surface : ForwardSurface) : Look × Look :=
  (surface.pending.look, surface.committed.look)

theorem ForwardSurface.part_of_looks {one two : ForwardSurface} (same : one.looks = two.looks) (record : StateRecord)
    (kind : ObjectKind) : one.part record kind = two.part record kind := by
  obtain ⟨pending, committed⟩ := Prod.mk.inj same
  cases record with
  | pending => exact congrArg (Look.controlled · kind) pending
  | committed => exact congrArg (Look.controlled · kind) committed

theorem SurfaceGroup.mask_looks (group : SurfaceGroup) (size : group ≠ .size) (content : group ≠ .content)
    (surface : ForwardSurface) : (group.mask surface).looks = surface.looks := by
  cases group <;> first | rfl | exact absurd rfl size | exact absurd rfl content

/-- Each part of a surface that is not changed is unset or was there before. -/
def Retains (changed : SurfaceId → StateRecord → ObjectKind → Prop) (first last : Scene) : Prop :=
  ∀ id after, last.forwardSurfaces.cell id = some after → ∀ record kind, ¬ changed id record kind →
    after.part record kind = .unset ∨
      ∃ before, first.forwardSurfaces.cell id = some before ∧ after.part record kind = before.part record kind

/-- No part of a surface is changed. -/
abbrev Unchanged : SurfaceId → StateRecord → ObjectKind → Prop := fun _ _ _ => False

namespace Retains

variable {changed : SurfaceId → StateRecord → ObjectKind → Prop} {first second third scene : Scene}

theorem same (surfaces : second.forwardSurfaces = first.forwardSurfaces) : Retains changed first second :=
  fun _ after present _ _ _ => .inr ⟨after, surfaces ▸ present, rfl⟩

theorem trans (one : Retains changed first second) (two : Retains changed second third) :
    Retains changed first third := by
  intro id after present record kind kept
  rcases two id after present record kind kept with unset | ⟨middle, there, same⟩
  · exact .inl unset
  · rw [same]
    exact one id middle there record kind kept

theorem widen (kept : Retains Unchanged first second) : Retains changed first second :=
  fun id after present record kind _ => kept id after present record kind not_false

theorem setForward (scene : Scene) (id : SurfaceId) {change : ForwardSurface → ForwardSurface}
    (kept : ∀ surface record kind, ¬ changed id record kind → (change surface).part record kind = .unset ∨
      (change surface).part record kind = surface.part record kind) :
    Retains changed scene (scene.setForward id change) := by
  intro other after present record kind apart
  obtain ⟨before, there, ⟨rfl, rfl⟩ | ⟨_, rfl⟩⟩ := scene.forwardSurfaces.old_of_modify present
  · exact (kept before record kind apart).imp_right fun same => ⟨before, there, same⟩
  · exact .inr ⟨after, there, rfl⟩

theorem alike (scene : Scene) (id : SurfaceId) {change : ForwardSurface → ForwardSurface}
    (kept : ∀ surface, (change surface).looks = surface.looks) : Retains changed scene (scene.setForward id change) :=
  setForward scene id fun surface record kind _ => .inr (ForwardSurface.part_of_looks (kept surface) record kind)

theorem of_changes {effects : List Effect} (changes : Changes effects first second)
    (apart : ∀ effect ∈ effects, effect ∉ [Effect.surface .size, .surface .content]) :
    Retains changed first second := by
  intro id after present record kind _
  have seen (group : SurfaceGroup) (listed : Effect.surface group ∈ effects) (surface : ForwardSurface) :
      (group.mask surface).looks = surface.looks := by
    refine group.mask_looks ?_ ?_ surface <;> rintro rfl <;> exact apart _ listed (by simp)
  rcases changes.viewed ForwardSurface.looks seen present with ⟨client, version, fresh⟩ | ⟨before, there, same⟩
  · rw [ForwardSurface.part_of_looks fresh]
    cases record <;> cases kind <;> exact .inl rfl
  · exact .inr ⟨before, there, ForwardSurface.part_of_looks same record kind⟩

theorem covered {effects : List Effect} {computation : Handled Scene}
    (changes : Ensures computation (Changes effects scene))
    (apart : ∀ effect ∈ effects, effect ∉ [Effect.surface .size, .surface .content]) :
    Ensures computation (Retains changed scene) :=
  changes.weaken fun _ changes => of_changes changes apart

theorem andThen {rest : Handled Scene} (start : Retains changed first second)
    (after : Ensures rest (Retains changed second)) : Ensures rest (Retains changed first) :=
  after.weaken fun _ kept => start.trans kept

theorem runDestroyHandler (id : ResourceId) (role : Role) :
    Ensures (runDestroyHandler scene id role) (Retains changed scene) := by
  cases role with
  | viewport user => exact covered (viewportHandleResourceDestroy_changes user) (by simp)
  | fractionalScale user => exact covered (fractionalScaleHandleResourceDestroy_changes user) (by simp)
  | colorSurface user => exact covered (colorSurfaceHandleResourceDestroy_changes id user) (by simp)
  | colorRepresentation user =>
      cases user with
      | none => exact .pure (same rfl)
      | some surface =>
          refine .read fun _ _ => .check fun _ => .pure (setForward scene surface fun before record kind _ => ?_)
          cases record with
          | pending => cases kind <;> first | exact .inl rfl | exact .inr rfl
          | committed => exact .inr rfl
  | subsurface user =>
      cases user with
      | none => exact .pure (same rfl)
      | some surface => exact covered (destroySubsurfaceParts_changes surface) (by simp)
  | layerSurface output => exact .pure (same rfl)
  | output output => exact .pure (same rfl)
  | frameCallback => exact .pure (of_changes (frameCallbackHandleResourceDestroy_changes id) (by simp))

theorem destroyResourceObject (id : ResourceId) :
    Ensures (destroyResourceObject scene id) (Retains changed scene) :=
  .read fun resource _ => .via (Retains changed scene) (runDestroyHandler id resource.role) fun _ kept =>
    .pure (kept.trans (same rfl))

theorem destroyed (owned : Owned) : Ensures (destroyOwned scene owned) (Retains changed scene) := by
  cases owned with
  | surface id =>
      refine (surfaceHandleResourceDestroy_parts id).weaken fun last parts => ?_
      obtain ⟨surface, hidden, released, detached, undescribed, cleared, parted, destroys⟩ := parts
      have left : Retains changed scene undescribed := of_changes destroys.leaves (by simp)
      have objects : Retains changed undescribed cleared := of_changes destroys.clears (by simp)
      have tree : Retains changed cleared parted :=
        of_changes (destroySubsurfaceParts_changes id parted destroys.tree) (by simp)
      exact ((left.trans objects).trans tree).trans (of_changes destroys.frees (by simp))
  | buffer id => exact covered (bufferHandleResourceDestroy_changes id) (by simp)
  | imageDesc id => exact covered (imageDescHandleResourceDestroy_changes id) (by simp)
  | resource id => exact destroyResourceObject id

/-- What a first part changes stays the only change through time, idle effects and destroyed objects. -/
theorem robust (changed : SurfaceId → StateRecord → ObjectKind → Prop) (first : Scene) :
    Robust (Retains changed first) where
  ticks _ _ kept := kept.trans (same rfl)
  retimed _ _ timed kept := by
    obtain ⟨_, _, _, rfl⟩ := timed
    exact kept.trans (same rfl)
  changes _ _ changes kept := kept.trans (of_changes changes (by simp))
  destroyed _ owned kept := kept.andThen (destroyed owned)

theorem closed (id : Option SurfaceId) : Ensures (closePluginSurface scene id) (Retains changed scene) := by
  cases id with
  | none => exact .pure (same rfl)
  | some id =>
      have told : Retains changed scene (scene.tell (.plugin (.closed id))) := same rfl
      exact .read fun _ _ => .pure (told.trans (alike _ id fun _ => rfl))

end Retains

/-- An object of three kinds controls a part of its surface. -/
def Role.controls : Role → Option (SurfaceId × ObjectKind)
  | .viewport user => user.map (·, .viewport)
  | .colorSurface user => user.map (·, .colorSurface)
  | .colorRepresentation user => user.map (·, .colorRepresentation)
  | _ => none

/-- A setter acts on an object of its own kind where its values are accepted. -/
def ObjectCall.sets (scene : Scene) (client : WlClientId) : ObjectCall → Role → Bool
  | .setSource x y width height, .viewport _ => sourceAccepted x y width height
  | .setDestination width height, .viewport _ => destinationAccepted width height
  | .setImageDescription desc _, .colorSurface _ => ownsImageDesc scene client desc
  | .setAlphaMode _, .colorRepresentation _ => true
  | .setCoefficientsAndRange _ _, .colorRepresentation _ => true
  | .setChromaLocation _, .colorRepresentation _ => true
  | _, _ => false

/-- A setter that acts sets the part that its object controls. -/
def ObjectCall.part (scene : Scene) (client : WlClientId) (call : ObjectCall) (role : Role) :
    Option (SurfaceId × ObjectKind) :=
  if call.sets scene client role then role.controls else none

/-- A request sets a part of a surface. -/
def setPart (scene : Scene) (client : WlClientId) : Request → Option (SurfaceId × ObjectKind)
  | .object id call => (ownedRole scene client id).bind (call.part scene client)
  | _ => none

/-- A destroy request ends the object that controls a part of a surface. -/
def endedPart (scene : Scene) (client : WlClientId) : Request → Option (SurfaceId × ObjectKind)
  | .object id .destroy => (ownedRole scene client id).bind Role.controls
  | _ => none

/-- A commit works on a surface of the plugin. -/
def committedSurface (scene : Scene) (client : WlClientId) : Request → Option SurfaceId
  | .surface id .commit => if ownsSurface scene client id then some id else none
  | _ => none

/-- A pending part that is set and the committed parts of a surface are altered. -/
def Alters (part : Option (SurfaceId × ObjectKind)) (surface : Option SurfaceId) (id : SurfaceId) :
    StateRecord → ObjectKind → Prop
  | .pending, kind => part = some (id, kind)
  | .committed, _ => surface = some id

section Requests

variable {scene : Scene} {surface : Option SurfaceId}

theorem setPending_retains (scene : Scene) (id : SurfaceId) (kind : ObjectKind) {change : SurfaceState → SurfaceState}
    (kept : ∀ pending other, other ≠ kind →
      (change pending).look.controlled other = pending.look.controlled other) :
    Retains (Alters (some (id, kind)) surface) scene (scene.setPending id change) := by
  intro other after present record part apart
  obtain ⟨before, there, ⟨rfl, rfl⟩ | ⟨_, rfl⟩⟩ := scene.forwardSurfaces.old_of_modify present
  · refine .inr ⟨before, there, ?_⟩
    cases record with
    | pending =>
        refine kept before.pending part fun same => apart ?_
        rw [same]
        exact rfl
    | committed => rfl
  · exact .inr ⟨after, there, rfl⟩

theorem setViewport_retains (user : Option SurfaceId) {change : SurfaceState → SurfaceState}
    (kept : ∀ pending other, other ≠ .viewport →
      (change pending).look.controlled other = pending.look.controlled other) :
    Ensures (do let id ← userSurface user; let _ ← scene.forward id; return scene.setPending id change)
      (Retains (Alters (user.map (·, .viewport)) surface) scene) := by
  cases user with
  | none => exact .throw
  | some id =>
      refine .read fun found named => .read fun _ _ => ?_
      cases named
      exact .pure (setPending_retains scene id .viewport kept)

theorem setColorRepresentation_retains (user : Option SurfaceId) {change : SurfaceState → SurfaceState}
    (kept : ∀ pending other, other ≠ .colorRepresentation →
      (change pending).look.controlled other = pending.look.controlled other) :
    Ensures (setColorRepresentation scene change user)
      (Retains (Alters (user.map (·, .colorRepresentation)) surface) scene) := by
  cases user with
  | none => exact .pure (.same rfl)
  | some id => exact .read fun _ _ => .pure (setPending_retains scene id .colorRepresentation kept)

theorem handleViewport_retains (client : WlClientId) (id : ResourceId) (user : Option SurfaceId) (call : ObjectCall) :
    Ensures (handleViewport scene client id user call)
      (Retains (Alters (call.part scene client (.viewport user)) surface) scene) := by
  have invalid {changed : SurfaceId → StateRecord → ObjectKind → Prop} {error : PluginError} :
      Retains changed scene (scene.postError client error) := .same rfl
  cases call with
  | destroy => exact Retains.destroyResourceObject id
  | setSource x y width height =>
      unfold handleViewport nestedViewportSetSource
      dsimp only
      split
      · exact .pure invalid
      · rename_i accepted
        have sets : sourceAccepted x y width height = true := congrArg Bool.not ((Bool.not_eq_true _).mp accepted)
        have part : ObjectCall.part scene client (.setSource x y width height) (.viewport user) =
            user.map (·, .viewport) := if_pos sets
        rw [part]
        refine setViewport_retains user fun pending other apart => ?_
        cases other <;> first | rfl | exact absurd rfl apart
  | setDestination width height =>
      unfold handleViewport nestedViewportSetDestination
      dsimp only
      split
      · exact .pure invalid
      · rename_i accepted
        have sets : destinationAccepted width height = true := congrArg Bool.not ((Bool.not_eq_true _).mp accepted)
        have part : ObjectCall.part scene client (.setDestination width height) (.viewport user) =
            user.map (·, .viewport) := if_pos sets
        rw [part]
        refine setViewport_retains user fun pending other apart => ?_
        cases other <;> first | rfl | exact absurd rfl apart
  | _ => exact .pure invalid

theorem nestedColorSurfaceSetImageDesc_retains (desc : DescId) (intent : UInt32) (user : Option SurfaceId) :
    Ensures (nestedColorSurfaceSetImageDesc scene desc intent user)
      (Retains (Alters (user.map (·, .colorSurface)) surface) scene) := by
  cases user with
  | none => exact .pure (.same rfl)
  | some id =>
      refine .read fun current _ => .via (Retains Unchanged scene) ?_ fun dropped kept => ?_
      · exact Retains.covered (unlinkDesc_changes _ current.pending.imageDesc) (by simp)
      · have set : Retains (Alters (some (id, .colorSurface)) surface) dropped (dropped.setPending id fun pending =>
            { pending with renderIntent := intent, imageDesc := some desc }) := by
          refine setPending_retains dropped id .colorSurface fun pending other apart => ?_
          cases other <;> first | rfl | exact absurd rfl apart
        exact (kept.widen.trans set).andThen (.covered (changeImageDesc_changes desc _) (by simp))

theorem nestedColorSurfaceUnsetImageDesc_retains {changed : SurfaceId → StateRecord → ObjectKind → Prop}
    (user : Option SurfaceId) : Ensures (nestedColorSurfaceUnsetImageDesc scene user) (Retains changed scene) := by
  cases user with
  | none => exact .pure (.same rfl)
  | some id =>
      refine .read fun current _ => .via (Retains changed scene) ?_ fun dropped kept => .pure (kept.trans ?_)
      · exact Retains.covered (unlinkDesc_changes _ current.pending.imageDesc) (by simp)
      · refine Retains.setForward dropped id fun before record kind _ => ?_
        cases record with
        | pending => cases kind <;> first | exact .inl rfl | exact .inr rfl
        | committed => exact .inr rfl

theorem handleColorSurface_retains (client : WlClientId) (id : ResourceId) (user : Option SurfaceId)
    (call : ObjectCall) : Ensures (handleColorSurface scene client id user call)
      (Retains (Alters (call.part scene client (.colorSurface user)) surface) scene) := by
  have invalid {changed : SurfaceId → StateRecord → ObjectKind → Prop} :
      Retains changed scene (invalidObject scene client) := .same rfl
  cases call with
  | destroy =>
      refine .via (Retains Unchanged scene) (nestedColorSurfaceUnsetImageDesc_retains user) fun unset kept => ?_
      exact kept.widen.andThen (Retains.destroyResourceObject id)
  | setImageDescription desc intent =>
      simp only [handleColorSurface]
      split
      · rename_i owned
        have part : ObjectCall.part scene client (.setImageDescription desc intent) (.colorSurface user) =
            user.map (·, .colorSurface) := if_pos owned
        rw [part]
        exact nestedColorSurfaceSetImageDesc_retains desc intent user
      · exact .pure invalid
  | unsetImageDescription => exact nestedColorSurfaceUnsetImageDesc_retains user
  | _ => exact .pure invalid

theorem handleColorRepresentation_retains (client : WlClientId) (id : ResourceId) (user : Option SurfaceId)
    (call : ObjectCall) : Ensures (handleColorRepresentation scene client id user call)
      (Retains (Alters (call.part scene client (.colorRepresentation user)) surface) scene) := by
  cases call with
  | destroy => exact Retains.destroyResourceObject id
  | setAlphaMode | setCoefficientsAndRange | setChromaLocation =>
      refine setColorRepresentation_retains user fun pending other apart => ?_
      cases other <;> first | rfl | exact absurd rfl apart
  | _ => exact .pure (.same rfl)

theorem handleObject_retains (client : WlClientId) (id : ResourceId) (call : ObjectCall) (role : Role) :
    Ensures (handleObject scene client id call role)
      (Retains (Alters (call.part scene client role) surface) scene) := by
  have only : Ensures (handleDestroyOnly scene client id call)
      (Retains (Alters (call.part scene client role) surface) scene) := by
    cases call with
    | destroy => exact Retains.destroyResourceObject id
    | _ => exact .pure (.same rfl)
  have moved {user : Option SurfaceId} {change : SubsurfaceEntry → SubsurfaceEntry}
      (kept : ∀ entry, (change entry).link = entry.link) :
      Ensures (withSubsurface scene user fun id _ _ => return setPendingEntry scene id change)
        (Retains (Alters (call.part scene client role) surface) scene) :=
    .covered (setPendingEntry_changes user kept) (by simp)
  cases role with
  | viewport user => exact handleViewport_retains client id user call
  | fractionalScale user => exact only
  | colorSurface user => exact handleColorSurface_retains client id user call
  | colorRepresentation user => exact handleColorRepresentation_retains client id user call
  | subsurface user =>
      cases call with
      | destroy => exact Retains.destroyResourceObject id
      | setPosition | setSync | setDesync => exact moved fun _ => rfl
      | placeAbove sibling =>
          change Ensures (if ownsSurface scene client sibling then nestedSubsurfacePlaceAbove scene client user sibling
            else pure (invalidObject scene client)) _
          split
          · refine Retains.covered (placeSubsurface_changes client user _ _ ?_) (by simp)
            exact fun _ _ => rfl
          · exact .pure (.same rfl)
      | placeBelow sibling =>
          change Ensures (if ownsSurface scene client sibling then nestedSubsurfacePlaceBelow scene client user sibling
            else pure (invalidObject scene client)) _
          split
          · refine Retains.covered (placeSubsurface_changes client user _ _ ?_) (by simp)
            exact fun _ _ => rfl
          · exact .pure (.same rfl)
      | _ => exact .pure (.same rfl)
  | layerSurface output =>
      cases call with
      | destroy => exact .pure (.same rfl)
      | ackConfigure serial =>
          exact Retains.covered (zwlrLayerSurfaceAckConfigure_changes client output serial) (by simp)
      | _ => exact .pure (.same rfl)
  | output output => exact only
  | frameCallback => exact .pure (.same rfl)

end Requests

section Commits

variable {first second third scene : Scene} {id : SurfaceId} {early late : Prop}

/-- A surface takes its pending parts over, or keeps the committed ones where nothing is forwarded. -/
structure Takes (id : SurfaceId) (forwarded : Prop) (first last : Scene) : Prop where
  kept : Retains (Alters none (some id)) first last
  taken : ∀ after, last.forwardSurfaces.cell id = some after → ∀ kind, after.part .committed kind = .unset ∨
    ∃ before, first.forwardSurfaces.cell id = some before ∧
      (after.part .committed kind = before.part .pending kind ∨
        ¬ forwarded ∧ after.part .committed kind = before.part .committed kind)

namespace Takes

theorem of_retains (kept : Retains Unchanged first second) : Takes id False first second where
  kept := kept.widen
  taken after present kind := by
    refine (kept id after present .committed kind not_false).imp_right fun before => ?_
    obtain ⟨before, there, same⟩ := before
    exact ⟨before, there, .inr ⟨not_false, same⟩⟩

theorem trans (one : Takes id early first second) (two : Takes id late second third) :
    Takes id (early ∨ late) first third where
  kept := one.kept.trans two.kept
  taken after present kind := by
    rcases two.taken after present kind with unset | ⟨middle, between, same | ⟨idle, same⟩⟩
    · exact .inl unset
    · rw [same]
      refine (one.kept id middle between .pending kind nofun).imp_right fun before => ?_
      obtain ⟨before, there, same⟩ := before
      exact ⟨before, there, .inl same⟩
    · rw [same]
      refine (one.taken middle between kind).imp_right fun before => ?_
      obtain ⟨before, there, same | ⟨early, same⟩⟩ := before
      · exact ⟨before, there, .inl same⟩
      · exact ⟨before, there, .inr ⟨not_or.mpr ⟨early, idle⟩, same⟩⟩

theorem weaken (takes : Takes id early first second) (less : late → early) : Takes id late first second where
  kept := takes.kept
  taken after present kind := by
    refine (takes.taken after present kind).imp_right fun before => ?_
    obtain ⟨before, there, same | ⟨idle, same⟩⟩ := before
    · exact ⟨before, there, .inl same⟩
    · exact ⟨before, there, .inr ⟨fun forwarded => idle (less forwarded), same⟩⟩

theorem andThen (takes : Takes id early first second) (kept : Retains Unchanged second third) :
    Takes id early first third :=
  (takes.trans (of_retains kept)).weaken .inl

theorem unplaced_looks {one two : ForwardSurface} (same : one.unplaced = two.unplaced) : one.looks = two.looks := by
  have looks := congrArg ForwardSurface.looks same
  exact looks

theorem applied {old : ForwardSurface} (present : scene.forwardSurfaces.cell id = some old) {target : Target}
    (background : AugmentedSurface) :
    Ensures (applyPendingSurfaceUpdates scene id target background) (Takes id True scene) := by
  refine (applyPendingSurfaceUpdates_stacks present background).weaken fun last parts => ?_
  obtain ⟨_, _, size, _, stacking⟩ := parts
  have presented : (old.presented size).looks = (old.pending.look, old.pending.look) :=
    Prod.ext (congrArg SurfaceState.look ForwardSurface.presented_pending) ForwardSurface.presented_look
  have own {after : ForwardSurface} (shown : last.forwardSurfaces.cell id = some after) :
      after.looks = (old.pending.look, old.pending.look) := by
    obtain ⟨record, there, same⟩ := stacking.seen
    cases shown.symm.trans there
    exact (unplaced_looks same).trans presented
  refine ⟨fun other after shown record kind apart => ?_, fun after shown kind => ?_⟩
  · by_cases same : other = id
    · subst same
      cases record with
      | pending =>
          refine .inr ⟨old, present, ?_⟩
          exact congrArg (Look.controlled · kind) (Prod.mk.inj (own shown)).1
      | committed => exact absurd rfl apart
    · have kept := stacking.cells other
      rw [if_neg same, shown] at kept
      obtain ⟨before, there, same⟩ := Option.map_eq_some_iff.mp kept.symm
      exact .inr ⟨before, there, ForwardSurface.part_of_looks (unplaced_looks same.symm) record kind⟩
  · refine .inr ⟨old, present, .inl ?_⟩
    exact congrArg (Look.controlled · kind) (Prod.mk.inj (own shown)).2

theorem subsurface {old : ForwardSurface} (present : scene.forwardSurfaces.cell id = some old) :
    Ensures (commitSubsurface scene id old) (Takes id (old.subsurfaceParent.isSome = true) scene) := by
  unfold commitSubsurface
  split
  · refine (applied present old.extSurface).bind fun last takes => .pure ?_
    exact (takes.weaken fun _ => trivial).andThen (.same rfl)
  · rename_i root
    exact .pure ((of_retains (.same rfl)).weaken root)

theorem inRole {old : ForwardSurface} (present : scene.forwardSurfaces.cell id = some old) (output : OutputId) :
    Ensures (commitInRole scene id old output) fun result => Takes id (result.2 = .forwarded) scene result.1 := by
  unfold commitInRole
  split
  · refine (sendInitialConfigure_changes id output).bind fun configured changes => .pure ?_
    exact (of_retains (.of_changes changes (by simp))).weaken nofun
  split
  · split
    · exact .pure ((of_retains (.same rfl)).weaken nofun)
    · have posted : Retains Unchanged scene (scene.postError old.client (.commit .unmapped)) := .same rfl
      exact .pure ((of_retains posted).weaken nofun)
  · refine .read fun record _ => (applied present record.surface).bind fun framed takes => ?_
    have takes {forwarded : Prop} : Takes id forwarded scene framed := takes.weaken fun _ => trivial
    refine .read fun surface _ => .via (fun _ => True) (fun _ _ => trivial) fun verdict _ => ?_
    cases verdict with
    | some error =>
        have posted : Retains Unchanged framed (framed.postError surface.client (.commit error)) := .same rfl
        exact .pure (takes.andThen posted)
    | none =>
        refine (acceptCommit_changes id output).bind fun accepted changes => .pure ?_
        exact takes.andThen (.of_changes changes (by simp))

end Takes

/-- A subsurface that is not inert forwards its commits. -/
def forwardsNested (scene : Scene) (id : SurfaceId) : Bool :=
  (scene.forwardSurfaces.cell id).any fun surface => !surface.inert && surface.subsurfaceParent.isSome

/-- A surface that is committed takes its pending parts over where the commit is forwarded. -/
theorem nestedSurfaceCommit_takes (id : SurfaceId) : Ensures (nestedSurfaceCommit scene id) fun result =>
    Takes id (forwardsNested scene id = true ∨ result.2 = .forwarded) scene result.1 := by
  refine .read fun surface present => ?_
  have nested : forwardsNested scene id = (!surface.inert && surface.subsurfaceParent.isSome) := by
    rw [forwardsNested, present]
    rfl
  split
  · rename_i inert
    refine .pure ((Takes.of_retains (.same rfl)).weaken (Or.rec (fun forwards => ?_) nofun))
    rw [nested, inert] at forwards
    cases forwards
  · refine (Takes.subsurface present).bind fun middle takes => .read fun current between => ?_
    have takes : Takes id (forwardsNested scene id = true) scene middle := by
      refine takes.weaken fun forwards => ?_
      rw [nested] at forwards
      exact ((Bool.and_eq_true _ _).mp forwards).2
    split
    · exact .pure (takes.weaken (Or.rec (fun forwards => forwards) nofun))
    · exact (Takes.inRole between _).weaken fun result layer => takes.trans layer

/-- A commit is forwarded for a subsurface or in the layer role. -/
def forwardsCommit (scene : Scene) (id : SurfaceId) : Bool :=
  forwardsNested scene id ||
    match nestedSurfaceCommit scene id with
    | .ok result => result.2 == .forwarded
    | .error _ => false

theorem handleCommit_takes (client : WlClientId) (id : SurfaceId) :
    Ensures (handleSurface scene client id .commit) (Takes id (forwardsCommit scene id = true) scene) := by
  intro last computed
  obtain ⟨⟨next, outcome⟩, handled, computed⟩ := bind_ok.mp computed
  cases computed
  refine (nestedSurfaceCommit_takes id (_, outcome) handled).weaken fun forwards => ?_
  unfold forwardsCommit at forwards
  rw [handled] at forwards
  exact ((Bool.or_eq_true _ _).mp forwards).imp_right eq_of_beq

end Commits

section Requests

variable {scene : Scene}

theorem handleSurface_retains (client : WlClientId) (id : SurfaceId) (call : SurfaceCall) :
    Ensures (handleSurface scene client id call)
      (Retains (Alters none (if call = .commit then some id else none)) scene) := by
  have invalid {changed : SurfaceId → StateRecord → ObjectKind → Prop} :
      Retains changed scene (invalidObject scene client) := .same rfl
  cases call with
  | commit => exact (handleCommit_takes client id).weaken fun _ takes => takes.kept
  | destroy => exact Retains.destroyed (.surface id)
  | attach buffer =>
      cases buffer with
      | none => exact Retains.covered (nestedSurfaceAttach_changes id none) (by simp)
      | some buffer =>
          simp only [handleSurface, attachOwned]
          split
          · exact Retains.covered (nestedSurfaceAttach_changes id (some buffer)) (by simp)
          · exact .pure invalid
  | damage | damageBuffer | setBufferTransform | setBufferScale =>
      refine .pure (Retains.setForward scene id fun surface record kind _ => .inr ?_)
      cases record <;> cases kind <;> rfl
  | frame => exact .pure (.of_changes (nestedSurfaceFrame_changes client id) (by simp))
  | getSubsurface parent =>
      simp only [handleSurface]
      split
      · exact Retains.covered (subcompositorGetSubsurface_changes client id parent) (by simp)
      · exact .pure invalid
  | getViewport => exact Retains.covered (nestedViewporterGetViewport_changes client id) (by simp)
  | getFractionalScale =>
      exact Retains.covered (nestedFractionalScaleManagerGetFractionalScale_changes client id) (by simp)
  | getColorSurface => exact Retains.covered (nestedColorGetSurface_changes client id) (by simp)
  | getColorRepresentation => exact Retains.covered (nestedColorRepGetSurface_changes client id) (by simp)
  | getLayerSurface output =>
      cases output with
      | none => exact Retains.covered (wlrLayerShellGetLayerSurface_changes client id none) (by simp)
      | some resource =>
          simp only [handleSurface, getLayerSurface]
          split
          · exact Retains.covered (wlrLayerShellGetLayerSurface_changes client id _) (by simp)
          · exact .pure invalid

theorem handleRequest_retains (client : WlClientId) (request : Request) :
    Ensures (handleRequest scene client request)
      (Retains (Alters (setPart scene client request) (committedSurface scene client request)) scene) := by
  have invalid {changed : SurfaceId → StateRecord → ObjectKind → Prop} :
      Retains changed scene (invalidObject scene client) := .same rfl
  cases request with
  | getRegistry => exact Retains.covered (clientResourceCreate_changes client) (by simp)
  | bindOutput output => exact Retains.covered (bindWlOutput_changes client output) (by simp)
  | createSurface version =>
      have made : Changes [.createSurface] scene (compositorCreateSurface scene client version) :=
        .single (.createSurface client version) (by simp)
      exact .pure (.of_changes made (by simp))
  | createBuffer | createImageDesc | createOutputImageDesc => exact .pure (.same rfl)
  | destroyBuffer buffer =>
      simp only [handleRequest]
      split
      · exact Retains.destroyed (.buffer buffer)
      · exact .pure invalid
  | destroyImageDesc desc =>
      simp only [handleRequest]
      split
      · exact Retains.destroyed (.imageDesc desc)
      · exact .pure invalid
  | surface id call =>
      simp only [handleRequest]
      split
      · rename_i owned
        have committed : committedSurface scene client (.surface id call) =
            if call = .commit then some id else none := by
          cases call with
          | commit => exact if_pos owned
          | _ => rfl
        rw [committed]
        exact handleSurface_retains client id call
      · exact .pure invalid
  | object id call =>
      simp only [handleRequest]
      split
      · rename_i role owned
        have part : setPart scene client (.object id call) = call.part scene client role := by
          change (ownedRole scene client id).bind _ = _
          rw [owned]
          rfl
        rw [part]
        exact handleObject_retains client id call role
      · exact .pure invalid

theorem setPart_of_ended {client : WlClientId} {request : Request} {part : SurfaceId × ObjectKind}
    (ended : endedPart scene client request = some part) : setPart scene client request = none := by
  cases request with
  | object id call =>
      cases call with
      | destroy =>
          have sets : ∀ role, ObjectCall.part scene client .destroy role = none := fun role => by
            cases role <;> rfl
          exact Option.bind_eq_none_iff.mpr fun role _ => sets role
      | _ => cases ended
  | _ => cases ended

theorem handleRequest_takes {client : WlClientId} {request : Request} {id : SurfaceId}
    (commits : committedSurface scene client request = some id) :
    Ensures (handleRequest scene client request) (Takes id (forwardsCommit scene id = true) scene) := by
  cases request with
  | surface surface call =>
      cases call with
      | commit =>
          change (if ownsSurface scene client surface then some surface else none) = some id at commits
          split at commits
          · rename_i owned
            cases commits
            simp only [handleRequest, if_pos owned]
            exact handleCommit_takes client id
          · cases commits
      | _ => cases commits
  | _ => cases commits

theorem changed_of_modify {id : SurfaceId} {change : ForwardSurface → ForwardSurface} {before after : ForwardSurface}
    (there : scene.forwardSurfaces.cell id = some before)
    (present : (scene.setForward id change).forwardSurfaces.cell id = some after) : after = change before := by
  change (scene.forwardSurfaces.modify id change).cell id = some after at present
  rw [Heap.cell_modify_self, there] at present
  exact (Option.some.inj present).symm

/-- The end of an object leaves its part as it was for a viewport, which has no other reset, and unset otherwise. -/
def EndsPart (owner : SurfaceId) (kind : ObjectKind) (first last : Scene) : Prop :=
  ∀ before after, first.forwardSurfaces.cell owner = some before → last.forwardSurfaces.cell owner = some after →
    after.part .pending kind = if kind = .viewport then before.part .pending kind else .unset

theorem viewport_ends {id : ResourceId} {owner : SurfaceId}
    (role : ∀ resource, scene.resources.cell id = some resource → resource.role = .viewport (some owner)) :
    Ensures (destroyResourceObject scene id) (EndsPart owner .viewport scene) := by
  refine .read fun resource present => .via (EndsPart owner .viewport scene) ?_ fun _ ends => .pure ends
  rw [role resource present]
  refine .read fun surface _ => .pure fun before after there shown => ?_
  rw [changed_of_modify there shown]
  rfl

theorem colorRepresentation_ends {id : ResourceId} {owner : SurfaceId}
    (role : ∀ resource, scene.resources.cell id = some resource → resource.role = .colorRepresentation (some owner)) :
    Ensures (destroyResourceObject scene id) (EndsPart owner .colorRepresentation scene) := by
  refine .read fun resource present => .via (EndsPart owner .colorRepresentation scene) ?_ fun _ ends => .pure ends
  rw [role resource present]
  refine .read fun surface _ => .check fun _ => .pure fun before after there shown => ?_
  rw [changed_of_modify there shown]
  rfl

theorem nestedColorSurfaceUnsetImageDesc_ends (owner : SurfaceId) :
    Ensures (nestedColorSurfaceUnsetImageDesc scene (some owner)) fun last => ∀ after,
      last.forwardSurfaces.cell owner = some after → after.part .pending .colorSurface = .unset := by
  refine .read fun surface _ => .via (fun _ => True) (fun _ _ => trivial) fun dropped _ => .pure fun after shown => ?_
  obtain ⟨before, there, ⟨_, rfl⟩ | ⟨apart, _⟩⟩ := dropped.forwardSurfaces.old_of_modify shown
  · rfl
  · exact absurd rfl apart

theorem handleRequest_ends {client : WlClientId} {request : Request} {owner : SurfaceId} {kind : ObjectKind}
    (ended : endedPart scene client request = some (owner, kind)) :
    Ensures (handleRequest scene client request) (EndsPart owner kind scene) := by
  cases request with
  | object id call =>
      cases call with
      | destroy =>
          obtain ⟨role, owned, controls⟩ := Option.bind_eq_some_iff.mp ended
          obtain ⟨resource, found, same⟩ := Option.map_eq_some_iff.mp owned
          have record : ∀ other, scene.resources.cell id = some other → other.role = role := fun other present =>
            Option.some.inj ((Option.eq_some_of_filter_eq_some found).symm.trans present) ▸ same
          have handler : handleRequest scene client (.object id .destroy) =
              handleObject scene client id .destroy role := by
            simp only [handleRequest, owned]
          rw [handler]
          cases role with
          | viewport user =>
              obtain ⟨_, rfl, ⟨⟩⟩ := Option.map_eq_some_iff.mp controls
              exact viewport_ends record
          | colorSurface user =>
              obtain ⟨_, rfl, ⟨⟩⟩ := Option.map_eq_some_iff.mp controls
              refine (nestedColorSurfaceUnsetImageDesc_ends owner).bind fun middle unset => ?_
              have closes : Ensures (destroyResourceObject middle id) (Retains Unchanged middle) :=
                Retains.destroyResourceObject id
              refine closes.weaken fun last kept before after _ shown => ?_
              rcases kept owner after shown .pending .colorSurface not_false with reset | ⟨between, there, same⟩
              · exact reset
              · exact same.trans (unset between there)
          | colorRepresentation user =>
              obtain ⟨_, rfl, ⟨⟩⟩ := Option.map_eq_some_iff.mp controls
              exact colorRepresentation_ends record
          | _ => cases controls
      | _ => cases ended
  | _ => cases ended

end Requests

/-- Notes tell of each part whether an object set it since the object before was destroyed. -/
abbrev PartNotes := SurfaceId → StateRecord → ObjectKind → Bool

/-- A pending part is noted as set or as reset. -/
def PartNotes.mark (notes : PartNotes) (part : Option (SurfaceId × ObjectKind)) (value : Bool) : PartNotes
  | id, .pending, kind => if part = some (id, kind) then value else notes id .pending kind
  | id, .committed, kind => notes id .committed kind

/-- A commit notes the pending parts as committed, and those that were committed unless it is forwarded. -/
def PartNotes.commit (notes : PartNotes) (surface : Option SurfaceId) (forwarded : SurfaceId → Bool) : PartNotes
  | id, .pending, kind => notes id .pending kind
  | id, .committed, kind =>
      if surface = some id then notes id .pending kind || (!forwarded id && notes id .committed kind)
      else notes id .committed kind

/-- The notes follow the setters, the destroy requests and the commits. -/
def noteParts (notes : PartNotes) (state : SwaylockState) (occurrence : Occurrence) : PartNotes :=
  match occurrence.event with
  | .scene (.request client request) =>
      ((notes.commit (committedSurface state.scene client request) (forwardsCommit state.scene)).mark
        (setPart state.scene client request) true).mark (endedPart state.scene client request) false
  | _ => notes

/-- At the start no part was set. -/
abbrev PartNotes.blank : PartNotes := fun _ _ _ => false

/-- A part is unset unless an object set it since the object before was destroyed. -/
def PartsReset (scene : Scene) (notes : PartNotes) : Prop :=
  ∀ id surface, scene.forwardSurfaces.cell id = some surface → ∀ record kind, notes id record kind = false →
    surface.part record kind = .unset

/-- A viewport is destroyed by its plugin only while it is unset. -/
def endsUnset (state : SwaylockState) (occurrence : Occurrence) : Bool :=
  match occurrence.event with
  | .scene (.request client request) =>
      match endedPart state.scene client request with
      | some (owner, .viewport) => (state.scene.forwardSurfaces.cell owner).all fun surface =>
          surface.part .pending .viewport == .unset
      | _ => true
  | _ => true

theorem handled_of_request {state next : SwaylockState} {client : WlClientId} {request : Request} {env : Environment}
    (moved : swaylock.machine.step state ⟨.scene (.request client request), env⟩ next) :
    handleRequest state.scene client request = .ok next.scene := by
  obtain ⟨scene, handled, same⟩ := bind_ok.mp moved.2
  cases same
  exact handled

namespace PartsReset

variable {first last : Scene} {notes : PartNotes}

theorem of_retains (reset : PartsReset first notes) {changed : SurfaceId → StateRecord → ObjectKind → Prop}
    (kept : Retains changed first last) {id : SurfaceId} {after : ForwardSurface} {record : StateRecord}
    {kind : ObjectKind} (present : last.forwardSurfaces.cell id = some after) (apart : ¬ changed id record kind)
    (blank : notes id record kind = false) : after.part record kind = .unset := by
  rcases kept id after present record kind apart with unset | ⟨before, there, same⟩
  · exact unset
  · exact same.trans (reset id before there record kind blank)

theorem request {client : WlClientId} {request : Request} (reset : PartsReset first notes)
    (handled : handleRequest first client request = .ok last)
    (ends : ∀ owner before, endedPart first client request = some (owner, .viewport) →
      first.forwardSurfaces.cell owner = some before → before.part .pending .viewport = .unset) :
    PartsReset last (((notes.commit (committedSurface first client request) (forwardsCommit first)).mark
      (setPart first client request) true).mark (endedPart first client request) false) := by
  have kept := handleRequest_retains client request last handled
  intro id after present record kind blank
  cases record with
  | pending =>
      by_cases ended : endedPart first client request = some (id, kind)
      · have unmarked :
            ¬ Alters (setPart first client request) (committedSurface first client request) id .pending kind := by
          rw [setPart_of_ended ended]
          exact nofun
        rcases kept id after present .pending kind unmarked with unset | ⟨before, there, _⟩
        · exact unset
        · rw [handleRequest_ends ended last handled before after there present]
          split
          · rename_i viewport
            subst viewport
            exact ends id before ended there
          · rfl
      · have blank := (if_neg ended).symm.trans blank
        by_cases marked : setPart first client request = some (id, kind)
        · cases (if_pos marked).symm.trans blank
        · exact reset.of_retains kept present marked ((if_neg marked).symm.trans blank)
  | committed =>
      by_cases commits : committedSurface first client request = some id
      · have blank := (if_pos commits).symm.trans blank
        obtain ⟨pending, committed⟩ := (Bool.or_eq_false_iff).mp blank
        rcases (handleRequest_takes commits last handled).taken after present kind with
          unset | ⟨before, there, same | ⟨idle, same⟩⟩
        · exact unset
        · exact same.trans (reset id before there .pending kind pending)
        · rw [(Bool.not_eq_true _).mp idle] at committed
          exact same.trans (reset id before there .committed kind committed)
      · exact reset.of_retains kept present commits ((if_neg commits).symm.trans blank)

end PartsReset

theorem PartsReset.step {state next : SwaylockState} {notes : PartNotes} {occurrence : Occurrence}
    (reset : PartsReset state.scene notes) (moved : swaylock.machine.step state occurrence next)
    (unset : endsUnset state occurrence = true) : PartsReset next.scene (noteParts notes state occurrence) := by
  obtain ⟨event, env⟩ := occurrence
  by_cases requested : ∃ client request, event = .scene (.request client request)
  · obtain ⟨client, request, rfl⟩ := requested
    refine reset.request (handled_of_request moved) fun owner before ended there => ?_
    simp only [endsUnset, ended, there, Option.all_some] at unset
    exact eq_of_beq unset
  · have same : noteParts notes state ⟨event, env⟩ = notes := by
      unfold noteParts
      split
      · rename_i client request named
        exact absurd ⟨client, request, named⟩ requested
      · rfl
    have kept : Retains Unchanged state.scene next.scene :=
      (Retains.robust Unchanged state.scene).step (.same rfl) (sceneStep_of_step moved)
        (fun _ _ output _ _ _ => Retains.closed output.pluginSurface)
        fun client request named => absurd ⟨client, request, named⟩ requested
    rw [same]
    exact fun id after present record kind blank => reset.of_retains kept present not_false blank

/-- While plugins destroy viewports only after they unset them, the end of an extension object resets what it controlled
until another object sets it, and a destroy request leaves a part unset exactly when it was unset or its object is no
viewport. -/
theorem extension_objects_reset (state : SwaylockState) :
    (∀ notes, ((swaylock.machine.guarded endsUnset).observed .blank noteParts).Reachable (state, notes) →
      PartsReset state.scene notes) ∧
      ∀ client request owner kind next before after, endedPart state.scene client request = some (owner, kind) →
        handleRequest state.scene client request = .ok next →
          state.scene.forwardSurfaces.cell owner = some before → next.forwardSurfaces.cell owner = some after →
            (after.part .pending kind = .unset ↔ (kind = .viewport → before.part .pending .viewport = .unset)) := by
  refine ⟨fun notes reachable => ?_, ?_⟩
  · refine reachable.invariant (fun pair => PartsReset pair.1.scene pair.2) ?_ ?_
    · rintro ⟨state, _⟩ ⟨start, rfl⟩ id surface present
      rw [start.surfaces.1] at present
      cases present
    · rintro ⟨state, notes⟩ occurrence ⟨next, _⟩ reset ⟨⟨moved, unset⟩, rfl⟩
      exact reset.step moved unset
  · intro client request owner kind next before after ended handled there present
    rw [handleRequest_ends ended next handled before after there present]
    split
    · rename_i viewport
      subst viewport
      exact ⟨fun unset _ => unset, fun unset => unset rfl⟩
    · rename_i other
      exact ⟨fun _ viewport => absurd viewport other, fun _ => rfl⟩

/-- A plugin gives a presented surface a color representation and commits it. -/
def representedEvents : List Event :=
  presentingEvents ++ ([.surface 0 .getColorRepresentation, .object 3 (.setAlphaMode 1), .surface 0 .commit] :
    List Request).map fun request => .scene (.request 0 request)

/-- A color representation that was committed is unset again with the end of its object. -/
theorem extension_objects_reset_represented : ∃ (state : SwaylockState) (notes : PartNotes) (next : Scene)
    (before after : ForwardSurface), PartsReset state.scene notes ∧ state.scene.forwardSurfaces.cell 0 = some before ∧
      before.part .committed .colorRepresentation ≠ .unset ∧
        handleRequest state.scene 0 (.object 3 .destroy) = .ok next ∧ next.forwardSurfaces.cell 0 = some after ∧
          after.part .pending .colorRepresentation = .unset := by
  obtain ⟨⟨state, notes⟩, reachable, passed⟩ := swaylock.play_guarded_observed endsUnset .blank noteParts
    (representedEvents.map Event.obliged)
    (fun pair => ((pair.1.scene.forwardSurfaces.cell 0).any fun surface =>
      surface.part .committed .colorRepresentation != .unset) &&
        (endedPart pair.1.scene 0 (.object 3 .destroy) == some (0, .colorRepresentation)) &&
          match handleRequest pair.1.scene 0 (.object 3 .destroy) with
          | .ok next => next.forwardSurfaces.live 0
          | .error _ => false)
    (startState_initial _ _ _)
    (by decide +kernel : (((swaylock.guarded _).observed _ _).play (defaultState, _) _).any _ = true)
  obtain ⟨passed, ends⟩ := Bool.and_eq_true_iff.mp passed
  obtain ⟨represented, ended⟩ := Bool.and_eq_true_iff.mp passed
  obtain ⟨before, there, set⟩ := (Option.any_eq_true _ _).mp represented
  split at ends
  · rename_i next handled
    obtain ⟨after, present⟩ := Option.isSome_iff_exists.mp ends
    have reset := (extension_objects_reset state).2 0 _ 0 .colorRepresentation next before after (eq_of_beq ended)
      handled there present
    exact ⟨state, notes, next, before, after, (extension_objects_reset state).1 notes reachable, there,
      bne_iff_ne.mp set, handled, present, reset.mpr nofun⟩
  · cases ends

/-- A destroyed viewport leaves its destination to the commits after it. -/
theorem destroyed_viewport_keeps_destination :
    ¬ ∀ state notes, (swaylock.machine.observed .blank noteParts).Reachable (state, notes) →
      PartsReset state.scene notes := by
  intro claim
  obtain ⟨⟨state, notes⟩, reachable, passed⟩ := swaylock.play_observed .blank noteParts
    ((presentingEvents ++ ([.surface 0 .getViewport, .object 3 (.setDestination 100 50), .object 3 .destroy,
      .surface 0 .commit] : List Request).map fun request => Event.scene (.request 0 request)).map Event.obliged)
    (fun pair => !pair.2 0 .committed .viewport && (pair.1.scene.forwardSurfaces.cell 0).any fun surface =>
      surface.part .committed .viewport != .unset)
    (startState_initial _ _ _)
    (by decide +kernel : ((swaylock.observed _ _).play (defaultState, _) _).any _ = true)
  obtain ⟨blank, kept⟩ := Bool.and_eq_true_iff.mp passed
  obtain ⟨surface, present, set⟩ := (Option.any_eq_true _ _).mp kept
  rw [Bool.not_eq_true'] at blank
  exact bne_iff_ne.mp set (claim state notes reachable 0 surface present .committed .viewport blank)

end SwaylockPlugin
