import SwaylockPlugin.Proof.Requests

namespace SwaylockPlugin

open Library

/-- The pending state of a surface is applied around its attachment, its stacks and its frame callbacks. -/
structure Applied (id : SurfaceId) (target : Target) (first looked attached damaged stacked last : Scene) : Prop where
  look : Changes lookEffects first looked
  attachment : applyAttachment looked id target = .ok attached
  damage : Changes contentEffects attached damaged
  stacking : applySubsurfaces damaged id target = .ok stacked
  frames : applyFrameCallbacks stacked id target = .ok last

/-- A surface is updated when its pending state is applied before plain changes. -/
def Updated (id : SurfaceId) (target : Target) (first last : Scene) : Prop :=
  ∃ looked attached damaged stacked framed, Applied id target first looked attached damaged stacked framed ∧
    Changes plainEffects framed last

/-- A surface in the layer role presents its pending attachment on an output. -/
structure Presents (surface : ForwardSurface) (output : OutputId) : Prop where
  role : surface.swaySurface = some output
  configured : surface.hasBeenConfigured = true
  drawn : surface.pending.attachment ≠ .null

/-- A commit updates a subsurface on its own and then a layer surface on its output. -/
structure Commits (id : SurfaceId) (first last : Scene) (outcome : CommitOutcome) (surface current : ForwardSurface)
    (middle : Scene) : Prop where
  before : first.forwardSurfaces.cell id = some surface
  nested : (surface.inert = true ∨ surface.subsurfaceParent = none) ∧ middle = first ∨
    surface.inert = false ∧ surface.subsurfaceParent.isSome = true ∧ Updated id (.ext id) first middle
  between : middle.forwardSurfaces.cell id = some current
  layer : outcome ≠ .forwarded ∧ Changes plainEffects middle last ∨
    surface.inert = false ∧ ∃ output, Presents current output ∧ Updated id (.lock output) middle last

variable {scene : Scene}

theorem applyPendingSurfaceUpdates_parts (id : SurfaceId) (target : Target) (background : AugmentedSurface) :
    Ensures (applyPendingSurfaceUpdates scene id target background) fun last =>
      ∃ looked attached damaged stacked, Applied id target scene looked attached damaged stacked last := by
  rw [applyPendingSurfaceUpdates_split]
  intro last computed
  obtain ⟨looked, shown, computed⟩ := bind_ok.mp computed
  obtain ⟨attached, attaching, computed⟩ := bind_ok.mp computed
  obtain ⟨offset, moved, computed⟩ := bind_ok.mp computed
  obtain ⟨damaged, damaging, computed⟩ := bind_ok.mp computed
  obtain ⟨stacked, stacking, framing⟩ := bind_ok.mp computed
  have damage := (applyOffset_changes id target offset moved).trans (applyDamage_changes id target damaged damaging)
  exact ⟨looked, attached, damaged, stacked, applyLook_changes id target background looked shown, attaching, damage,
    stacking, framing⟩

theorem commitLayerSurface_updated (id : SurfaceId) (output : OutputId) :
    Ensures (commitLayerSurface scene id output) fun result => Updated id (.lock output) scene result.1 := by
  refine .read fun record _ => ?_
  refine (applyPendingSurfaceUpdates_parts id (.lock output) record.surface).bind fun framed parts => ?_
  obtain ⟨looked, attached, damaged, stacked, applied⟩ := parts
  refine .read fun surface _ => ?_
  refine .via (fun _ => True) (fun _ _ => trivial) fun verdict _ => ?_
  cases verdict with
  | some error => exact .pure ⟨looked, attached, damaged, stacked, framed, applied, .postError framed _ _ (by simp)⟩
  | none =>
      refine (acceptCommit_changes id output).bind fun accepted after => .pure ?_
      exact ⟨looked, attached, damaged, stacked, framed, applied, after.widen (by simp)⟩

theorem commitInRole_parts {id : SurfaceId} {surface : ForwardSurface} {output : OutputId}
    (role : surface.swaySurface = some output) :
    Ensures (commitInRole scene id surface output) fun result =>
      result.2 ≠ .forwarded ∧ Changes plainEffects scene result.1 ∨
        Presents surface output ∧ Updated id (.lock output) scene result.1 := by
  unfold commitInRole
  split
  · refine (sendInitialConfigure_changes id output).bind fun configured changed => .pure (.inl ⟨nofun, ?_⟩)
    exact changed.widen (by simp)
  · rename_i configured
    split
    · split
      · exact .pure (.inl ⟨nofun, .refl scene⟩)
      · exact .pure (.inl ⟨nofun, .postError scene _ _ (by simp)⟩)
    · rename_i drawn
      refine (commitLayerSurface_updated id output).weaken fun result updated => .inr ⟨⟨role, ?_, ?_⟩, updated⟩
      · simpa using configured
      · simpa using drawn

/-- A commit updates a subsurface on its own and then a layer surface on its output. -/
theorem nestedSurfaceCommit_parts (id : SurfaceId) :
    Ensures (nestedSurfaceCommit scene id) fun result =>
      ∃ surface current middle, Commits id scene result.1 result.2 surface current middle := by
  refine .read fun surface present => ?_
  split
  · rename_i inert
    have unsent : CommitOutcome.inert ≠ .forwarded := by decide
    exact .pure ⟨surface, surface, scene, present, .inl ⟨.inl inert, rfl⟩, present, .inl ⟨unsent, .refl scene⟩⟩
  · rename_i active
    have active : surface.inert = false := by simpa using active
    refine .via (fun middle => (surface.inert = true ∨ surface.subsurfaceParent = none) ∧ middle = scene ∨
      surface.inert = false ∧ surface.subsurfaceParent.isSome = true ∧ Updated id (.ext id) scene middle) ?_ ?_
    · unfold commitSubsurface
      split
      · rename_i parent
        refine (applyPendingSurfaceUpdates_parts id (.ext id) surface.extSurface).bind fun framed parts => .pure ?_
        obtain ⟨looked, attached, damaged, stacked, applied⟩ := parts
        exact .inr ⟨active, parent, looked, attached, damaged, stacked, framed, applied,
          .tell framed _ (by simp [Message.effect])⟩
      · rename_i root
        exact .pure (.inl ⟨.inr (by simpa using root), rfl⟩)
    · intro middle nested
      refine .read fun current between => ?_
      split
      · have unsent : CommitOutcome.unassigned ≠ .forwarded := by decide
        exact .pure ⟨surface, current, middle, present, nested, between, .inl ⟨unsent, .refl middle⟩⟩
      · rename_i output role
        refine (commitInRole_parts role).weaken fun result layer => ?_
        refine ⟨surface, current, middle, present, nested, between, ?_⟩
        exact layer.imp_right fun updated => ⟨active, output, updated⟩

/-- The objects of a surface lose their user data in this order. -/
def ObjectKind.all : List ObjectKind :=
  [.viewport, .fractionalScale, .colorSurface, .colorRepresentation, .subsurface]

/-- The objects of a surface lose their user data. -/
def clearObjects (surface : ForwardSurface) (kinds : List ObjectKind) (scene : Scene) : Handled Scene :=
  kinds.foldlM (fun scene kind => clearUserData scene (kind.role none) (kind.pointer surface)) scene

/-- A surface is destroyed after it left its buffers, its image descriptions, its objects and its parent. -/
structure Destroys (id : SurfaceId) (surface : ForwardSurface)
    (first hidden released detached undescribed cleared parted last : Scene) : Prop where
  before : first.forwardSurfaces.cell id = some surface
  output : Changes [.output .plugin] first hidden
  pending : unlinkAttachment hidden (fun record => { record with pendingSurfaces := record.pendingSurfaces.erase id })
    surface.pending.attachment = .ok released
  committed : unlinkAttachment released
    (fun record => { record with committedSurfaces := record.committedSurfaces.erase id })
    surface.committed.attachment = .ok detached
  descs : Changes [.desc] detached undescribed
  objects : clearObjects surface ObjectKind.all undescribed = .ok cleared
  tree : destroySubsurfaceParts cleared id = .ok parted
  freed : last = { parted with forwardSurfaces := parted.forwardSurfaces.free id }

theorem surfaceHandleResourceDestroy_parts (id : SurfaceId) :
    Ensures (surfaceHandleResourceDestroy scene id) fun last => ∃ surface hidden released detached undescribed cleared
      parted, Destroys id surface scene hidden released detached undescribed cleared parted last := by
  refine .read fun surface present => ?_
  intro last computed
  obtain ⟨hidden, forgetting, computed⟩ := bind_ok.mp computed
  obtain ⟨released, releasing, computed⟩ := bind_ok.mp computed
  obtain ⟨detached, detaching, computed⟩ := bind_ok.mp computed
  obtain ⟨dropped, dropping, computed⟩ := bind_ok.mp computed
  obtain ⟨undescribed, undescribing, computed⟩ := bind_ok.mp computed
  obtain ⟨cleared, clearing, computed⟩ : ∃ cleared, clearObjects surface ObjectKind.all undescribed = .ok cleared ∧ (do
      let scene ← destroySubsurfaceParts cleared id
      return { scene with forwardSurfaces := scene.forwardSurfaces.free id }) = .ok last := by
    apply bind_ok.mp
    simp only [clearObjects, ObjectKind.all, List.foldlM_cons, List.foldlM_nil, bind_assoc, pure_bind]
    exact computed
  obtain ⟨parted, parting, computed⟩ := bind_ok.mp computed
  cases computed
  have descs := (unlinkDesc_changes _ _ dropped dropping).trans (unlinkDesc_changes _ _ undescribed undescribing)
  exact ⟨surface, hidden, released, detached, undescribed, cleared, parted, present,
    clearPluginSurface_changes _ hidden forgetting, releasing, detaching, descs, clearing, parting, rfl⟩

namespace Destroys

variable {id : SurfaceId} {surface : ForwardSurface}
  {hidden released detached undescribed cleared parted last : Scene}

theorem leaves (destroys : Destroys id surface scene hidden released detached undescribed cleared parted last) :
    Changes [.output .plugin, .buffer, .desc] scene undescribed := by
  have pending := unlinkAttachment_changes _ _ released destroys.pending
  have committed := unlinkAttachment_changes _ _ detached destroys.committed
  have output : Changes [.output .plugin, .buffer, .desc] scene hidden := destroys.output.widen (by simp)
  exact (output.trans ((pending.trans committed).widen (by simp))).trans (destroys.descs.widen (by simp))

theorem clears (destroys : Destroys id surface scene hidden released detached undescribed cleared parted last) :
    Changes [.resource] undescribed cleared :=
  Changes.foldlM (fun _ _ => clearUserData_changes _ _) ObjectKind.all undescribed cleared destroys.objects

theorem frees (destroys : Destroys id surface scene hidden released detached undescribed cleared parted last) :
    Changes [.freeSurface] parted last :=
  destroys.freed ▸ .single (.freeSurface id) (by simp)

end Destroys

/-- What a connection owns is destroyed in one of these ways. -/
inductive Destroyed (scene : Scene) : Owned → Scene → Prop
  | surface {id : SurfaceId} {last : Scene} (handled : surfaceHandleResourceDestroy scene id = .ok last) :
      Destroyed scene (.surface id) last
  | buffer {id : BufferId} {last : Scene} (handled : bufferHandleResourceDestroy scene id = .ok last) :
      Destroyed scene (.buffer id) last
  | imageDesc {id : DescId} {last : Scene} (changes : Changes [.desc] scene last) : Destroyed scene (.imageDesc id) last
  | parted {id : ResourceId} {surface : SurfaceId} {last : Scene}
      (handled : destroySubsurfaceParts scene surface = .ok last) :
      Destroyed scene (.resource id) (last.destroyResource id)
  | resource {id : ResourceId} {last : Scene}
      (changes : Changes [.surface .objects, .surface .frames, .surface .content, .callbacks] scene last) :
      Destroyed scene (.resource id) (last.destroyResource id)

theorem destroyOwned_cases (owned : Owned) : Ensures (destroyOwned scene owned) (Destroyed scene owned) := by
  cases owned with
  | surface id => exact fun _ handled => .surface handled
  | buffer id => exact fun _ handled => .buffer handled
  | imageDesc id => exact (imageDescHandleResourceDestroy_changes id).weaken fun _ => .imageDesc
  | resource id =>
      apply Ensures.read
      intro resource _
      refine .via (fun handled => Destroyed scene (.resource id) (handled.destroyResource id)) ?_ fun _ => .pure
      cases role : resource.role with
      | subsurface user =>
          cases user with
          | none => exact .pure (.resource (.refl scene))
          | some surface => exact fun _ handled => .parted handled
      | _ => exact (runDestroyHandler_changes id (by simp)).weaken fun _ => .resource

end SwaylockPlugin
