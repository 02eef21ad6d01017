import SwaylockPlugin.Proof.Parts

namespace SwaylockPlugin

open Library

/-- A resource for an output or for a layer surface never changes its user data. -/
def Role.fixed : Role → Bool
  | .output _ => true
  | .layerSurface _ => true
  | _ => false

/-- The resources for outputs and layer surfaces of the second scene were there before. -/
def KeepsFixed (first second : Scene) : Prop :=
  ∀ id record, second.resources.cell id = some record → record.role.fixed = true →
    first.resources.cell id = some record

namespace KeepsFixed

variable {first second third scene : Scene}

theorem same (resources : second.resources = first.resources) : KeepsFixed first second :=
  fun _ _ present _ => resources ▸ present

theorem trans (one : KeepsFixed first second) (two : KeepsFixed second third) : KeepsFixed first third :=
  fun id record present fixed => one id record (two id record present fixed) fixed

theorem andThen {rest : Handled Scene} (start : KeepsFixed first second) (after : Ensures rest (KeepsFixed second)) :
    Ensures rest (KeepsFixed first) :=
  after.weaken fun _ kept => start.trans kept

theorem of_changes {effects : List Effect} (changes : Changes effects first second) (apart : Effect.resource ∉ effects) :
    KeepsFixed first second :=
  same (changes.resources apart)

theorem covered {effects : List Effect} {computation : Handled Scene} (covered : Ensures computation (Changes effects scene))
    (apart : Effect.resource ∉ effects) : Ensures computation (KeepsFixed scene) :=
  covered.weaken fun _ changes => of_changes changes apart

theorem createResource (scene : Scene) (client : WlClientId) {role : Role} (other : role.fixed = false) :
    KeepsFixed scene (scene.createResource client role).1 := by
  intro id record present fixed
  rcases scene.resources.old_of_alloc present with ⟨_, rfl⟩ | ⟨_, there⟩
  · cases other.symm.trans fixed
  · exact there

theorem destroyResource (scene : Scene) (id : ResourceId) : KeepsFixed scene (scene.destroyResource id) :=
  fun _ _ present _ => scene.resources.old_of_free present

theorem clearUserData {role : Role} (other : role.fixed = false) (resource : Option ResourceId) :
    Ensures (clearUserData scene role resource) (KeepsFixed scene) := by
  cases resource with
  | none => exact .pure (same rfl)
  | some resource =>
      refine .read fun _ _ => .pure fun id record present fixed => ?_
      obtain ⟨old, there, ⟨_, rfl⟩ | ⟨_, rfl⟩⟩ := scene.resources.old_of_modify present
      · cases other.symm.trans fixed
      · exact there

theorem extended {client : WlClientId} {kind : ObjectKind} {id : SurfaceId} (extended : Extended client kind id first second) :
    KeepsFixed first second := by
  obtain ⟨middle, change, before, _, after⟩ := extended
  have other : (kind.role (some id)).fixed = false := by cases kind <;> rfl
  have kept : KeepsFixed first (middle.createResource client (kind.role (some id))).1 :=
    (of_changes before (by simp)).trans (createResource middle client other)
  have changed : KeepsFixed first ((middle.createResource client (kind.role (some id))).1.setForward id change) :=
    kept.trans (same rfl)
  exact changed.trans (of_changes after (by simp))

end KeepsFixed

variable {scene : Scene}

section Destruction

theorem surfaceHandleResourceDestroy_fixed (id : SurfaceId) :
    Ensures (surfaceHandleResourceDestroy scene id) (KeepsFixed scene) := by
  refine (surfaceHandleResourceDestroy_parts id).weaken fun last parts => ?_
  obtain ⟨surface, hidden, released, detached, undescribed, cleared, parted, destroys⟩ := parts
  have left : KeepsFixed scene undescribed := .of_changes destroys.leaves (by simp)
  have objects : KeepsFixed undescribed cleared := by
    refine Ensures.foldlM (fun _ => .same rfl) .trans (fun state kind => ?_) ObjectKind.all undescribed cleared
      destroys.objects
    exact .clearUserData (by cases kind <;> rfl) _
  have tree : KeepsFixed cleared parted := .of_changes (destroySubsurfaceParts_changes id parted destroys.tree) (by simp)
  exact ((left.trans objects).trans tree).trans (.of_changes destroys.frees (by simp))

theorem destroyOwned_fixed (owned : Owned) : Ensures (destroyOwned scene owned) (KeepsFixed scene) := by
  intro last ended
  cases destroyOwned_cases owned last ended with
  | surface handled => exact surfaceHandleResourceDestroy_fixed _ last handled
  | buffer handled => exact .of_changes (bufferHandleResourceDestroy_changes _ _ handled) (by simp)
  | imageDesc changes => exact .of_changes changes (by simp)
  | parted handled =>
      have kept : KeepsFixed scene _ := .of_changes (destroySubsurfaceParts_changes _ _ handled) (by simp)
      exact kept.trans (.destroyResource _ _)
  | resource changes =>
      have kept : KeepsFixed scene _ := .of_changes changes (by simp)
      exact kept.trans (.destroyResource _ _)

theorem bgFrameHandleDone_fixed (env : Environment) (id : CallbackId) :
    Ensures (bgFrameHandleDone scene env id) (KeepsFixed scene) := by
  refine .read fun callbacks _ => ?_
  refine (KeepsFixed.covered (markPresented_changes env callbacks.swaySurface) (by simp)).bind fun presented kept => .pure ?_
  have completes (state : Scene) (callback : ResourceId) : KeepsFixed state (completeCallback state callback) :=
    .destroyResource (state.tell (.plugin (.callbackDone callback))) callback
  have completed : KeepsFixed presented (callbacks.list.foldl completeCallback presented) := by
    refine foldl_keeps (fun state => ?_) ?_ completes callbacks.list presented
    · exact .same rfl
    · exact KeepsFixed.trans
  exact (kept.trans completed).trans (.same rfl)

end Destruction

section Requests

variable {client : WlClientId}

/-- A request binds an output, gives a surface its layer role or keeps the fixed resources. -/
inductive Binds (scene : Scene) (client : WlClientId) : Request → Scene → Prop
  | output {output : OutputId} (present : (scene.outputs.cell output).isSome = true) :
      Binds scene client (.bindOutput output) (scene.createResource client (.output output)).1
  | layered {id : SurfaceId} {resource : Option ResourceId} {next : Scene} (layered : Layered client id scene next) :
      Binds scene client (.surface id (.getLayerSurface resource)) next
  | kept {request : Request} {next : Scene} (kept : KeepsFixed scene next) : Binds scene client request next

theorem subcompositorGetSubsurface_fixed (client : WlClientId) (child parent : SurfaceId) :
    Ensures (subcompositorGetSubsurface scene client child parent) (KeepsFixed scene) := by
  refine (subcompositorGetSubsurface_parents client child parent).weaken fun next parents => ?_
  cases parents with
  | refused error => exact .same rfl
  | hung =>
      have created : KeepsFixed scene (scene.createResource client (.subsurface (some child))).1 :=
        .createResource scene client rfl
      exact created.trans (.same rfl)

theorem RequestStep.binds {request : Request} {next : Scene} (step : RequestStep scene client request next) :
    Binds scene client request next := by
  cases step with
  | plain changes => exact .kept (.of_changes changes (by simp))
  | bound present => exact .output present
  | layered layered => exact .layered layered
  | surface version => exact .kept (.same rfl)
  | buffer width height => exact .kept (.same rfl)
  | attached _ _ handled => exact .kept (.of_changes (nestedSurfaceAttach_changes _ _ next handled) (by simp))
  | framed id =>
      have created : KeepsFixed scene (scene.createResource client .frameCallback).1 := .createResource scene client rfl
      exact .kept (created.trans (.same rfl))
  | committed _ handled => exact .kept (.of_changes (nestedSurfaceCommit_changes _ _ handled) (by simp))
  | parented _ _ handled => exact .kept (subcompositorGetSubsurface_fixed client _ _ next handled)
  | extended _ extended => exact .kept (.extended extended)
  | placedAbove _ _ handled => exact .kept (.of_changes (nestedSubsurfacePlaceAbove_changes client _ _ next handled) (by simp))
  | placedBelow _ _ handled => exact .kept (.of_changes (nestedSubsurfacePlaceBelow_changes client _ _ next handled) (by simp))
  | destroyed _ before handled =>
      have kept : KeepsFixed scene _ := .of_changes before (by simp)
      exact .kept (kept.andThen (destroyOwned_fixed _) next handled)

end Requests

section Steps

variable {state next : SwaylockState} {occurrence : Occurrence}

theorem KeepsFixed.of_emptied {env : Environment} {first last : Scene} (emptied : Emptied env first last) :
    KeepsFixed first last := by
  obtain ⟨before, after, early, destroyed, late⟩ := emptied
  have kept : KeepsFixed before after := by
    have destroys (state : Scene) (owned : Owned) : Ensures (destroyOwned state owned) (KeepsFixed state) :=
      destroyOwned_fixed owned
    refine Ensures.foldlM (fun state => ?_) ?_ destroys env.owned before after destroyed
    · exact .same rfl
    · exact KeepsFixed.trans
  exact ((KeepsFixed.same early.resources).trans kept).trans (.same late.resources)

theorem binds_of_step (moved : swaylock.machine.step state occurrence next) :
    KeepsFixed state.scene next.scene ∨ ∃ client request, occurrence.event = .scene (.request client request) ∧
      enabled state occurrence = true ∧ Binds state.scene client request next.scene := by
  obtain ⟨event, env⟩ := occurrence
  have allowed := moved.1
  have step : ObjectStep state env event next := objectStep_of_step moved
  clear moved
  cases step with
  | aside changes => exact .inl (.same changes.resources)
  | emptied _ _ _ emptied => exact .inl (.of_emptied emptied)
  | presented handled => exact .inl (bgFrameHandleDone_fixed _ _ _ handled)
  | request _ handled => exact .inr ⟨_, _, rfl, allowed, (handleRequest_step _ _ _ handled).binds⟩

end Steps

end SwaylockPlugin
