import SwaylockPlugin.Library.Batches
import SwaylockPlugin.Proof.Callbacks
import SwaylockPlugin.Proof.Users

namespace SwaylockPlugin

open Library

/-- A scene collects the frame callbacks of its surfaces and keeps batches of them that wait for upstream callbacks. -/
def Scene.batches (scene : Scene) : Batches where
  lists place := place.elim (fun id => ((scene.forwardSurfaces.cell id).map ForwardSurface.frameCallbacks).getD [])
    fun id => ((scene.frameCallbacks.cell id).map FrameCallbacks.list).getD []
  nextItem := scene.resources.next
  nextBatch := scene.frameCallbacks.next

/-- The frame callbacks stay in their places between two scenes unless they leave them, and none is destroyed while it
waits. -/
structure KeepsWaiting (first second : Scene) : Prop where
  lists : ∀ place, (second.batches.lists place).Sublist (first.batches.lists place)
  resources : first.resources.next ≤ second.resources.next
  later : first.frameCallbacks.next ≤ second.frameCallbacks.next
  live : ∀ place, ∀ item ∈ second.batches.lists place, (first.resources.cell item).isSome = true →
    (second.resources.cell item).isSome = true

/-- A commit makes a batch of the frame callbacks of its surface when there are some, and keeps the others where they
are. -/
structure PassesOn (id : SurfaceId) (first second : Scene) : Prop where
  batches : second.batches = first.batches ∨
    first.batches.lists (.inl id) ≠ [] ∧ second.batches = first.batches.pass id
  resources : second.resources = first.resources

section Scenes

variable {first second third scene : Scene}

theorem batches_inl {id : SurfaceId} {surface : ForwardSurface} (present : scene.forwardSurfaces.cell id = some surface) :
    scene.batches.lists (.inl id) = surface.frameCallbacks := by
  change ((scene.forwardSurfaces.cell id).map ForwardSurface.frameCallbacks).getD [] = _
  rw [present]
  rfl

theorem batches_inr {id : CallbackId} {record : FrameCallbacks} (present : scene.frameCallbacks.cell id = some record) :
    scene.batches.lists (.inr id) = record.list := by
  change ((scene.frameCallbacks.cell id).map FrameCallbacks.list).getD [] = _
  rw [present]
  rfl

theorem KeepsWaiting.drop (surfaces : ∀ id, (second.batches.lists (.inl id)).Sublist (first.batches.lists (.inl id)))
    (callbacks : ∀ id, (second.batches.lists (.inr id)).Sublist (first.batches.lists (.inr id)))
    (resources : first.resources.next ≤ second.resources.next)
    (later : first.frameCallbacks.next ≤ second.frameCallbacks.next)
    (live : ∀ item, (first.resources.cell item).isSome = true → (second.resources.cell item).isSome = true) :
    KeepsWaiting first second where
  lists place := by
    cases place with
    | inl id => exact surfaces id
    | inr id => exact callbacks id
  resources := resources
  later := later
  live _ item _ := live item

theorem KeepsWaiting.refl (scene : Scene) : KeepsWaiting scene scene :=
  ⟨fun _ => .refl _, Nat.le_refl _, Nat.le_refl _, fun _ _ _ => id⟩

theorem KeepsWaiting.trans (one : KeepsWaiting first second) (two : KeepsWaiting second third) : KeepsWaiting first third where
  lists place := (two.lists place).trans (one.lists place)
  resources := Nat.le_trans one.resources two.resources
  later := Nat.le_trans one.later two.later
  live place item member live := two.live place item member (one.live place item ((two.lists place).subset member) live)

theorem KeepsWaiting.moves (kept : KeepsWaiting first second) : first.batches.Moves second.batches :=
  .single (.drop kept.lists kept.resources kept.later)

theorem KeepsObjects.batches (kept : KeepsObjects first second) : second.batches = first.batches := by
  have lists : second.batches.lists = first.batches.lists := by
    funext place
    cases place with
    | inl id =>
        have same := congrArg (fun view => (view.map Prod.snd).getD []) (kept.pointers id)
        simp only [Option.map_map] at same
        exact same
    | inr id => exact congrArg (fun heap => ((heap.cell id).map FrameCallbacks.list).getD []) kept.callbacks
  change Batches.mk second.batches.lists second.resources.next second.frameCallbacks.next = _
  rw [lists, kept.resources, kept.callbacks]
  rfl

theorem KeepsObjects.waiting (kept : KeepsObjects first second) : KeepsWaiting first second where
  lists _ := kept.batches ▸ .refl _
  resources := kept.resources ▸ Nat.le_refl _
  later := kept.callbacks ▸ Nat.le_refl _
  live _ _ _ live := kept.resources ▸ live

theorem KeepsWaiting.createResource (scene : Scene) (client : WlClientId) (role : Role) :
    KeepsWaiting scene (scene.createResource client role).1 := by
  refine .drop (fun _ => .refl _) (fun _ => .refl _) (Nat.le_succ _) (Nat.le_refl _) fun item live => ?_
  obtain ⟨record, present⟩ := Option.isSome_iff_exists.mp live
  have kept := scene.resources.cell_alloc_of_live ⟨client, role⟩ present
  exact Option.isSome_iff_exists.mpr ⟨record, kept⟩

theorem KeepsWaiting.setForward (scene : Scene) (id : SurfaceId) {change : ForwardSurface → ForwardSurface}
    (callbacks : ∀ surface, scene.forwardSurfaces.cell id = some surface →
      (change surface).frameCallbacks = surface.frameCallbacks) : KeepsWaiting scene (scene.setForward id change) := by
  refine .drop (fun other => ?_) (fun _ => .refl _) (Nat.le_refl _) (Nat.le_refl _) fun _ live => live
  have same := scene.forwardSurfaces.view_modify id change ForwardSurface.frameCallbacks callbacks other
  have lists : (scene.setForward id change).batches.lists (.inl other) = scene.batches.lists (.inl other) :=
    congrArg (Option.getD · []) same
  rw [lists]

theorem KeepsWaiting.createSurface (scene : Scene) (client : WlClientId) (version : Nat) :
    KeepsWaiting scene (compositorCreateSurface scene client version) := by
  refine .drop (fun id => ?_) (fun _ => .refl _) (Nat.le_refl _) (Nat.le_refl _) fun _ live => live
  change (((scene.forwardSurfaces.alloc _).cell id |>.map ForwardSurface.frameCallbacks).getD []).Sublist _
  rw [Heap.cell_alloc]
  split
  · exact List.nil_sublist _
  · exact .refl _

theorem KeepsWaiting.allotted {effects : List Effect} {client : WlClientId} (allotted : Allotted effects client first second)
    (kept : ∀ effect ∈ effects, effect ∉ objectEffects) : KeepsWaiting first second := by
  obtain ⟨middle, role, before, _, _, after⟩ := allotted
  have made := (KeepsObjects.of_changes before kept).waiting.trans (.createResource middle client role)
  exact made.trans (KeepsObjects.of_changes after kept).waiting

theorem KeepsWaiting.extended {client : WlClientId} {kind : ObjectKind} {id : SurfaceId}
    (extended : Extended client kind id first second) : KeepsWaiting first second := by
  obtain ⟨middle, change, before, points, after⟩ := extended
  have made := (KeepsObjects.of_changes before (by simp)).waiting.trans
    (.createResource middle client (kind.role (some id)))
  exact (made.trans (.setForward _ id fun record _ => points.callbacks record)).trans (KeepsObjects.of_changes after (by simp)).waiting

theorem KeepsWaiting.parented {client : WlClientId} {child parent : SurfaceId} :
    Ensures (subcompositorGetSubsurface scene client child parent) (KeepsWaiting scene) := by
  refine (subcompositorGetSubsurface_parents client child parent).weaken fun next parents => ?_
  cases parents with
  | refused error =>
      have posted : Changes [.plugin] scene (scene.postError client error) := .postError scene client error (by simp)
      exact (KeepsObjects.of_changes posted (by simp)).waiting
  | hung =>
      have made := KeepsWaiting.createResource scene client (.subsurface (some child))
      have listed {middle : Scene} {change : SurfaceState → SurfaceState}
          (kept : ∀ pending, (change pending).unstacked = pending.unstacked) :
          Changes [.surface .tree] middle (middle.setPending parent change) :=
        .setForward .tree middle parent (fun surface => by simp only [SurfaceGroup.mask, kept]) (by simp)
      refine (made.trans (.setForward _ child ?_)).trans (KeepsObjects.of_changes (listed ?_) (by simp)).waiting
      · exact fun _ _ => rfl
      · exact fun _ => rfl

theorem batches_passed {id : SurfaceId} {callbacks : List ResourceId} (swaySurface : Option OutputId)
    (collected : scene.batches.lists (.inl id) = callbacks) :
    (Scene.setForward { scene with frameCallbacks := scene.frameCallbacks.alloc ⟨callbacks, swaySurface⟩ } id
      fun surface => { surface with frameCallbacks := [] }).batches = scene.batches.pass id := by
  generalize found : Scene.setForward { scene with frameCallbacks := scene.frameCallbacks.alloc ⟨callbacks, swaySurface⟩ }
    id (fun surface => { surface with frameCallbacks := [] }) = passed
  have surfaces : passed.forwardSurfaces = scene.forwardSurfaces.modify id fun surface =>
    { surface with frameCallbacks := [] } := by rw [← found]; rfl
  have waiting : passed.frameCallbacks = scene.frameCallbacks.alloc ⟨callbacks, swaySurface⟩ := by rw [← found]; rfl
  have resources : passed.resources = scene.resources := by rw [← found]; rfl
  have lists : passed.batches.lists = (scene.batches.pass id).lists := by
    funext place
    rcases scene.batches.pass_lists id place with ⟨rfl, same⟩ | ⟨rfl, same⟩ | ⟨⟨new, here⟩, same⟩
    · have made := Heap.cell_alloc_next scene.frameCallbacks ⟨callbacks, swaySurface⟩
      rw [same, collected]
      rw [← waiting] at made
      exact batches_inr made
    · rw [same]
      change ((passed.forwardSurfaces.cell id).map ForwardSurface.frameCallbacks).getD [] = _
      rw [surfaces, Heap.cell_modify_self]
      cases scene.forwardSurfaces.cell id <;> rfl
    · rw [same]
      cases place with
      | inl other =>
          have apart : other ≠ id := fun equal => here (congrArg Sum.inl equal)
          change ((passed.forwardSurfaces.cell other).map ForwardSurface.frameCallbacks).getD [] = _
          rw [surfaces, Heap.cell_modify_other _ _ apart]
          rfl
      | inr other =>
          have apart : other ≠ scene.frameCallbacks.next := fun equal => new (congrArg Sum.inr equal)
          change ((passed.frameCallbacks.cell other).map FrameCallbacks.list).getD [] = _
          rw [waiting, Heap.cell_alloc, if_neg apart]
          rfl
  change Batches.mk passed.batches.lists passed.resources.next passed.frameCallbacks.next = _
  rw [lists, resources, waiting]
  rfl

namespace PassesOn

variable {id : SurfaceId}

theorem of_kept (kept : KeepsObjects first second) : PassesOn id first second := ⟨.inl kept.batches, kept.resources⟩

theorem trans (one : PassesOn id first second) (two : PassesOn id second third) : PassesOn id first third := by
  refine ⟨?_, two.resources.trans one.resources⟩
  rcases two.batches with later | ⟨some, later⟩
  · exact later ▸ one.batches
  · rcases one.batches with earlier | ⟨_, earlier⟩
    · rw [earlier] at some later
      exact .inr ⟨some, later⟩
    · rw [earlier] at some
      rcases first.batches.pass_lists id (.inl id) with ⟨new, _⟩ | ⟨_, none⟩ | ⟨⟨_, other⟩, _⟩
      · cases new
      · exact absurd none some
      · exact absurd rfl other

theorem waits (id : SurfaceId) (target : Target) : Ensures (applyFrameCallbacks scene id target) (PassesOn id scene) := by
  refine .read fun surface present => ?_
  split
  · exact .pure (.of_kept (.same rfl rfl rfl))
  · rename_i some
    refine .via (KeepsObjects scene) ?_ fun middle kept => .pure ?_
    · have sent : Changes [.upstream] scene (scene.request target .frame) :=
        .tell scene _ (by simp [Message.effect])
      refine (startFramePending_changes surface.swaySurface).weaken fun middle started => ?_
      exact (KeepsObjects.of_changes sent (by simp)).trans (.of_changes started (by simp))
    · have collected : middle.batches.lists (.inl id) = surface.frameCallbacks := by
        rw [kept.batches]
        exact batches_inl present
      refine (of_kept kept).trans ⟨.inr ⟨?_, batches_passed surface.swaySurface collected⟩, rfl⟩
      rw [collected]
      exact fun none => some (none ▸ rfl)

theorem updated {target : Target} (updated : Updated id target first second) : PassesOn id first second := by
  obtain ⟨looked, attached, damaged, stacked, framed, applied, after⟩ := updated
  have look : KeepsObjects first looked := .of_changes applied.look (by simp)
  have attachment : KeepsObjects looked attached :=
    .of_changes (applyAttachment_changes id target attached applied.attachment) (by simp)
  have damage : KeepsObjects attached damaged := .of_changes applied.damage (by simp)
  have stacking : KeepsObjects damaged stacked :=
    .of_changes (applySubsurfaces_changes id target stacked applied.stacking) (by simp)
  have kept : PassesOn id first stacked := .of_kept (((look.trans attachment).trans damage).trans stacking)
  exact (kept.trans (waits id target framed applied.frames)).trans (.of_kept (.of_changes after (by simp)))

theorem committed (id : SurfaceId) : Ensures (nestedSurfaceCommit scene id) fun result => PassesOn id scene result.1 := by
  refine (nestedSurfaceCommit_parts id).weaken fun result parts => ?_
  obtain ⟨surface, current, middle, commits⟩ := parts
  have between : PassesOn id scene middle := by
    rcases commits.nested with ⟨_, rfl⟩ | ⟨_, _, updated⟩
    · exact .of_kept (.same rfl rfl rfl)
    · exact .updated updated
  rcases commits.layer with ⟨_, changes⟩ | ⟨_, output, _, updated⟩
  · exact between.trans (.of_kept (.of_changes changes (by simp)))
  · exact between.trans (.updated updated)

end PassesOn

theorem KeepsWaiting.gone {id : SurfaceId} {surface : ForwardSurface} (gone : SurfaceGone id surface first second) :
    KeepsWaiting first second := by
  refine .drop (fun other => ?_) (fun other => ?_) (Nat.le_of_eq gone.cleared.next.symm) (gone.callbacks ▸ Nat.le_refl _)
    fun item live => (gone.cleared.live item).trans live
  · by_cases here : other = id
    · subst here
      change (((second.forwardSurfaces.cell other).map ForwardSurface.frameCallbacks).getD []).Sublist _
      rw [gone.gone]
      exact List.nil_sublist _
    · have same := congrArg (fun view => (view.map Prod.snd).getD []) (gone.pointers other here)
      simp only [Option.map_map] at same
      have lists : second.batches.lists (.inl other) = first.batches.lists (.inl other) := same
      rw [lists]
  · have lists : second.batches.lists (.inr other) = first.batches.lists (.inr other) :=
      congrArg (fun heap => ((heap.cell other).map FrameCallbacks.list).getD []) gone.callbacks
    rw [lists]

theorem batches_erased (scene : Scene) (id : ResourceId) (place : Nat ⊕ Nat) :
    (frameCallbackHandleResourceDestroy scene id).batches.lists place = (scene.batches.lists place).erase id := by
  cases place with
  | inl surface =>
      change ((scene.forwardSurfaces.mapAll _).cell surface |>.map ForwardSurface.frameCallbacks).getD [] = _
      rw [Heap.cell_mapAll]
      change _ = (((scene.forwardSurfaces.cell surface).map ForwardSurface.frameCallbacks).getD []).erase id
      cases scene.forwardSurfaces.cell surface <;> rfl
  | inr callback =>
      change ((scene.frameCallbacks.mapAll _).cell callback |>.map FrameCallbacks.list).getD [] = _
      rw [Heap.cell_mapAll]
      change _ = (((scene.frameCallbacks.cell callback).map FrameCallbacks.list).getD []).erase id
      cases scene.frameCallbacks.cell callback <;> rfl

theorem frameCallbackHandleResourceDestroy_waiting (scene : Scene) (id : ResourceId) :
    KeepsWaiting scene (frameCallbackHandleResourceDestroy scene id) := by
  refine .drop (fun surface => ?_) (fun callback => ?_) (Nat.le_refl _) (Nat.le_refl _) fun _ live => live
  · rw [batches_erased]
    exact List.erase_sublist
  · rw [batches_erased]
    exact List.erase_sublist

theorem runDestroyHandler_waiting (scene : Scene) (id : ResourceId) (role : Role) :
    Ensures (runDestroyHandler scene id role) (KeepsWaiting scene) := by
  cases role with
  | viewport user =>
      cases user with
      | none => exact .pure (.refl _)
      | some surface => exact .read fun _ _ => .pure (.setForward _ surface fun _ _ => rfl)
  | fractionalScale user =>
      cases user with
      | none => exact .pure (.refl _)
      | some surface => exact .read fun _ _ => .pure (.setForward _ surface fun _ _ => rfl)
  | colorSurface user =>
      cases user with
      | none => exact .pure (.refl _)
      | some surface => exact .read fun _ _ => .check fun _ => .pure (.setForward _ surface fun _ _ => rfl)
  | colorRepresentation user =>
      cases user with
      | none => exact .pure (.refl _)
      | some surface => exact .read fun _ _ => .check fun _ => .pure (.setForward _ surface fun _ _ => rfl)
  | subsurface user =>
      cases user with
      | none => exact .pure (.refl _)
      | some surface =>
          exact (destroySubsurfaceParts_changes surface).weaken fun _ changes =>
            (KeepsObjects.of_changes changes (by simp)).waiting
  | layerSurface output => exact .pure (.refl _)
  | output output => exact .pure (.refl _)
  | frameCallback => exact .pure (frameCallbackHandleResourceDestroy_waiting scene id)

theorem UserGuard.waits_named {hidden : Option SurfaceId} (guard : UserGuard hidden scene) {place : Nat ⊕ Nat}
    {item : ResourceId} (member : item ∈ scene.batches.lists place) : scene.Names item .frameCallback := by
  cases place with
  | inl id =>
      cases present : scene.forwardSurfaces.cell id with
      | none =>
          change item ∈ ((scene.forwardSurfaces.cell id).map ForwardSurface.frameCallbacks).getD [] at member
          rw [present] at member
          cases member
      | some surface => exact guard.requested id surface item present (batches_inl present ▸ member)
  | inr id =>
      cases present : scene.frameCallbacks.cell id with
      | none =>
          change item ∈ ((scene.frameCallbacks.cell id).map FrameCallbacks.list).getD [] at member
          rw [present] at member
          cases member
      | some record => exact guard.waiting id record item present (batches_inr present ▸ member)

theorem KeepsWaiting.destroyResource (scene : Scene) {id : ResourceId} (idle : ∀ place, id ∉ scene.batches.lists place) :
    KeepsWaiting scene (scene.destroyResource id) where
  lists _ := .refl _
  resources := Nat.le_refl _
  later := Nat.le_refl _
  live place item member live := by
    have apart : item ≠ id := fun same => idle place (same ▸ member)
    change ((scene.resources.free id).cell item).isSome = true
    rw [Heap.cell_free_other _ apart]
    exact live

theorem destroyOwned_waiting (guard : UserGuard none scene) (sound : scene.batches.Sound) (owned : Owned) :
    Ensures (destroyOwned scene owned) (KeepsWaiting scene) := by
  cases owned with
  | surface id => exact (surfaceHandleResourceDestroy_gone guard id).weaken fun _ ⟨_, gone⟩ => .gone gone
  | buffer id =>
      exact (bufferHandleResourceDestroy_changes id).weaken fun _ changes =>
        (KeepsObjects.of_changes changes (by simp)).waiting
  | imageDesc id =>
      exact (imageDescHandleResourceDestroy_changes id).weaken fun _ changes =>
        (KeepsObjects.of_changes changes (by simp)).waiting
  | resource id =>
      refine .read fun record present => ?_
      by_cases frame : record.role = .frameCallback
      · rw [frame]
        refine .pure ((frameCallbackHandleResourceDestroy_waiting scene id).trans (.destroyResource _ fun place => ?_))
        have distinct : (scene.batches.lists place).Nodup := (sound.newest place).imp Nat.ne_of_gt
        rw [batches_erased]
        exact distinct.not_mem_erase
      · refine (runDestroyHandler_waiting scene id record.role).bind fun handled kept => .pure ?_
        refine kept.trans (.destroyResource handled fun place member => ?_)
        exact frame ((guard.waits_named ((kept.lists place).subset member)).2 record present)

theorem KeepsWaiting.emptied {env : Environment} (guard : UserGuard none first) (sound : first.batches.Sound)
    (emptied : Emptied env first second) : KeepsWaiting first second := by
  obtain ⟨before, after, early, destroyed, late⟩ := emptied
  have kept := KeepsObjects.of_aside early
  have start : (UserGuard none before ∧ before.batches.Sound) ∧ KeepsWaiting before before :=
    ⟨⟨guard.keeps kept, kept.batches ▸ sound⟩, .refl before⟩
  have between : Ensures (env.owned.foldlM destroyOwned before) fun last =>
      (UserGuard none last ∧ last.batches.Sound) ∧ KeepsWaiting before last := by
    refine .foldlM_holds (fun state item start => ?_) env.owned start
    refine ((destroyOwned_guard start.1.1 item).both (destroyOwned_waiting start.1.1 start.1.2 item)).weaken ?_
    exact fun next both => ⟨⟨both.1, both.2.moves.sound start.1.2⟩, start.2.trans both.2⟩
  exact (kept.waiting.trans (between after destroyed).2).trans (KeepsObjects.of_aside late).waiting

end Scenes

section Steps

/-- Every frame callback that waits is live and waits in one place, and each that is done was done once. -/
structure CallbackGuard (scene : Scene) (done : List ResourceId) : Prop where
  delivered : scene.batches.Delivered done
  live : ∀ place, ∀ item ∈ scene.batches.lists place, (scene.resources.cell item).isSome = true

variable {scene first second : Scene} {done : List ResourceId}

theorem CallbackGuard.waiting (guard : CallbackGuard first done) (kept : KeepsWaiting first second) :
    CallbackGuard second done where
  delivered := guard.delivered.moves kept.moves
  live place item member := kept.live place item member (guard.live place item ((kept.lists place).subset member))

theorem CallbackGuard.passed (guard : CallbackGuard first done) {id : SurfaceId}
    (passed : second.batches = first.batches.pass id) (resources : second.resources = first.resources) :
    CallbackGuard second done := by
  have moves : first.batches.Moves second.batches := passed ▸ .single (.pass id)
  refine ⟨guard.delivered.moves moves, fun place item member => ?_⟩
  obtain ⟨earlier, waited⟩ := moves.held member
  exact resources ▸ guard.live earlier item waited

theorem batches_framed (client : WlClientId) {id : SurfaceId} {surface : ForwardSurface}
    (present : scene.forwardSurfaces.cell id = some surface) :
    (nestedSurfaceFrame scene client id).batches = scene.batches.push id := by
  have lists : (nestedSurfaceFrame scene client id).batches.lists = (scene.batches.push id).lists := by
    funext place
    rcases scene.batches.push_lists id place with ⟨rfl, same⟩ | ⟨here, same⟩
    · have made : (nestedSurfaceFrame scene client id).forwardSurfaces.cell id =
          some { surface with frameCallbacks := scene.resources.next :: surface.frameCallbacks } := by
        change (scene.forwardSurfaces.modify id _).cell id = _
        rw [Heap.cell_modify_self, present]
        rfl
      rw [same, batches_inl present]
      exact batches_inl made
    · rw [same]
      cases place with
      | inl other =>
          have apart : other ≠ id := fun equal => here (congrArg Sum.inl equal)
          change ((scene.forwardSurfaces.modify id _).cell other |>.map ForwardSurface.frameCallbacks).getD [] = _
          rw [Heap.cell_modify_other _ _ apart]
          rfl
      | inr other => rfl
  change Batches.mk (nestedSurfaceFrame scene client id).batches.lists (scene.resources.next + 1) _ = _
  rw [lists]
  rfl

theorem CallbackGuard.framed (guard : CallbackGuard scene done) (client : WlClientId) (id : SurfaceId) :
    CallbackGuard (nestedSurfaceFrame scene client id) done := by
  cases present : scene.forwardSurfaces.cell id with
  | none =>
      refine guard.waiting ((KeepsWaiting.createResource scene client .frameCallback).trans (.setForward _ id ?_))
      intro surface there
      exact absurd (present.symm.trans there) (by simp)
  | some surface =>
      have pushed := batches_framed client present
      refine ⟨pushed ▸ guard.delivered.push id, fun place item member => ?_⟩
      change ((scene.resources.alloc _).cell item).isSome = true
      rw [Heap.cell_alloc]
      split
      · rfl
      · rename_i older
        rw [pushed] at member
        rcases scene.batches.push_lists id place with ⟨_, same⟩ | ⟨_, same⟩
        · rw [same] at member
          rcases List.mem_cons.mp member with new | old
          · exact absurd new older
          · exact guard.live _ item old
        · exact guard.live place item (same ▸ member)

/-- The frame callbacks of a list are completed. -/
structure Completed (callbacks : List ResourceId) (first second : Scene) : Prop where
  wire : second.wire = first.wire ++ callbacks.map fun callback => .plugin (.callbackDone callback)
  surfaces : second.forwardSurfaces = first.forwardSurfaces
  waiting : second.frameCallbacks = first.frameCallbacks
  next : second.resources.next = first.resources.next
  kept : ∀ item, item ∉ callbacks → second.resources.cell item = first.resources.cell item
  destroyed : ∀ item ∈ callbacks, second.resources.cell item = none

theorem completeCallback_completed (callbacks : List ResourceId) (scene : Scene) :
    Completed callbacks scene (callbacks.foldl completeCallback scene) := by
  induction callbacks generalizing scene with
  | nil => exact ⟨(List.append_nil _).symm, rfl, rfl, rfl, fun _ _ => rfl, by simp⟩
  | cons callback callbacks ih =>
      have rest := ih (completeCallback scene callback)
      have told : (completeCallback scene callback).wire = scene.wire ++ [.plugin (.callbackDone callback)] := rfl
      refine ⟨?_, rest.surfaces, rest.waiting, rest.next, fun item apart => ?_, fun item member => ?_⟩
      · rw [List.foldl_cons, rest.wire, told, List.append_assoc]
        rfl
      · obtain ⟨other, apart⟩ := List.ne_and_not_mem_of_not_mem_cons apart
        exact (rest.kept item apart).trans (Heap.cell_free_other _ other)
      · by_cases later : item ∈ callbacks
        · exact rest.destroyed item later
        · rw [List.foldl_cons, rest.kept item later]
          rcases List.mem_cons.mp member with rfl | again
          · exact Heap.cell_free_self _ _
          · exact absurd again later

/-- The frame callbacks of a batch are sent and destroyed in their order, and the batch is gone. -/
structure BatchDone (id : CallbackId) (record : FrameCallbacks) (first second : Scene) : Prop where
  before : first.frameCallbacks.cell id = some record
  wire : second.wire = first.wire ++ record.list.map fun callback => .plugin (.callbackDone callback)
  gone : second.batches.lists (.inr id) = []
  others : ∀ place, place ≠ .inr id → second.batches.lists place = first.batches.lists place
  next : second.resources.next = first.resources.next
  later : second.frameCallbacks.next = first.frameCallbacks.next
  kept : ∀ item, item ∉ record.list → second.resources.cell item = first.resources.cell item
  destroyed : ∀ item ∈ record.list, second.resources.cell item = none

theorem bgFrameHandleDone_done (env : Environment) (id : CallbackId) :
    Ensures (bgFrameHandleDone scene env id) fun next => ∃ record, BatchDone id record scene next := by
  refine .read fun record present => (markPresented_changes env record.swaySurface).bind fun presented changes => ?_
  have objects : KeepsObjects scene presented := .of_changes changes (by simp)
  have completed := completeCallback_completed record.list presented
  have wire : presented.wire = scene.wire := by
    obtain ⟨told, grown, heard⟩ := changes.wire
    have silent : told = [] := by
      refine List.eq_nil_iff_forall_not_mem.mpr fun message member => ?_
      have effect := heard message member
      have known := message.effect_mem
      simp only [List.mem_cons, List.not_mem_nil, or_false] at effect known
      rcases effect with effect | effect <;> rw [effect] at known <;> simp at known
    rw [grown, silent, List.append_nil]
  refine .pure ⟨record, present, ?_, ?_, fun place apart => ?_, ?_, ?_, fun item apart => ?_, completed.destroyed⟩
  · exact completed.wire.trans (by rw [wire])
  · change ((Heap.free _ id).cell id |>.map FrameCallbacks.list).getD [] = []
    rw [Heap.cell_free_self]
    rfl
  · rw [← objects.batches]
    cases place with
    | inl surface =>
        exact congrArg (fun heap => ((heap.cell surface).map ForwardSurface.frameCallbacks).getD []) completed.surfaces
    | inr other =>
        have apart : other ≠ id := fun equal => apart (congrArg Sum.inr equal)
        change ((Heap.free _ id).cell other |>.map FrameCallbacks.list).getD [] = _
        rw [Heap.cell_free_other _ apart, completed.waiting]
        rfl
  · exact completed.next.trans (congrArg Heap.next objects.resources)
  · exact (congrArg Heap.next completed.waiting).trans (congrArg Heap.next objects.callbacks)
  · exact (completed.kept item apart).trans (by rw [objects.resources])

theorem CallbackGuard.completes (guard : CallbackGuard first done) {id : CallbackId} {record : FrameCallbacks}
    (step : BatchDone id record first second) : CallbackGuard second (done ++ record.list) where
  delivered := by
    rw [← batches_inr step.before]
    refine guard.delivered.deliver (fun place => ?_) (Nat.le_of_eq step.next.symm) step.gone
    by_cases here : place = .inr id
    · rw [here, step.gone]
      exact List.nil_sublist _
    · rw [step.others place here]
  live place item member := by
    have here : place ≠ .inr id := by
      rintro rfl
      rw [step.gone] at member
      cases member
    rw [step.others place here] at member
    have apart : item ∉ record.list := fun listed =>
      here (guard.delivered.sound.apart place _ item member (batches_inr step.before ▸ listed))
    rw [step.kept item apart]
    exact guard.live place item member

/-- These are the frame callbacks that an event completes. -/
def completedCallbacks (state : SwaylockState) : Event → List ResourceId
  | .scene (.backgroundFrameDone id) => ((state.scene.frameCallbacks.cell id).map FrameCallbacks.list).getD []
  | _ => []

/-- An observer lists the frame callbacks that were done. -/
def doneCallbacks (done : List ResourceId) (state : SwaylockState) (occurrence : Occurrence) : List ResourceId :=
  done ++ completedCallbacks state occurrence.event

/-- A step keeps the frame callbacks waiting, requests one, makes a batch, or completes one. -/
inductive CallbackStep (state : SwaylockState) : Event → SwaylockState → Prop
  | waiting {event : Event} {next : SwaylockState} (kept : KeepsWaiting state.scene next.scene)
      (idle : completedCallbacks state event = []) : CallbackStep state event next
  | framed {client : WlClientId} {id : SurfaceId} {next : SwaylockState}
      (same : next.scene = nestedSurfaceFrame state.scene client id) :
      CallbackStep state (.scene (.request client (.surface id .frame))) next
  | passed {client : WlClientId} {id : SurfaceId} {next : SwaylockState}
      (batches : next.scene.batches = state.scene.batches.pass id)
      (resources : next.scene.resources = state.scene.resources) :
      CallbackStep state (.scene (.request client (.surface id .commit))) next
  | completed {id : CallbackId} {record : FrameCallbacks} {next : SwaylockState}
      (step : BatchDone id record state.scene next.scene) :
      CallbackStep state (.scene (.backgroundFrameDone id)) next

theorem batchDone_of_step {state next : SwaylockState} {env : Environment} {id : CallbackId}
    (moved : swaylock.machine.step state ⟨.scene (.backgroundFrameDone id), env⟩ next) :
    ∃ record, BatchDone id record state.scene next.scene := by
  obtain ⟨scene, handled, same⟩ := bind_ok.mp moved.2
  cases same
  exact bgFrameHandleDone_done env id scene handled

theorem RequestStep.callbackStep {state next : SwaylockState} {client : WlClientId} {request : Request}
    (guard : UserGuard none state.scene) (sound : state.scene.batches.Sound)
    (step : RequestStep state.scene client request next.scene) :
    CallbackStep state (.scene (.request client request)) next := by
  generalize reached : next.scene = scene at step
  have kept (kept : KeepsWaiting state.scene scene) : CallbackStep state (.scene (.request client request)) next :=
    .waiting (reached ▸ kept) rfl
  have changed {effects : List Effect} (changes : Changes effects state.scene scene)
      (apart : ∀ effect ∈ effects, effect ∉ objectEffects) : KeepsWaiting state.scene scene :=
    (KeepsObjects.of_changes changes apart).waiting
  cases step with
  | plain changes => exact kept (changed changes (by simp))
  | bound => exact kept (.allotted (.bound _ client _) (by simp))
  | layered layered => exact kept (.allotted layered.allotted (by simp))
  | surface version => exact kept (.createSurface _ client version)
  | buffer width height => exact kept (changed (createForwardBuffer_changes _ client width height) (by simp))
  | attached _ _ handled => exact kept (changed (nestedSurfaceAttach_changes _ _ scene handled) (by simp))
  | framed id => exact .framed reached
  | committed _ handled =>
      have passes := PassesOn.committed _ _ handled
      dsimp only at passes
      rcases passes.batches with same | ⟨_, passed⟩
      · refine kept ⟨fun _ => same ▸ .refl _, passes.resources ▸ Nat.le_refl _, ?_, fun _ _ _ => passes.resources ▸ id⟩
        exact Nat.le_of_eq (congrArg Batches.nextBatch same).symm
      · exact .passed (reached ▸ passed) (reached ▸ passes.resources)
  | parented _ _ handled => exact kept (KeepsWaiting.parented scene handled)
  | extended _ extended => exact kept (.extended extended)
  | placedAbove _ _ handled => exact kept (changed (nestedSubsurfacePlaceAbove_changes client _ _ scene handled) (by simp))
  | placedBelow _ _ handled => exact kept (changed (nestedSubsurfacePlaceBelow_changes client _ _ scene handled) (by simp))
  | destroyed _ before handled =>
      have early := KeepsObjects.of_changes before (by simp)
      have late := destroyOwned_waiting (guard.keeps early) (early.batches ▸ sound) _ scene handled
      exact kept (early.waiting.trans late)

theorem callbackStep_of_step {state next : SwaylockState} {occurrence : Occurrence}
    (guard : UserGuard none state.scene) (sound : state.scene.batches.Sound)
    (moved : swaylock.machine.step state occurrence next) : CallbackStep state occurrence.event next := by
  obtain ⟨event, env⟩ := occurrence
  by_cases completes : ∃ id, event = .scene (.backgroundFrameDone id)
  · obtain ⟨id, rfl⟩ := completes
    obtain ⟨record, done⟩ := batchDone_of_step moved
    exact .completed done
  · have idle : completedCallbacks state event = [] := by
      unfold completedCallbacks
      split
      · exact absurd ⟨_, rfl⟩ completes
      · rfl
    cases objectStep_of_step moved with
    | aside changes => exact .waiting (KeepsObjects.of_aside changes).waiting idle
    | emptied _ _ _ emptied => exact .waiting (.emptied guard sound emptied) idle
    | presented => exact absurd ⟨_, rfl⟩ completes
    | request _ handled => exact (handleRequest_step _ _ next.scene handled).callbackStep guard sound

theorem CallbackGuard.step {state next : SwaylockState} {occurrence : Occurrence} (users : UserGuard none state.scene)
    (guard : CallbackGuard state.scene done) (moved : swaylock.machine.step state occurrence next) :
    CallbackGuard next.scene (doneCallbacks done state occurrence) := by
  have step := callbackStep_of_step users guard.delivered.sound moved
  obtain ⟨event, env⟩ := occurrence
  unfold doneCallbacks
  cases step with
  | waiting kept idle =>
      rw [idle, List.append_nil]
      exact guard.waiting kept
  | @framed client id _ same =>
      rw [show completedCallbacks state (.scene (.request client (.surface id .frame))) = [] from rfl, List.append_nil,
        same]
      exact guard.framed client id
  | @passed client id _ batches resources =>
      rw [show completedCallbacks state (.scene (.request client (.surface id .commit))) = [] from rfl, List.append_nil]
      exact guard.passed batches resources
  | @completed id record _ step =>
      have completed : completedCallbacks state (.scene (.backgroundFrameDone id)) = record.list := by
        change ((state.scene.frameCallbacks.cell id).map FrameCallbacks.list).getD [] = _
        rw [step.before]
        rfl
      rw [completed]
      exact guard.completes step

theorem batches_initial {state : SwaylockState} (initial : InitialState state) (place : Nat ⊕ Nat) :
    state.scene.batches.lists place = [] := by
  cases place with
  | inl id =>
      change ((state.scene.forwardSurfaces.cell id).map ForwardSurface.frameCallbacks).getD [] = []
      rw [initial.surfaces.1]
      rfl
  | inr id =>
      change ((state.scene.frameCallbacks.cell id).map FrameCallbacks.list).getD [] = []
      rw [initial.surfaces.2]
      rfl

theorem callbackGuard_of_reachable {state : SwaylockState}
    (reachable : (swaylock.machine.observed [] doneCallbacks).Reachable (state, done)) :
    CallbackGuard state.scene done := by
  refine reachable.invariant_under (fun pair => UserGuard none pair.1.scene)
    (fun pair => CallbackGuard pair.1.scene pair.2) ?_ ?_ ?_
  · exact fun pair before => userGuard_of_reachable before.of_observed
  · rintro ⟨state, done⟩ ⟨initial, rfl⟩
    refine ⟨⟨⟨?_, ?_, ?_⟩, .nil, ?_, ?_⟩, ?_⟩ <;> simp [batches_initial initial]
  · rintro ⟨state, done⟩ occurrence ⟨next, _⟩ users guard ⟨moved, rfl⟩
    exact guard.step users moved

/-- A frame callback waits in at most one place, newest first and as a live one, none that waits was done and none is done
twice, and an upstream frame callback sends and destroys those of its batch. -/
theorem callbacks_delivered {state : SwaylockState} {done : List ResourceId}
    (reachable : (swaylock.machine.observed [] doneCallbacks).Reachable (state, done)) :
    done.Nodup ∧ (∀ place, (state.scene.batches.lists place).Pairwise (· > ·) ∧
      ∀ callback ∈ state.scene.batches.lists place, callback ∉ done ∧
        (∃ record, state.scene.resources.cell callback = some record ∧ record.role = .frameCallback) ∧
        ∀ other, callback ∈ state.scene.batches.lists other → other = place) ∧
    ∀ id env next, swaylock.machine.step state ⟨.scene (.backgroundFrameDone id), env⟩ next →
      ∃ record, BatchDone id record state.scene next.scene := by
  have guard := callbackGuard_of_reachable reachable
  have users := userGuard_of_reachable reachable.of_observed
  refine ⟨guard.delivered.once, fun place => ⟨guard.delivered.sound.newest place, fun callback member => ?_⟩, ?_⟩
  · obtain ⟨record, present⟩ := Option.isSome_iff_exists.mp (guard.live place callback member)
    refine ⟨fun finished => guard.delivered.settled callback finished place member, ⟨record, present, ?_⟩, ?_⟩
    · exact (users.waits_named member).2 record present
    · exact fun other also => guard.delivered.sound.apart other place callback also member
  · exact fun id env next moved => batchDone_of_step moved

/-- A frame callback that an upstream one completes was done once, and it waits nowhere any more. -/
theorem callbacks_delivered_presented : ∃ (state : SwaylockState) (done : List ResourceId),
    done ≠ [] ∧ done.Nodup ∧ ∀ place, ∀ callback ∈ state.scene.batches.lists place, callback ∉ done := by
  obtain ⟨⟨state, done⟩, reachable, passed⟩ := swaylock.play_observed [] doneCallbacks
    ((presentingEvents ++ [Event.scene (.backgroundFrameDone 0)]).map Event.obliged)
    (fun pair => !pair.2.isEmpty) (startState_initial _ _ _)
    (by decide +kernel : ((swaylock.observed _ _).play (defaultState, _) _).any _ = true)
  obtain ⟨once, waiting, _⟩ := callbacks_delivered reachable
  exact ⟨state, done, by simpa using passed, once, fun place callback member => ((waiting place).2 callback member).1⟩

/-- A batch that waits gets no frame callback in a run. -/
theorem batches_closed {first last : SwaylockState} {events : List Occurrence}
    (reachable : swaylock.machine.Reachable first) (run : swaylock.machine.Run first events last) {id : CallbackId}
    (made : id < first.scene.frameCallbacks.next) :
    (last.scene.batches.lists (.inr id)).Sublist (first.scene.batches.lists (.inr id)) := by
  induction run with
  | rest state => exact .refl _
  | @step first middle last event events moved _ ih =>
      have users := userGuard_of_reachable reachable
      obtain ⟨done, observed⟩ := reachable.observed [] doneCallbacks
      have sound := (callbackGuard_of_reachable observed).delivered.sound
      have one : (middle.scene.batches.lists (.inr id)).Sublist (first.scene.batches.lists (.inr id)) ∧
          id < middle.scene.frameCallbacks.next := by
        generalize occurred : event.event = shown
        have step := occurred ▸ callbackStep_of_step users sound moved
        cases step with
        | waiting kept => exact ⟨kept.lists _, Nat.lt_of_lt_of_le made kept.later⟩
        | framed same =>
            rw [same]
            exact ⟨.refl _, made⟩
        | @passed _ id _ batches =>
            have moves : first.scene.batches.Moves middle.scene.batches := batches ▸ .single (.pass id)
            exact ⟨moves.closed made, Nat.lt_of_lt_of_le made moves.later.2⟩
        | @completed batch _ _ step =>
            refine ⟨?_, step.later ▸ made⟩
            by_cases here : (.inr id : Nat ⊕ Nat) = .inr batch
            · rw [here, step.gone]
              exact List.nil_sublist _
            · rw [step.others _ here]
      exact (ih (.step reachable moved) one.2).trans one.1

/-- A frame callback that is requested while a batch waits is not in the batch. -/
theorem batches_closed_frame : ∃ first last : SwaylockState, (first.scene.frameCallbacks.cell 0).isSome = true ∧
    last.scene.batches.lists (.inl 0) ≠ [] ∧
    (last.scene.batches.lists (.inr 0)).Sublist (first.scene.batches.lists (.inr 0)) := by
  obtain ⟨first, last, reachable, moved, passed⟩ := swaylock.play_step (presentingEvents.map Event.obliged)
    (Event.obliged (.scene (.request 0 (.surface 0 .frame))))
    (fun first last => (first.scene.frameCallbacks.cell 0).isSome && !(last.scene.batches.lists (.inl 0)).isEmpty)
    (startState_initial _ _ _) (by decide +kernel : (swaylock.play defaultState _).any _ = true)
  obtain ⟨waiting, requested⟩ := Bool.and_eq_true_iff.mp passed
  obtain ⟨record, present⟩ := Option.isSome_iff_exists.mp waiting
  refine ⟨first, last, waiting, by simpa using requested, ?_⟩
  exact batches_closed reachable (.step moved (.rest _)) (first.scene.frameCallbacks.live_below present)

end Steps

end SwaylockPlugin
