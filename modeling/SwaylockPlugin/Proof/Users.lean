import SwaylockPlugin.Proof.Parts

namespace SwaylockPlugin

open Library

/-- A surface points to its objects and lists the frame callbacks that it requested. -/
def ForwardSurface.pointers (surface : ForwardSurface) : List (Option ResourceId) × List ResourceId :=
  ([surface.viewport, surface.fractionalScale, surface.colorSurface, surface.colorRepresentation, surface.subsurface],
    surface.frameCallbacks)

theorem ObjectKind.pointer_congr {one two : ForwardSurface} (same : one.pointers = two.pointers) (kind : ObjectKind) :
    kind.pointer one = kind.pointer two := by
  simp only [ForwardSurface.pointers, Prod.mk.injEq, List.cons.injEq, and_true] at same
  obtain ⟨⟨viewport, scale, color, representation, subsurface⟩, _⟩ := same
  cases kind with
  | viewport => exact viewport
  | fractionalScale => exact scale
  | colorSurface => exact color
  | colorRepresentation => exact representation
  | subsurface => exact subsurface

/-- A resource that was made with a role has it for as long as it is live. -/
def Scene.Names (scene : Scene) (resource : ResourceId) (role : Role) : Prop :=
  resource < scene.resources.next ∧ ∀ record, scene.resources.cell resource = some record → record.role = role

/-- Every surface but a hidden one points to objects that have it as user data, and frame callbacks are that only. -/
structure UserGuard (hidden : Option SurfaceId) (scene : Scene) : Prop where
  objects : ∀ id surface kind resource, scene.forwardSurfaces.cell id = some surface → hidden ≠ some id →
    ObjectKind.pointer kind surface = some resource → scene.Names resource (kind.role (some id))
  requested : ∀ id surface resource, scene.forwardSurfaces.cell id = some surface →
    resource ∈ surface.frameCallbacks → scene.Names resource .frameCallback
  waiting : ∀ id callbacks resource, scene.frameCallbacks.cell id = some callbacks →
    resource ∈ callbacks.list → scene.Names resource .frameCallback

/-- Resources grow older when some are made or destroyed and none changes its role. -/
structure Older (first second : Heap Resource) : Prop where
  next : first.next ≤ second.next
  cell : ∀ id record, id < first.next → second.cell id = some record → first.cell id = some record

namespace Older

theorem refl (heap : Heap Resource) : Older heap heap := ⟨Nat.le_refl _, fun _ _ _ present => present⟩

theorem alloc (heap : Heap Resource) (record : Resource) : Older heap (heap.alloc record) where
  next := Nat.le_succ _
  cell id found below present := by
    rw [Heap.cell_alloc, if_neg (Nat.ne_of_lt below)] at present
    exact present

theorem free (heap : Heap Resource) (target : ResourceId) : Older heap (heap.free target) where
  next := Nat.le_refl _
  cell id found below present := by
    rw [Heap.cell_free] at present
    split at present
    · cases present
    · exact present

theorem names {first second : Scene} (older : Older first.resources second.resources) {resource : ResourceId}
    {role : Role} (names : first.Names resource role) : second.Names resource role :=
  ⟨Nat.lt_of_lt_of_le names.1 older.next,
    fun record present => names.2 record (older.cell resource record names.1 present)⟩

end Older

theorem Scene.names_created (scene : Scene) (client : WlClientId) (role : Role) :
    (scene.createResource client role).1.Names scene.resources.next role := by
  refine ⟨Nat.lt_succ_self _, fun record present => ?_⟩
  have made := Heap.cell_alloc_next scene.resources ⟨client, role⟩
  rw [show (scene.createResource client role).1.resources.cell scene.resources.next = _ from made] at present
  cases present
  rfl

/-- These effects touch the pointers of the surfaces, the lists of frame callbacks or the resources. -/
abbrev objectEffects : List Effect :=
  [.surface .objects, .surface .frames, .createSurface, .freeSurface, .resource, .callbacks, .await]

/-- The pointers and the resources are kept. -/
structure KeepsObjects (first second : Scene) : Prop where
  pointers : ∀ id, (second.forwardSurfaces.cell id).map ForwardSurface.pointers =
    (first.forwardSurfaces.cell id).map ForwardSurface.pointers
  resources : second.resources = first.resources
  callbacks : second.frameCallbacks = first.frameCallbacks

namespace KeepsObjects

variable {first second third : Scene}

theorem same (forward : second.forwardSurfaces = first.forwardSurfaces) (resources : second.resources = first.resources)
    (callbacks : second.frameCallbacks = first.frameCallbacks) : KeepsObjects first second :=
  ⟨fun id => by rw [forward], resources, callbacks⟩

theorem trans (one : KeepsObjects first second) (two : KeepsObjects second third) : KeepsObjects first third where
  pointers id := (two.pointers id).trans (one.pointers id)
  resources := two.resources.trans one.resources
  callbacks := two.callbacks.trans one.callbacks

theorem of_changes {effects : List Effect} (changes : Changes effects first second)
    (surface : ∀ effect ∈ effects, effect ∉ objectEffects) :
    KeepsObjects first second where
  pointers := by
    refine (changes.surfaces ForwardSurface.pointers (fun group listed record => ?_) ?_ ?_).1
    · cases group with
      | objects | frames => exact absurd (by simp) (surface _ listed)
      | _ => rfl
    · exact fun listed => surface _ listed (by simp)
    · exact fun listed => surface _ listed (by simp)
  resources := changes.resources fun listed => surface _ listed (by simp)
  callbacks := changes.callbacks (fun listed => surface _ listed (by simp)) fun listed => surface _ listed (by simp)

theorem of_aside (aside : Aside first second) : KeepsObjects first second where
  pointers id := by
    have masked := congrArg (Option.map ForwardSurface.pointers) (aside.forward id)
    simp only [Option.map_map] at masked
    exact masked
  resources := aside.resources
  callbacks := aside.callbacks

theorem old (keeps : KeepsObjects first second) {id : SurfaceId} {surface : ForwardSurface}
    (present : second.forwardSurfaces.cell id = some surface) :
    ∃ before, first.forwardSurfaces.cell id = some before ∧ before.pointers = surface.pointers := by
  have same := keeps.pointers id
  rw [present, Option.map_some] at same
  exact Option.map_eq_some_iff.mp same.symm

end KeepsObjects

namespace UserGuard

variable {hidden : Option SurfaceId} {first second : Scene}

theorem advance (guard : UserGuard hidden first) (older : Older first.resources second.resources)
    (objects : ∀ id surface kind resource, second.forwardSurfaces.cell id = some surface → hidden ≠ some id →
      ObjectKind.pointer kind surface = some resource → (∃ before, first.forwardSurfaces.cell id = some before ∧
        kind.pointer before = some resource) ∨ second.Names resource (kind.role (some id)))
    (requested : ∀ id surface resource, second.forwardSurfaces.cell id = some surface →
      resource ∈ surface.frameCallbacks → (∃ before, first.forwardSurfaces.cell id = some before ∧
        resource ∈ before.frameCallbacks) ∨ second.Names resource .frameCallback)
    (waiting : ∀ id callbacks resource, second.frameCallbacks.cell id = some callbacks → resource ∈ callbacks.list →
      (∃ before, first.frameCallbacks.cell id = some before ∧ resource ∈ before.list) ∨
        second.Names resource .frameCallback) : UserGuard hidden second where
  objects id surface kind resource present shown pointer := by
    rcases objects id surface kind resource present shown pointer with ⟨before, there, same⟩ | named
    · exact older.names (guard.objects id before kind resource there shown same)
    · exact named
  requested id surface resource present member := by
    rcases requested id surface resource present member with ⟨before, there, same⟩ | named
    · exact older.names (guard.requested id before resource there same)
    · exact named
  waiting id callbacks resource present member := by
    rcases waiting id callbacks resource present member with ⟨before, there, same⟩ | named
    · exact older.names (guard.waiting id before resource there same)
    · exact named

theorem keeps (guard : UserGuard hidden first) (kept : KeepsObjects first second) : UserGuard hidden second := by
  refine guard.advance (kept.resources ▸ .refl _) ?_ ?_ ?_
  · intro id surface kind resource present _ pointer
    obtain ⟨before, there, same⟩ := kept.old present
    refine .inl ⟨before, there, ?_⟩
    exact (ObjectKind.pointer_congr same kind).trans pointer
  · intro id surface resource present member
    obtain ⟨before, there, same⟩ := kept.old present
    refine .inl ⟨before, there, ?_⟩
    have lists : before.frameCallbacks = surface.frameCallbacks := congrArg Prod.snd same
    rw [lists]
    exact member
  · intro id callbacks resource present member
    rw [kept.callbacks] at present
    exact .inl ⟨callbacks, present, member⟩

theorem setForward (guard : UserGuard hidden first) (id : SurfaceId) {change : ForwardSurface → ForwardSurface}
    (objects : ∀ surface kind resource, first.forwardSurfaces.cell id = some surface →
      ObjectKind.pointer kind (change surface) = some resource →
      kind.pointer surface = some resource ∨ first.Names resource (kind.role (some id)))
    (requested : ∀ surface resource, first.forwardSurfaces.cell id = some surface →
      resource ∈ (change surface).frameCallbacks →
      resource ∈ surface.frameCallbacks ∨ first.Names resource .frameCallback) :
    UserGuard hidden (first.setForward id change) := by
  have same {resource : ResourceId} {role : Role} (names : first.Names resource role) :
      (first.setForward id change).Names resource role := names
  refine guard.advance (.refl _) ?_ ?_ fun _ callbacks _ present member => .inl ⟨callbacks, present, member⟩
  · intro other surface kind resource present _ pointer
    obtain ⟨before, there, ⟨rfl, rfl⟩ | ⟨_, rfl⟩⟩ := Heap.old_of_modify _ present
    · exact (objects before kind resource there pointer).imp (fun old => ⟨before, there, old⟩) same
    · exact .inl ⟨surface, there, pointer⟩
  · intro other surface resource present member
    obtain ⟨before, there, ⟨rfl, rfl⟩ | ⟨_, rfl⟩⟩ := Heap.old_of_modify _ present
    · exact (requested before resource there member).imp (fun old => ⟨before, there, old⟩) same
    · exact .inl ⟨surface, there, member⟩

theorem resources (guard : UserGuard hidden first) {heap : Heap Resource} (older : Older first.resources heap) :
    UserGuard hidden { first with resources := heap } :=
  guard.advance older (fun _ surface _ _ present _ pointer => .inl ⟨surface, present, pointer⟩)
    (fun _ surface _ present member => .inl ⟨surface, present, member⟩)
    fun _ callbacks _ present member => .inl ⟨callbacks, present, member⟩

theorem createResource (guard : UserGuard hidden first) (client : WlClientId) (role : Role) :
    UserGuard hidden (first.createResource client role).1 :=
  guard.resources (.alloc first.resources ⟨client, role⟩)

theorem destroyResource (guard : UserGuard hidden first) (id : ResourceId) :
    UserGuard hidden (first.destroyResource id) :=
  guard.resources (.free first.resources id)

theorem plain (guard : UserGuard hidden first) (changes : Changes plainEffects first second) : UserGuard hidden second :=
  guard.keeps (.of_changes changes (by simp))

theorem createSurface (guard : UserGuard hidden first) (client : WlClientId) (version : Nat) :
    UserGuard hidden (compositorCreateSurface first client version) := by
  refine guard.advance (.refl _) ?_ ?_ fun _ callbacks _ present member => .inl ⟨callbacks, present, member⟩
  · intro id surface kind resource present _ pointer
    change (first.forwardSurfaces.alloc _).cell id = some surface at present
    rw [Heap.cell_alloc] at present
    split at present
    · cases present
      cases kind <;> cases pointer
    · exact .inl ⟨surface, present, pointer⟩
  · intro id surface resource present member
    change (first.forwardSurfaces.alloc _).cell id = some surface at present
    rw [Heap.cell_alloc] at present
    split at present
    · cases present
      cases member
    · exact .inl ⟨surface, present, member⟩

theorem allotted (guard : UserGuard hidden first) {effects : List Effect} {client : WlClientId}
    (allotted : Allotted effects client first second) (kept : ∀ effect ∈ effects, effect ∉ objectEffects) :
    UserGuard hidden second := by
  obtain ⟨middle, role, before, _, _, after⟩ := allotted
  exact ((guard.keeps (.of_changes before kept)).createResource client role).keeps (.of_changes after kept)

theorem extended (guard : UserGuard hidden first) {client : WlClientId} {kind : ObjectKind} {id : SurfaceId}
    (extended : Extended client kind id first second) : UserGuard hidden second := by
  obtain ⟨middle, change, before, points, after⟩ := extended
  refine UserGuard.plain (setForward ((guard.plain before).createResource client _) id ?_ ?_) after
  · intro surface other resource _ pointer
    by_cases same : other = kind
    · rw [same, points.pointer, Option.some.injEq] at pointer
      rw [same, ← pointer]
      exact .inr (middle.names_created client _)
    · rw [points.others surface other same] at pointer
      exact .inl pointer
  · intro surface resource _ member
    rw [points.callbacks] at member
    exact .inl member

theorem framed (guard : UserGuard hidden first) (client : WlClientId) (id : SurfaceId) :
    UserGuard hidden (nestedSurfaceFrame first client id) := by
  refine setForward (guard.createResource client .frameCallback) id ?_ ?_
  · intro surface kind resource _ pointer
    cases kind <;> exact .inl pointer
  · intro surface resource _ member
    rcases List.mem_cons.mp member with rfl | member
    · exact .inr (first.names_created client .frameCallback)
    · exact .inl member

theorem parented (guard : UserGuard hidden first) {client : WlClientId} {child parent : SurfaceId} :
    Ensures (subcompositorGetSubsurface first client child parent) (UserGuard hidden) := by
  refine (subcompositorGetSubsurface_parents client child parent).weaken fun next parents => ?_
  cases parents with
  | refused error => exact guard.plain (.postError first client error (by simp))
  | hung =>
      have listed {middle : Scene} {change : SurfaceState → SurfaceState}
          (kept : ∀ pending, (change pending).unstacked = pending.unstacked) :
          Changes [.surface .tree] middle (middle.setPending parent change) :=
        .setForward .tree middle parent (fun surface => by simp only [SurfaceGroup.mask, kept]) (by simp)
      refine keeps (setForward (guard.createResource client (.subsurface (some child))) child ?_ ?_)
        (.of_changes (listed fun _ => rfl) (by simp))
      · intro surface kind resource _ pointer
        cases kind with
        | subsurface =>
            rw [← Option.some.inj pointer]
            exact .inr (first.names_created client _)
        | _ => exact .inl pointer
      · exact fun _ _ _ member => .inl member

theorem waits (guard : UserGuard hidden first) (id : SurfaceId) (target : Target) :
    Ensures (applyFrameCallbacks first id target) (UserGuard hidden) := by
  refine .read fun surface present => ?_
  split
  · exact .pure guard
  · refine .via (KeepsObjects first) ?_ fun middle kept => .pure ?_
    · have sent : Changes [.upstream] first (first.request target .frame) :=
        .tell first _ (by simp [Message.effect])
      refine (startFramePending_changes surface.swaySurface).weaken fun middle started => ?_
      exact (KeepsObjects.of_changes sent (by simp)).trans (.of_changes started (by simp))
    · have before := guard.keeps kept
      obtain ⟨record, there, same⟩ : ∃ record, middle.forwardSurfaces.cell id = some record ∧
          record.frameCallbacks = surface.frameCallbacks := by
        have pointers := kept.pointers id
        rw [present, Option.map_some] at pointers
        obtain ⟨record, there, same⟩ := Option.map_eq_some_iff.mp pointers
        exact ⟨record, there, congrArg Prod.snd same⟩
      have waiting : UserGuard hidden { middle with
          frameCallbacks := middle.frameCallbacks.alloc ⟨surface.frameCallbacks, surface.swaySurface⟩ } := by
        refine before.advance (.refl _) (fun _ found _ _ present _ pointer =>
          .inl ⟨found, present, pointer⟩) (fun _ found _ present member => .inl ⟨found, present, member⟩) ?_
        intro other callbacks resource present member
        change (middle.frameCallbacks.alloc _).cell other = some callbacks at present
        rw [Heap.cell_alloc] at present
        split at present
        · cases present
          exact .inr (before.requested id record resource there (same ▸ member))
        · exact .inl ⟨callbacks, present, member⟩
      refine waiting.setForward id ?_ fun _ _ _ member => (by cases member)
      intro found kind resource _ pointer
      cases kind <;> exact .inl pointer

theorem updated (guard : UserGuard hidden first) {id : SurfaceId} {target : Target}
    (updated : Updated id target first second) : UserGuard hidden second := by
  obtain ⟨looked, attached, damaged, stacked, framed, applied, after⟩ := updated
  have look : KeepsObjects first looked := .of_changes applied.look (by simp)
  have attachment : KeepsObjects looked attached :=
    .of_changes (applyAttachment_changes id target attached applied.attachment) (by simp)
  have damage : KeepsObjects attached damaged := .of_changes applied.damage (by simp)
  have stacking : KeepsObjects damaged stacked :=
    .of_changes (applySubsurfaces_changes id target stacked applied.stacking) (by simp)
  have waiting := guard.keeps (((look.trans attachment).trans damage).trans stacking)
  exact (waiting.waits id target framed applied.frames).plain after

theorem committed (guard : UserGuard hidden first) (id : SurfaceId) :
    Ensures (nestedSurfaceCommit first id) fun result => UserGuard hidden result.1 := by
  refine (nestedSurfaceCommit_parts id).weaken fun result parts => ?_
  obtain ⟨surface, current, middle, commits⟩ := parts
  have between : UserGuard hidden middle := by
    rcases commits.nested with ⟨_, rfl⟩ | ⟨_, _, updated⟩
    · exact guard
    · exact guard.updated updated
  rcases commits.layer with ⟨_, changes⟩ | ⟨_, output, _, updated⟩
  · exact between.plain changes
  · exact between.updated updated

end UserGuard

section Destruction

/-- The objects of a surface lose it as their user data, and every other resource keeps its role. -/
structure Cleared (id : SurfaceId) (first second : Heap Resource) : Prop where
  next : second.next = first.next
  live : ∀ resource, (second.cell resource).isSome = (first.cell resource).isSome
  cell : ∀ resource record, second.cell resource = some record → first.cell resource = some record ∨
    ∃ old kind, first.cell resource = some old ∧ old.role = ObjectKind.role kind (some id) ∧
      record.role = kind.role none

namespace Cleared

variable {id : SurfaceId} {first second third : Heap Resource}

theorem refl (heap : Heap Resource) : Cleared id heap heap := ⟨rfl, fun _ => rfl, fun _ _ present => .inl present⟩

theorem other (cleared : Cleared id first second) {resource : ResourceId} {record : Resource}
    (present : first.cell resource = some record) (apart : ∀ kind, record.role ≠ ObjectKind.role kind (some id)) :
    second.cell resource = some record := by
  have live := cleared.live resource
  rw [present, Option.isSome_some, Option.isSome_iff_exists] at live
  obtain ⟨found, there⟩ := live
  rcases cleared.cell resource found there with same | ⟨old, kind, before, role, _⟩
  · rw [there, ← same, present]
  · rw [present, Option.some.injEq] at before
    exact absurd (before ▸ role) (apart kind)

theorem trans (one : Cleared id first second) (two : Cleared id second third) : Cleared id first third where
  next := two.next.trans one.next
  live resource := (two.live resource).trans (one.live resource)
  cell resource record present := by
    rcases two.cell resource record present with same | ⟨old, kind, there, role, gone⟩
    · exact one.cell resource record same
    · rcases one.cell resource old there with same | ⟨older, earlier, _, _, cleared⟩
      · exact .inr ⟨old, kind, same, role, gone⟩
      · have roles := role.symm.trans cleared
        exact absurd (ObjectKind.role_inj roles).2 nofun

theorem single {heap : Heap Resource} {resource : ResourceId} {kind : ObjectKind}
    (named : ∀ record, heap.cell resource = some record → record.role = kind.role (some id)) :
    Cleared id heap (heap.modify resource fun record => { record with role := kind.role none }) where
  next := rfl
  live other := by
    rw [Heap.cell_modify]
    split
    · exact Option.isSome_map
    · rfl
  cell other record present := by
    obtain ⟨old, there, ⟨rfl, rfl⟩ | ⟨_, rfl⟩⟩ := heap.old_of_modify present
    · exact .inr ⟨old, kind, there, named old there, rfl⟩
    · exact .inl there

end Cleared

theorem clearUserData_cases {scene : Scene} (role : Role) (pointer : Option ResourceId) :
    Ensures (clearUserData scene role pointer) fun next => pointer = none ∧ next = scene ∨
      ∃ resource record, pointer = some resource ∧ scene.resources.cell resource = some record ∧
        next = scene.setRole resource role := by
  cases pointer with
  | none => exact .pure (.inl ⟨rfl, rfl⟩)
  | some resource => exact .read fun record present => .pure (.inr ⟨resource, record, rfl, present, rfl⟩)

theorem clearObjects_cleared {id : SurfaceId} {surface : ForwardSurface} (kinds : List ObjectKind)
    (once : kinds.Nodup) (scene : Scene) (named : ∀ kind ∈ kinds, ∀ resource, kind.pointer surface = some resource →
      scene.Names resource (kind.role (some id))) :
    Ensures (clearObjects surface kinds scene) fun last => last = { scene with resources := last.resources } ∧
      Cleared id scene.resources last.resources ∧ ∀ kind ∈ kinds, ∀ resource, kind.pointer surface = some resource →
        ∃ record, last.resources.cell resource = some record ∧ record.role = kind.role none := by
  induction kinds generalizing scene with
  | nil => exact .pure ⟨rfl, .refl _, nofun⟩
  | cons kind kinds ih =>
      obtain ⟨fresh, once⟩ := List.nodup_cons.mp once
      unfold clearObjects
      rw [List.foldlM_cons]
      refine (clearUserData_cases (kind.role none) (kind.pointer surface)).bind fun next cleared => ?_
      rcases cleared with ⟨none_, rfl⟩ | ⟨resource, record, pointer, present, rfl⟩
      · refine (ih once next fun other member => named other (List.mem_cons_of_mem _ member)).weaken ?_
        rintro last ⟨same, cleared, gone⟩
        refine ⟨same, cleared, fun other member resource pointer => ?_⟩
        rcases List.mem_cons.mp member with rfl | member
        · rw [none_] at pointer
          cases pointer
        · exact gone other member resource pointer
      · have names := named kind List.mem_cons_self resource pointer
        have single : Cleared id scene.resources (scene.setRole resource (kind.role none)).resources :=
          .single names.2
        have made : (scene.setRole resource (kind.role none)).resources.cell resource =
            some { record with role := kind.role none } := by
          change (scene.resources.modify resource _).cell resource = _
          rw [Heap.cell_modify_self, present, Option.map_some]
        refine (ih once (scene.setRole resource (kind.role none)) ?_).weaken ?_
        · intro other member found pointer_
          have old := named other (List.mem_cons_of_mem _ member) found pointer_
          have apart : found ≠ resource := by
            rintro rfl
            have roles := (names.2 record present).symm.trans (old.2 record present)
            exact fresh ((ObjectKind.role_inj roles).1 ▸ member)
          refine ⟨old.1, fun after there => old.2 after ?_⟩
          change (scene.resources.modify resource _).cell found = some after at there
          rw [Heap.cell_modify_other _ _ apart] at there
          exact there
        · rintro last ⟨same, cleared, gone⟩
          refine ⟨same, single.trans cleared, fun other member found pointer_ => ?_⟩
          rcases List.mem_cons.mp member with rfl | member
          · rw [pointer, Option.some.injEq] at pointer_
            subst pointer_
            refine ⟨_, cleared.other made fun earlier roles => ?_, rfl⟩
            exact absurd (ObjectKind.role_inj roles).2 nofun
          · exact gone other member found pointer_

/-- The end of a surface clears its objects and leaves the pointers of the other surfaces alone. -/
structure SurfaceGone (id : SurfaceId) (surface : ForwardSurface) (first last : Scene) : Prop where
  before : first.forwardSurfaces.cell id = some surface
  gone : last.forwardSurfaces.cell id = none
  pointers : ∀ other, other ≠ id → (last.forwardSurfaces.cell other).map ForwardSurface.pointers =
    (first.forwardSurfaces.cell other).map ForwardSurface.pointers
  cleared : Cleared id first.resources last.resources
  objects : ∀ kind resource, ObjectKind.pointer kind surface = some resource →
    ∃ record, last.resources.cell resource = some record ∧ record.role = kind.role none
  callbacks : last.frameCallbacks = first.frameCallbacks

theorem surfaceHandleResourceDestroy_gone {scene : Scene} (guard : UserGuard none scene) (id : SurfaceId) :
    Ensures (surfaceHandleResourceDestroy scene id) fun last => ∃ surface, SurfaceGone id surface scene last := by
  refine (surfaceHandleResourceDestroy_parts id).weaken fun last parts => ?_
  obtain ⟨surface, hidden, released, detached, undescribed, cleared, parted, destroys⟩ := parts
  have kept : KeepsObjects scene undescribed := .of_changes destroys.leaves (by simp)
  have named (kind : ObjectKind) (resource : ResourceId) (pointer : kind.pointer surface = some resource) :
      undescribed.Names resource (kind.role (some id)) := by
    have names := guard.objects id surface kind resource destroys.before nofun pointer
    unfold Scene.Names
    rw [kept.resources]
    exact names
  have once : ObjectKind.all.Nodup := by decide
  obtain ⟨same, clear, objects⟩ :=
    clearObjects_cleared ObjectKind.all once undescribed (fun kind _ => named kind) cleared destroys.objects
  have tree : KeepsObjects cleared parted :=
    .of_changes (destroySubsurfaceParts_changes id parted destroys.tree) (by simp)
  have resources : last.resources = cleared.resources := by
    rw [destroys.freed]
    exact tree.resources
  refine ⟨surface, destroys.before, ?_, fun other apart => ?_, ?_, fun kind resource pointer => ?_, ?_⟩
  · rw [destroys.freed]
    exact Heap.cell_free_self _ _
  · have heap : cleared.forwardSurfaces = undescribed.forwardSurfaces := by rw [same]
    rw [destroys.freed]
    change ((parted.forwardSurfaces.free id).cell other).map _ = _
    rw [Heap.cell_free_other _ apart, tree.pointers, heap, kept.pointers]
  · rw [resources, ← kept.resources]
    exact clear
  · have member : kind ∈ ObjectKind.all := by cases kind <;> decide
    rw [resources]
    exact objects kind member resource pointer
  · have heap : cleared.frameCallbacks = undescribed.frameCallbacks := by rw [same]
    rw [destroys.freed]
    change parted.frameCallbacks = _
    rw [tree.callbacks, heap, kept.callbacks]

theorem UserGuard.gone {first second : Scene} (guard : UserGuard none first) {id : SurfaceId} {surface : ForwardSurface}
    (gone : SurfaceGone id surface first second) : UserGuard none second := by
  have names {resource : ResourceId} {role : Role} (named : first.Names resource role)
      (apart : ∀ kind, role ≠ ObjectKind.role kind (some id)) : second.Names resource role := by
    refine ⟨gone.cleared.next ▸ named.1, fun record present => ?_⟩
    rcases gone.cleared.cell resource record present with same | ⟨old, kind, there, before, _⟩
    · exact named.2 record same
    · exact absurd ((named.2 old there).symm.trans before) (apart kind)
  have old {other : SurfaceId} {record : ForwardSurface} (present : second.forwardSurfaces.cell other = some record) :
      other ≠ id ∧ ∃ before, first.forwardSurfaces.cell other = some before ∧ before.pointers = record.pointers := by
    have apart : other ≠ id := by
      rintro rfl
      rw [gone.gone] at present
      cases present
    refine ⟨apart, ?_⟩
    have same := gone.pointers other apart
    rw [present, Option.map_some] at same
    exact Option.map_eq_some_iff.mp same.symm
  refine ⟨fun other record kind resource present _ pointer => ?_, fun other record resource present member => ?_,
    fun other callbacks resource present member => ?_⟩
  · obtain ⟨apart, before, there, same⟩ := old present
    rw [← ObjectKind.pointer_congr same kind] at pointer
    refine names (guard.objects other before kind resource there nofun pointer) fun earlier roles => ?_
    exact apart (Option.some.inj (ObjectKind.role_inj roles).2)
  · obtain ⟨apart, before, there, same⟩ := old present
    have lists : before.frameCallbacks = record.frameCallbacks := congrArg Prod.snd same
    refine names (guard.requested other before resource there (lists ▸ member)) fun kind roles => ?_
    exact kind.role_ne_frameCallback _ roles.symm
  · rw [gone.callbacks] at present
    refine names (guard.waiting other callbacks resource present member) fun kind roles => ?_
    exact kind.role_ne_frameCallback _ roles.symm

theorem UserGuard.forgets {scene : Scene} {hidden : Option SurfaceId} (guard : UserGuard hidden scene) (id : SurfaceId)
    {change : ForwardSurface → ForwardSurface}
    (pointers : ∀ surface kind resource, ObjectKind.pointer kind (change surface) = some resource →
      kind.pointer surface = some resource)
    (callbacks : ∀ surface, (change surface).frameCallbacks = surface.frameCallbacks) :
    UserGuard hidden (scene.setForward id change) := by
  refine guard.setForward id (fun surface kind resource _ pointer => .inl (pointers surface kind resource pointer)) ?_
  intro surface resource _ member
  rw [callbacks] at member
  exact .inl member

theorem frameCallbackHandleResourceDestroy_guard {scene : Scene} {hidden : Option SurfaceId}
    (guard : UserGuard hidden scene) (id : ResourceId) :
    UserGuard hidden (frameCallbackHandleResourceDestroy scene id) := by
  refine guard.advance (.refl _) ?_ ?_ ?_
  · intro other surface kind resource present _ pointer
    change (scene.forwardSurfaces.mapAll _).cell other = some surface at present
    obtain ⟨before, there, rfl⟩ := Option.map_eq_some_iff.mp present
    refine .inl ⟨before, there, ?_⟩
    cases kind <;> exact pointer
  · intro other surface resource present member
    change (scene.forwardSurfaces.mapAll _).cell other = some surface at present
    obtain ⟨before, there, rfl⟩ := Option.map_eq_some_iff.mp present
    exact .inl ⟨before, there, List.mem_of_mem_erase member⟩
  · intro other callbacks resource present member
    change (scene.frameCallbacks.mapAll _).cell other = some callbacks at present
    obtain ⟨before, there, rfl⟩ := Option.map_eq_some_iff.mp present
    exact .inl ⟨before, there, List.mem_of_mem_erase member⟩

theorem runDestroyHandler_guard {scene : Scene} {hidden : Option SurfaceId} (guard : UserGuard hidden scene)
    (id : ResourceId) (role : Role) : Ensures (runDestroyHandler scene id role) (UserGuard hidden) := by
  cases role with
  | viewport user =>
      cases user with
      | none => exact .pure guard
      | some surface =>
          refine .read fun _ _ => .pure (guard.forgets surface ?_ fun _ => rfl)
          intro record kind resource pointer
          cases kind <;> first | exact pointer | cases pointer
  | fractionalScale user =>
      cases user with
      | none => exact .pure guard
      | some surface =>
          refine .read fun _ _ => .pure (guard.forgets surface ?_ fun _ => rfl)
          intro record kind resource pointer
          cases kind <;> first | exact pointer | cases pointer
  | colorSurface user =>
      cases user with
      | none => exact .pure guard
      | some surface =>
          refine .read fun _ _ => .check fun _ => .pure (guard.forgets surface ?_ fun _ => rfl)
          intro record kind resource pointer
          cases kind <;> first | exact pointer | cases pointer
  | colorRepresentation user =>
      cases user with
      | none => exact .pure guard
      | some surface =>
          refine .read fun _ _ => .check fun _ => .pure (guard.forgets surface ?_ fun _ => rfl)
          intro record kind resource pointer
          cases kind <;> first | exact pointer | cases pointer
  | subsurface user =>
      cases user with
      | none => exact .pure guard
      | some surface =>
          exact (destroySubsurfaceParts_changes surface).weaken fun _ changes =>
            guard.keeps (.of_changes changes (by simp))
  | layerSurface output => exact .pure guard
  | output output => exact .pure guard
  | frameCallback => exact .pure (frameCallbackHandleResourceDestroy_guard guard id)

theorem destroyOwned_guard {scene : Scene} (guard : UserGuard none scene) (owned : Owned) :
    Ensures (destroyOwned scene owned) (UserGuard none) := by
  cases owned with
  | surface id => exact (surfaceHandleResourceDestroy_gone guard id).weaken fun _ ⟨_, gone⟩ => guard.gone gone
  | buffer id =>
      exact (bufferHandleResourceDestroy_changes id).weaken fun _ changes => guard.keeps (.of_changes changes (by simp))
  | imageDesc id =>
      exact (imageDescHandleResourceDestroy_changes id).weaken fun _ changes => guard.keeps (.of_changes changes (by simp))
  | resource id =>
      refine .read fun record _ => ?_
      exact (runDestroyHandler_guard guard id record.role).bind fun handled kept => .pure (kept.destroyResource id)

theorem UserGuard.emptied {env : Environment} {first last : Scene} (guard : UserGuard none first)
    (emptied : Emptied env first last) : UserGuard none last := by
  obtain ⟨before, after, early, destroyed, late⟩ := emptied
  have kept := Ensures.foldlM_holds (fun _ item start => destroyOwned_guard start item) env.owned
    (guard.keeps (.of_aside early)) after destroyed
  exact kept.keeps (.of_aside late)

end Destruction

section Steps

theorem bgFrameHandleDone_guard {scene : Scene} {hidden : Option SurfaceId} (guard : UserGuard hidden scene)
    (env : Environment) (id : CallbackId) : Ensures (bgFrameHandleDone scene env id) (UserGuard hidden) := by
  have fold (items : List ResourceId) (scene : Scene) (start : UserGuard hidden scene) :
      UserGuard hidden (items.foldl completeCallback scene) := by
    induction items generalizing scene with
    | nil => exact start
    | cons item items ih =>
        have told : UserGuard hidden (scene.tell (.plugin (.callbackDone item))) :=
          start.keeps (.of_changes (.tell scene _ List.mem_cons_self : Changes [.done] scene _) (by simp))
        exact ih _ (told.destroyResource item)
  refine .read fun callbacks _ => (markPresented_changes env callbacks.swaySurface).bind fun presented changes => ?_
  refine .pure ((fold callbacks.list presented (guard.keeps (.of_changes changes (by simp)))).advance (.refl _)
    (fun _ surface _ _ present _ pointer => .inl ⟨surface, present, pointer⟩)
    (fun _ surface _ present member => .inl ⟨surface, present, member⟩) ?_)
  intro other waiting resource present member
  change (Heap.free _ id).cell other = some waiting at present
  rw [Heap.cell_free] at present
  split at present
  · cases present
  · exact .inl ⟨waiting, present, member⟩

theorem UserGuard.request {scene next : Scene} (guard : UserGuard none scene) {client : WlClientId} {request : Request}
    (step : RequestStep scene client request next) : UserGuard none next := by
  cases step with
  | plain changes => exact guard.plain changes
  | bound => exact guard.allotted (.bound _ client _) (by simp)
  | layered layered => exact guard.allotted layered.allotted (by simp)
  | surface version => exact guard.createSurface client version
  | buffer width height => exact guard.keeps (.of_changes (createForwardBuffer_changes _ client width height) (by simp))
  | attached _ _ handled =>
      exact guard.keeps (.of_changes (nestedSurfaceAttach_changes _ _ next handled) (by simp))
  | framed id => exact guard.framed client id
  | committed _ handled => exact guard.committed _ _ handled
  | parented _ _ handled => exact guard.parented next handled
  | extended _ extended => exact guard.extended extended
  | placedAbove _ _ handled => exact guard.keeps (.of_changes (nestedSubsurfacePlaceAbove_changes client _ _ next handled) (by simp))
  | placedBelow _ _ handled => exact guard.keeps (.of_changes (nestedSubsurfacePlaceBelow_changes client _ _ next handled) (by simp))
  | destroyed _ before handled =>
      exact destroyOwned_guard (guard.keeps (.of_changes before (by simp))) _ next handled

theorem UserGuard.step {state next : SwaylockState} {env : Environment} {event : Event}
    (guard : UserGuard none state.scene) (step : ObjectStep state env event next) : UserGuard none next.scene := by
  cases step with
  | aside changes => exact guard.keeps (.of_aside changes)
  | emptied _ _ _ emptied => exact guard.emptied emptied
  | presented handled => exact bgFrameHandleDone_guard guard env _ next.scene handled
  | request _ handled => exact guard.request (handleRequest_step _ _ next.scene handled)

theorem userGuard_initial {state : SwaylockState} (initial : InitialState state) : UserGuard none state.scene where
  objects id surface kind resource present := by
    rw [initial.surfaces.1] at present
    cases present
  requested id surface resource present := by
    rw [initial.surfaces.1] at present
    cases present
  waiting id callbacks resource present := by
    rw [initial.surfaces.2] at present
    cases present

/-- In every reachable state each surface points to objects that have it as user data. -/
theorem userGuard_of_reachable {state : SwaylockState} (reachable : swaylock.machine.Reachable state) :
    UserGuard none state.scene :=
  reachable.invariant (fun state => UserGuard none state.scene) (fun _ => userGuard_initial)
    fun _ _ _ guard moved => guard.step (objectStep_of_step moved)

end Steps

end SwaylockPlugin
