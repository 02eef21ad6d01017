import SwaylockPlugin.Proof.Tree

namespace SwaylockPlugin

open Library

/-- A list of objects loosens a bond when it has a subsurface in front of its live surface. -/
def loosens (scene : Scene) (gone : List Owned) : List Owned → Bool
  | [] => false
  | .resource id :: rest =>
      ((subsurfaceUser scene id).any fun surface =>
        (scene.forwardSurfaces.cell surface).isSome && !gone.elem (.surface surface)) ||
          loosens scene (.resource id :: gone) rest
  | owned :: rest => loosens scene (owned :: gone) rest

/-- A step destroys no subsurface in front of its live surface. -/
def surfacesFirst (state : SwaylockState) (occurrence : Occurrence) : Bool :=
  !loosens state.scene [] (destroyedObjects state occurrence)

/-- A surface is bound to its subsurface object and to its parent. -/
def ForwardSurface.bond (surface : ForwardSurface) : Option ResourceId × Option SurfaceId :=
  (surface.subsurface, surface.subsurfaceParent)

/-- A surface points to a live subsurface that has it as user data, and only a surface without a parent has none. -/
structure BondGuard (scene : Scene) : Prop where
  forward : ∀ id surface resource, scene.forwardSurfaces.cell id = some surface → surface.subsurface = some resource →
    ∃ record, scene.resources.cell resource = some record ∧ record.role = .subsurface (some id)
  backward : ∀ resource record id, scene.resources.cell resource = some record → record.role = .subsurface (some id) →
    ∃ surface, scene.forwardSurfaces.cell id = some surface ∧ surface.subsurface = some resource
  rootless : ∀ id surface, scene.forwardSurfaces.cell id = some surface → surface.subsurfaceParent = none →
    surface.subsurface = none

/-- These effects touch the subsurface objects, the tree or the resources. -/
abbrev bondEffects : List Effect :=
  [.surface .objects, .surface .tree, .createSurface, .freeSurface, .resource]

namespace BondGuard

variable {first second scene : Scene}

theorem keeps (guard : BondGuard first)
    (bonds : ∀ id, (second.forwardSurfaces.cell id).map ForwardSurface.bond =
      (first.forwardSurfaces.cell id).map ForwardSurface.bond)
    (made : ∀ resource record, first.resources.cell resource = some record →
      (∃ id, record.role = .subsurface (some id)) → second.resources.cell resource = some record)
    (old : ∀ resource record, second.resources.cell resource = some record →
      (∃ id, record.role = .subsurface (some id)) → first.resources.cell resource = some record) :
    BondGuard second := by
  have before {id : SurfaceId} {surface : ForwardSurface} (present : second.forwardSurfaces.cell id = some surface) :
      ∃ found, first.forwardSurfaces.cell id = some found ∧ found.subsurface = surface.subsurface ∧
        found.subsurfaceParent = surface.subsurfaceParent := by
    have same := bonds id
    rw [present, Option.map_some] at same
    obtain ⟨found, there, bond⟩ := Option.map_eq_some_iff.mp same.symm
    exact ⟨found, there, congrArg Prod.fst bond, congrArg Prod.snd bond⟩
  refine ⟨fun id surface resource present pointer => ?_, fun resource record id present role => ?_,
    fun id surface present root => ?_⟩
  · obtain ⟨found, there, same, _⟩ := before present
    obtain ⟨record, kept, role⟩ := guard.forward id found resource there (same.trans pointer)
    exact ⟨record, made resource record kept ⟨id, role⟩, role⟩
  · obtain ⟨surface, there, pointer⟩ := guard.backward resource record id (old resource record present ⟨id, role⟩) role
    have same := bonds id
    rw [there, Option.map_some] at same
    obtain ⟨after, found, bond⟩ := Option.map_eq_some_iff.mp same
    exact ⟨after, found, (congrArg Prod.fst bond).trans pointer⟩
  · obtain ⟨found, there, same, parent⟩ := before present
    rw [← same]
    exact guard.rootless id found there (parent.trans root)

theorem of_changes (guard : BondGuard first) {effects : List Effect} (changes : Changes effects first second)
    (apart : ∀ effect ∈ effects, effect ∉ bondEffects) : BondGuard second := by
  have resources : second.resources = first.resources := changes.resources fun listed => apart _ listed (by simp)
  refine guard.keeps ?_ (fun _ _ present _ => resources ▸ present) fun _ _ present _ => resources ▸ present
  refine (changes.surfaces ForwardSurface.bond (fun group listed surface => ?_) ?_ ?_).1
  · cases group with
    | objects | tree => exact absurd (by simp) (apart _ listed)
    | _ => rfl
  · exact fun listed => apart _ listed (by simp)
  · exact fun listed => apart _ listed (by simp)

theorem of_aside (guard : BondGuard first) (aside : Aside first second) : BondGuard second := by
  refine guard.keeps (fun id => ?_) (fun _ _ present _ => aside.resources ▸ present)
    fun _ _ present _ => aside.resources ▸ present
  have masked := congrArg (Option.map ForwardSurface.bond) (aside.forward id)
  simp only [Option.map_map] at masked
  exact masked

theorem setForward (guard : BondGuard scene) (id : SurfaceId) {change : ForwardSurface → ForwardSurface}
    (same : ∀ surface, (change surface).bond = surface.bond) : BondGuard (scene.setForward id change) :=
  guard.keeps (scene.forwardSurfaces.view_modify id change _ fun surface _ => same surface)
    (fun _ _ present _ => present) fun _ _ present _ => present

theorem createResource (guard : BondGuard scene) (client : WlClientId) {role : Role}
    (other : ∀ id, role ≠ .subsurface (some id)) : BondGuard (scene.createResource client role).1 := by
  refine guard.keeps (fun _ => rfl) (fun resource record present _ => scene.resources.cell_alloc_of_live _ present) ?_
  rintro resource record present ⟨id, bound⟩
  change (scene.resources.alloc _).cell resource = some record at present
  rw [Heap.cell_alloc] at present
  split at present
  · cases present
    exact absurd bound (other id)
  · exact present

theorem destroyResource (guard : BondGuard scene) (id : ResourceId)
    (other : ∀ record, scene.resources.cell id = some record → ∀ user, record.role ≠ .subsurface (some user)) :
    BondGuard (scene.destroyResource id) := by
  refine guard.keeps (fun _ => rfl) ?_ ?_
  · rintro resource record present ⟨user, bound⟩
    have apart : resource ≠ id := by
      rintro rfl
      exact other record present user bound
    exact (Heap.cell_free_other _ apart).trans present
  · rintro resource record present _
    change (scene.resources.free id).cell resource = some record at present
    rw [Heap.cell_free] at present
    split at present
    · cases present
    · exact present

theorem createSurface (guard : BondGuard scene) (client : WlClientId) (version : Nat) :
    BondGuard (compositorCreateSurface scene client version) := by
  have cell (id : SurfaceId) : (compositorCreateSurface scene client version).forwardSurfaces.cell id =
      if id = scene.forwardSurfaces.next then some (.allocated client version) else scene.forwardSurfaces.cell id := rfl
  refine ⟨fun id surface resource present pointer => ?_, fun resource record id present role => ?_,
    fun id surface present root => ?_⟩
  · rw [cell] at present
    split at present
    · cases present
      cases pointer
    · exact guard.forward id surface resource present pointer
  · obtain ⟨surface, there, pointer⟩ := guard.backward resource record id present role
    exact ⟨surface, scene.forwardSurfaces.cell_alloc_of_live _ there, pointer⟩
  · rw [cell] at present
    split at present
    · cases present
      rfl
    · exact guard.rootless id surface present root

theorem parented (guard : BondGuard scene) {client : WlClientId} {child parent : SurfaceId} :
    Ensures (subcompositorGetSubsurface scene client child parent) BondGuard := by
  refine (subcompositorGetSubsurface_parents client child parent).weaken fun next parents => ?_
  cases parents with
  | refused error =>
      exact guard.of_changes (.postError scene client error List.mem_cons_self : Changes [.plugin] scene _) (by simp)
  | @hung surface _ present _ root =>
      refine setForward ?_ parent fun _ => rfl
      have single {resource : ResourceId} {record : Resource} (there : scene.resources.cell resource = some record) :
          record.role ≠ .subsurface (some child) := by
        intro role
        obtain ⟨found, live, pointer⟩ := guard.backward resource record child there role
        rw [present, Option.some.injEq] at live
        rw [← live, guard.rootless child surface present root] at pointer
        cases pointer
      have made : (scene.resources.alloc ⟨client, .subsurface (some child)⟩).cell scene.resources.next =
          some ⟨client, .subsurface (some child)⟩ := Heap.cell_alloc_next _ _
      refine ⟨fun id found resource there pointer => ?_, fun resource record id there role => ?_,
        fun id found there rootless => ?_⟩
      · obtain ⟨before, start, ⟨same, rfl⟩ | ⟨_, rfl⟩⟩ := Heap.old_of_modify _ there
        · rw [← Option.some.inj pointer, same]
          exact ⟨_, made, rfl⟩
        · obtain ⟨record, kept, role⟩ := guard.forward id found resource start pointer
          exact ⟨record, scene.resources.cell_alloc_of_live _ kept, role⟩
      · change (scene.resources.alloc _).cell resource = some record at there
        rw [Heap.cell_alloc] at there
        split at there
        · rename_i same
          cases there
          cases role
          refine ⟨_, (Heap.cell_modify_self _ _ _).trans (congrArg (Option.map _) present), ?_⟩
          exact congrArg some same.symm
        · obtain ⟨found, live, pointer⟩ := guard.backward resource record id there role
          have apart : id ≠ child := by
            rintro rfl
            exact single there role
          exact ⟨found, (Heap.cell_modify_other _ _ apart).trans live, pointer⟩
      · obtain ⟨before, start, ⟨rfl, rfl⟩ | ⟨_, rfl⟩⟩ := Heap.old_of_modify _ there
        · cases rootless
        · exact guard.rootless id found start rootless

theorem gone (guard : BondGuard first) {id : SurfaceId} {surface : ForwardSurface}
    (gone : SurfaceGone id surface first second) (forest : second.forest = (first.forest.part id).put id none) :
    BondGuard second := by
  have apart {other : SurfaceId} {after : ForwardSurface} (present : second.forwardSurfaces.cell other = some after) :
      other ≠ id := by
    rintro rfl
    rw [gone.gone] at present
    cases present
  have parents {other : SurfaceId} (away : other ≠ id) :
      (second.forwardSurfaces.cell other).map ForwardSurface.subsurfaceParent =
        (first.forwardSurfaces.cell other).map ForwardSurface.subsurfaceParent := by
    have same := congrArg (Option.map Node.parent) (congrFun forest other)
    have parted : (first.forest.part id).put id none other = first.forest.part id other := if_neg away
    rw [parted, Forest.parent_of_part, if_neg away] at same
    unfold Scene.forest at same
    rw [Option.map_map, Option.map_map] at same
    exact same
  have before {other : SurfaceId} {after : ForwardSurface} (present : second.forwardSurfaces.cell other = some after) :
      ∃ found, first.forwardSurfaces.cell other = some found ∧ found.bond = after.bond := by
    have away := apart present
    have pointers := gone.pointers other away
    have parent := parents away
    rw [present, Option.map_some] at pointers parent
    obtain ⟨found, there, same⟩ := Option.map_eq_some_iff.mp pointers.symm
    rw [there, Option.map_some, Option.some.injEq] at parent
    have subsurface : found.subsurface = after.subsurface := ObjectKind.pointer_congr same .subsurface
    exact ⟨found, there, Prod.ext subsurface parent.symm⟩
  refine ⟨fun other after resource present pointer => ?_, fun resource record other present role => ?_,
    fun other after present root => ?_⟩
  · obtain ⟨found, there, bond⟩ := before present
    obtain ⟨record, live, role⟩ := guard.forward other found resource there ((congrArg Prod.fst bond).trans pointer)
    refine ⟨record, gone.cleared.other live fun kind roles => ?_, role⟩
    have same : ObjectKind.role .subsurface (some other) = kind.role (some id) := role.symm.trans roles
    exact apart present (Option.some.inj (ObjectKind.role_inj same).2)
  · rcases gone.cleared.cell resource record present with same | ⟨_, kind, _, _, cleared⟩
    · obtain ⟨found, there, pointer⟩ := guard.backward resource record other same role
      have away : other ≠ id := by
        rintro rfl
        rw [gone.before, Option.some.injEq] at there
        obtain ⟨after, live, cleared⟩ := gone.objects .subsurface resource (there ▸ pointer)
        rw [present, Option.some.injEq] at live
        rw [← live, role] at cleared
        cases cleared
      have pointers := gone.pointers other away
      rw [there, Option.map_some] at pointers
      obtain ⟨after, live, same⟩ := Option.map_eq_some_iff.mp pointers
      exact ⟨after, live, (ObjectKind.pointer_congr same .subsurface).trans pointer⟩
    · have users := (ObjectKind.role_inj (cleared.symm.trans role : _ = ObjectKind.role .subsurface (some other))).2
      cases users
  · obtain ⟨found, there, bond⟩ := before present
    have pointer : found.subsurface = after.subsurface := congrArg Prod.fst bond
    rw [← pointer]
    exact guard.rootless other found there ((congrArg Prod.snd bond).trans root)

theorem destroyed (guard : BondGuard scene) (users : UserGuard none scene) (owned : Owned)
    (firm : ∀ id record, owned = .resource id → scene.resources.cell id = some record →
      ∀ user, record.role ≠ .subsurface (some user)) : Ensures (destroyOwned scene owned) BondGuard := by
  cases owned with
  | surface id =>
      refine ((surfaceHandleResourceDestroy_gone users id).both (surfaceHandleResourceDestroy_forest id)).weaken ?_
      rintro last ⟨⟨surface, gone⟩, forest⟩
      exact guard.gone gone forest
  | buffer id =>
      exact (bufferHandleResourceDestroy_changes id).weaken fun _ changes => guard.of_changes changes (by simp)
  | imageDesc id =>
      exact (imageDescHandleResourceDestroy_changes id).weaken fun _ changes => guard.of_changes changes (by simp)
  | resource id =>
      refine .read fun record present => ?_
      have single := firm id record rfl present
      refine .via (fun handled => BondGuard handled ∧ handled.resources = scene.resources) ?_ ?_
      · have changed (role : Role) (other : ∀ user, role ≠ .subsurface user) :
            Ensures (runDestroyHandler scene id role) fun handled => handled.resources = scene.resources :=
          (runDestroyHandler_changes id other).weaken fun _ changes => changes.resources (by simp)
        have forgot (surface : SurfaceId) {change : ForwardSurface → ForwardSurface}
            (same : ∀ surface, (change surface).bond = surface.bond) :
            BondGuard (scene.setForward surface change) ∧ (scene.setForward surface change).resources = scene.resources :=
          ⟨guard.setForward surface same, rfl⟩
        cases role : record.role with
        | viewport user =>
            cases user with
            | none => exact .pure ⟨guard, rfl⟩
            | some surface => exact .read fun _ _ => .pure (forgot surface fun _ => rfl)
        | fractionalScale user =>
            cases user with
            | none => exact .pure ⟨guard, rfl⟩
            | some surface => exact .read fun _ _ => .pure (forgot surface fun _ => rfl)
        | colorSurface user =>
            cases user with
            | none => exact .pure ⟨guard, rfl⟩
            | some surface => exact .read fun _ _ => .check fun _ => .pure (forgot surface fun _ => rfl)
        | colorRepresentation user =>
            cases user with
            | none => exact .pure ⟨guard, rfl⟩
            | some surface => exact .read fun _ _ => .check fun _ => .pure (forgot surface fun _ => rfl)
        | subsurface user =>
            cases user with
            | none => exact .pure ⟨guard, rfl⟩
            | some surface => exact absurd role (single surface)
        | layerSurface output => exact .pure ⟨guard, rfl⟩
        | output output => exact .pure ⟨guard, rfl⟩
        | frameCallback =>
            have left := @frameCallbackHandleResourceDestroy_changes scene id
            exact .pure ⟨guard.of_changes left (by simp), left.resources (by simp)⟩
      · rintro handled ⟨kept, resources⟩
        refine .pure (kept.destroyResource id fun after there => ?_)
        rw [resources, present, Option.some.injEq] at there
        rw [← there]
        exact single

end BondGuard

section Steps

variable {scene : Scene}

theorem BondGuard.foldlM {before : Scene} (items gone : List Owned) (scene : Scene) (guard : BondGuard scene)
    (stage : Stage before gone scene) (firm : loosens before gone items = false) :
    Ensures (items.foldlM destroyOwned scene) BondGuard := by
  induction items generalizing gone scene with
  | nil => exact .pure guard
  | cons item items ih =>
      have rest : loosens before (item :: gone) items = false := by
        cases item with
        | resource id => exact (Bool.or_eq_false_iff.mp firm).2
        | _ => exact firm
      have single (id : ResourceId) (record : Resource) (same : item = .resource id)
          (present : scene.resources.cell id = some record) (user : SurfaceId) :
          record.role ≠ .subsurface (some user) := by
        intro role
        obtain ⟨surface, live, _⟩ := guard.backward id record user present role
        have node : scene.forest user = some surface.node := by
          unfold Scene.forest
          rw [live]
          rfl
        obtain ⟨start, began, _⟩ := stage.shrinks.forest user surface.node node
        obtain ⟨found, here, _⟩ := Option.map_eq_some_iff.mp began
        subst same
        have listed : Owned.surface user ∈ gone := by
          have test := (Bool.or_eq_false_iff.mp firm).1
          rw [stage.userBefore present role] at test
          simpa [here] using test
        rw [stage.dead user listed] at node
        cases node
      rw [List.foldlM_cons]
      refine ((guard.destroyed stage.users item single).both (stage.destroyed item)).bind fun next kept => ?_
      exact ih (item :: gone) next kept.1 kept.2 rest

theorem BondGuard.emptied {env : Environment} {first last : Scene} (guard : BondGuard first)
    (users : UserGuard none first) (emptied : Emptied env first last) (firm : loosens first [] env.owned = false) :
    BondGuard last := by
  obtain ⟨before, after, early, destroyed, late⟩ := emptied
  have stage := Stage.start (users.keeps (.of_aside early)) (forest_of_aside early) early.resources
  exact (foldlM env.owned [] before (guard.of_aside early) stage firm after destroyed).of_aside late

theorem BondGuard.presented (guard : BondGuard scene) (users : UserGuard none scene) (env : Environment)
    (id : CallbackId) : Ensures (bgFrameHandleDone scene env id) BondGuard := by
  have fold (items : List ResourceId) (scene : Scene) (start : BondGuard scene)
      (named : ∀ item ∈ items, scene.Names item .frameCallback) : BondGuard (items.foldl completeCallback scene) := by
    induction items generalizing scene with
    | nil => exact start
    | cons item items ih =>
        have told : BondGuard (scene.tell (.plugin (.callbackDone item))) :=
          start.of_changes (.tell scene _ List.mem_cons_self : Changes [.done] scene _) (by simp)
        refine ih _ (told.destroyResource item fun record present user role => ?_) ?_
        · rw [(named item List.mem_cons_self).2 record present] at role
          cases role
        · intro other member
          exact (Older.free scene.resources item).names (named other (List.mem_cons_of_mem _ member))
  refine .read fun callbacks waiting => ?_
  refine (markPresented_changes env callbacks.swaySurface).bind fun presented changes => .pure ?_
  refine (fold callbacks.list presented (guard.of_changes changes (by simp)) fun item member => ?_).keeps
    (fun _ => rfl) (fun _ _ present _ => present) fun _ _ present _ => present
  have same : presented.resources = scene.resources := changes.resources (by simp)
  unfold Scene.Names
  rw [same]
  exact users.waiting id callbacks item waiting member

theorem BondGuard.allotted (guard : BondGuard scene) {effects : List Effect} {client : WlClientId} {next : Scene}
    (allotted : Allotted effects client scene next) (kept : ∀ effect ∈ effects, effect ∉ bondEffects) :
    BondGuard next := by
  obtain ⟨middle, role, before, _, other, after⟩ := allotted
  have made := (guard.of_changes before kept).createResource client fun id => other .subsurface (some id)
  exact made.of_changes after kept

theorem BondGuard.request (guard : BondGuard scene) (users : UserGuard none scene) {client : WlClientId}
    {request : Request} {next : Scene} (step : RequestStep scene client request next)
    (firm : loosens scene [] (requestedObjects scene client request) = false) : BondGuard next := by
  cases step with
  | plain changes => exact guard.of_changes changes (by simp)
  | bound => exact guard.allotted (.bound _ client _) (by simp)
  | layered layered => exact guard.allotted layered.allotted (by simp)
  | surface version => exact guard.createSurface client version
  | buffer width height => exact guard.of_changes (createForwardBuffer_changes _ client width height) (by simp)
  | attached _ _ handled => exact guard.of_changes (nestedSurfaceAttach_changes _ _ next handled) (by simp)
  | framed id =>
      have made : BondGuard (scene.createResource client .frameCallback).1 := guard.createResource client nofun
      exact made.setForward id fun _ => rfl
  | committed _ handled => exact guard.of_changes (nestedSurfaceCommit_changes _ _ handled) (by simp)
  | parented _ _ handled => exact guard.parented next handled
  | extended other extended _ =>
      rename_i id kind _
      obtain ⟨middle, change, before, points, after⟩ := extended
      have apart (user : SurfaceId) : kind.role (some id) ≠ .subsurface (some user) := fun same =>
        other (ObjectKind.role_inj (same : _ = ObjectKind.role .subsurface (some user))).1
      have made := (guard.of_changes before (by simp)).createResource client apart
      refine (made.setForward id fun surface => Prod.ext ?_ ?_).of_changes after (by simp)
      · exact points.others surface .subsurface other.symm
      · have kept := congrArg ForwardSurface.subsurfaceParent (points.kept surface)
        exact kept
  | placedAbove _ _ handled =>
      obtain rfl | ⟨parent, change, rfl⟩ | rfl := placeSubsurface_cases client _ _ _ _ next handled
      · exact guard
      · exact guard.setForward parent fun _ => rfl
      · exact guard.of_changes (.postError scene client .badSurface List.mem_cons_self : Changes [.plugin] scene _)
          (by simp)
  | placedBelow _ _ handled =>
      obtain rfl | ⟨parent, change, rfl⟩ | rfl := placeSubsurface_cases client _ _ _ _ next handled
      · exact guard
      · exact guard.setForward parent fun _ => rfl
      · exact guard.of_changes (.postError scene client .badSurface List.mem_cons_self : Changes [.plugin] scene _)
          (by simp)
  | destroyed listed before handled =>
      rename_i middle owned
      have kept : KeepsObjects scene middle := .of_changes before (by simp)
      have stage := Stage.start (users.keeps kept) (forest_of_changes before (by simp)) kept.resources
      rw [listed] at firm
      refine BondGuard.foldlM [owned] [] middle (guard.of_changes before (by simp)) stage firm next ?_
      rw [List.foldlM_cons, handled]
      rfl

theorem BondGuard.step {state next : SwaylockState} {occurrence : Occurrence} (guard : BondGuard state.scene)
    (users : UserGuard none state.scene) (step : ObjectStep state occurrence.env occurrence.event next)
    (firm : surfacesFirst state occurrence = true) : BondGuard next.scene := by
  obtain ⟨event, env⟩ := occurrence
  have loose : loosens state.scene [] (destroyedObjects state ⟨event, env⟩) = false := by
    simpa [surfacesFirst] using firm
  cases step with
  | aside changes => exact guard.of_aside changes
  | emptied listed _ _ emptied => exact guard.emptied users emptied (listed ▸ loose)
  | presented handled => exact guard.presented users env _ next.scene handled
  | request _ handled => exact guard.request users (handleRequest_step _ _ next.scene handled) loose

theorem bondGuard_initial {state : SwaylockState} (initial : InitialState state) : BondGuard state.scene where
  forward id surface resource present := by
    rw [initial.surfaces.1] at present
    cases present
  backward resource record id present := by
    rw [initial.objects.2.2] at present
    cases present
  rootless id surface present := by
    rw [initial.surfaces.1] at present
    cases present

/-- In every run that destroys no subsurface in front of its surface the bonds hold. -/
theorem bondGuard_of_reachable {state : SwaylockState}
    (reachable : (swaylock.machine.guarded surfacesFirst).Reachable state) : BondGuard state.scene :=
  reachable.invariant_under (fun state => UserGuard none state.scene) (fun state => BondGuard state.scene)
    (fun _ before => userGuard_of_reachable before.of_restrict)
    (fun state initial => @bondGuard_initial state initial)
    fun _ _ _ users guard moved => guard.step users (objectStep_of_step moved.1) moved.2

/-- Each surface points to no subsurface or to a live one that has it as user data, which is otherwise no surface. -/
def SubsurfacesBound (scene : Scene) : Prop :=
  (∀ id surface, scene.forwardSurfaces.cell id = some surface → surface.subsurface = none ∨
    ∃ resource record, surface.subsurface = some resource ∧ scene.resources.cell resource = some record ∧
      record.role = .subsurface (some id)) ∧
  ∀ resource record user, scene.resources.cell resource = some record → record.role = .subsurface user →
    user = none ∨ ∃ id surface, user = some id ∧ scene.forwardSurfaces.cell id = some surface

/-- While plugins destroy no subsurface in front of its surface, surfaces and subsurfaces are bound to each other. -/
theorem subsurfaces_bound {state : SwaylockState}
    (reachable : (swaylock.machine.guarded surfacesFirst).Reachable state) : SubsurfacesBound state.scene := by
  have guard := bondGuard_of_reachable reachable
  refine ⟨fun id surface present => ?_, fun resource record user present role => ?_⟩
  · cases pointer : surface.subsurface with
    | none => exact .inl rfl
    | some resource =>
        obtain ⟨record, live, role⟩ := guard.forward id surface resource present pointer
        exact .inr ⟨resource, record, rfl, live, role⟩
  · cases user with
    | none => exact .inl rfl
    | some id =>
        obtain ⟨surface, live, _⟩ := guard.backward resource record id present role
        exact .inr ⟨id, surface, rfl, live⟩

/-- A plugin connects and makes a surface and its child. -/
def nestedEvents : List Event :=
  [.start, .check true] ++ ([.getRegistry, .createSurface 4, .createSurface 4, .surface 0 (.getSubsurface 1)] :
    List Request).map fun request => .scene (.request 0 request)

/-- A child whose surface is destroyed before its subsurface object is bound all the time. -/
theorem subsurfaces_bound_surface_first : ∃ state : SwaylockState,
    (state.scene.forwardSurfaces.cell 0).isNone = true ∧ (state.scene.resources.cell 0).isSome = true ∧
      SubsurfacesBound state.scene := by
  obtain ⟨state, reachable, passed⟩ := swaylock.play_guarded surfacesFirst
    ((nestedEvents ++ [Event.scene (.request 0 (.surface 0 .destroy))]).map Event.obliged)
    (fun state => (state.scene.forwardSurfaces.cell 0).isNone && (state.scene.resources.cell 0).isSome)
    (startState_initial _ _ _) (by decide +kernel : ((swaylock.guarded _).play defaultState _).any _ = true)
  rw [Bool.and_eq_true] at passed
  exact ⟨state, passed.1, passed.2, subsurfaces_bound reachable⟩

/-- A subsurface object that is destroyed before its surface leaves its surface with a dangling pointer. -/
theorem subsurface_first_dangles :
    ¬ ∀ state : SwaylockState, swaylock.machine.Reachable state → SubsurfacesBound state.scene := by
  intro claim
  obtain ⟨state, reachable, passed⟩ := swaylock.play_reachable
    ((nestedEvents ++ [Event.scene (.request 0 (.object 0 .destroy))]).map Event.obliged)
    (fun state => (state.scene.forwardSurfaces.cell 0).any (fun surface => surface.subsurface == some 0) &&
      (state.scene.resources.cell 0).isNone)
    (startState_initial _ _ _) (by decide +kernel : (swaylock.play defaultState _).any _ = true)
  simp only [Bool.and_eq_true, Option.any_eq_true, beq_iff_eq, Option.isNone_iff_eq_none] at passed
  obtain ⟨⟨surface, present, pointer⟩, gone⟩ := passed
  rcases (claim state reachable).1 0 surface present with none_ | ⟨resource, record, same, live, _⟩
  · rw [pointer] at none_
    cases none_
  · rw [pointer, Option.some.injEq] at same
    rw [← same, gone] at live
    cases live

end Steps

end SwaylockPlugin
