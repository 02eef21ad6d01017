import SwaylockPlugin.Proof.Bonds

namespace SwaylockPlugin

open Library

/-- A surface and its object of a kind name each other. -/
structure TieGuard (kind : ObjectKind) (scene : Scene) : Prop where
  forward : ∀ id surface resource, scene.forwardSurfaces.cell id = some surface → kind.pointer surface = some resource →
    ∃ record, scene.resources.cell resource = some record ∧ record.role = kind.role (some id)
  backward : ∀ resource record id, scene.resources.cell resource = some record → record.role = kind.role (some id) →
    ∃ surface, scene.forwardSurfaces.cell id = some surface ∧ kind.pointer surface = some resource

/-- These effects touch the objects of the surfaces. -/
abbrev tieEffects : List Effect := [.surface .objects, .createSurface, .freeSurface, .resource]

theorem Changes.pointers {effects : List Effect} {first second : Scene} (changes : Changes effects first second)
    (apart : ∀ effect ∈ effects, effect ∉ tieEffects) (kind : ObjectKind) (id : SurfaceId) :
    (second.forwardSurfaces.cell id).map kind.pointer = (first.forwardSurfaces.cell id).map kind.pointer := by
  refine (changes.surfaces kind.pointer (fun group listed surface => ?_) ?_ ?_).1 id
  · cases group with
    | objects => exact absurd (by simp) (apart _ listed)
    | _ => cases kind <;> rfl
  · exact fun listed => apart _ listed (by simp)
  · exact fun listed => apart _ listed (by simp)

/-- A surface forgets its object of a kind when the role of the object names it, and the others keep theirs. -/
structure Unties (kind : ObjectKind) (role : Role) (first second : Scene) : Prop where
  resources : second.resources = first.resources
  pointers : ∀ other, (second.forwardSurfaces.cell other).map kind.pointer = (first.forwardSurfaces.cell other).map
    fun surface => if role = kind.role (some other) then none else kind.pointer surface

namespace Unties

variable {kind : ObjectKind} {role : Role} {first second scene : Scene}

theorem kept (other : ∀ user, role ≠ kind.role (some user)) (resources : second.resources = first.resources)
    (pointers : ∀ user, (second.forwardSurfaces.cell user).map kind.pointer =
      (first.forwardSurfaces.cell user).map kind.pointer) : Unties kind role first second := by
  refine ⟨resources, fun user => ?_⟩
  simp only [if_neg (other user)]
  exact pointers user

theorem of_changes {effects : List Effect} (other : ∀ user, role ≠ kind.role (some user))
    (changes : Changes effects first second) (listed : ∀ effect ∈ effects, effect ∉ tieEffects) :
    Unties kind role first second :=
  kept other (changes.resources fun member => listed _ member (by simp)) (changes.pointers listed kind)

theorem unset (cleared : ObjectKind) : Unties kind (cleared.role none) scene scene :=
  kept (fun _ same => nomatch (ObjectKind.role_inj same).2) rfl fun _ => rfl

theorem forgot (cleared : ObjectKind) (user : SurfaceId) {change : ForwardSurface → ForwardSurface}
    (clears : ∀ surface, cleared.pointer (change surface) = none)
    (keeps : ∀ surface other, other ≠ cleared → other.pointer (change surface) = other.pointer surface) :
    Unties kind (cleared.role (some user)) scene (scene.setForward user change) := by
  refine ⟨rfl, fun other => ?_⟩
  change ((scene.forwardSurfaces.modify user change).cell other).map kind.pointer = _
  rw [Heap.cell_modify]
  by_cases same : kind = cleared
  · subst same
    by_cases here : other = user
    · rw [if_pos here, Option.map_map, here]
      refine congrArg (fun view => (scene.forwardSurfaces.cell user).map view) (funext fun surface => ?_)
      rw [if_pos rfl]
      exact clears surface
    · have away : kind.role (some user) ≠ kind.role (some other) := fun roles =>
        here (Option.some.inj (ObjectKind.role_inj roles).2).symm
      simp only [if_neg here, if_neg away]
  · have away : cleared.role (some user) ≠ kind.role (some other) := fun roles =>
      same (ObjectKind.role_inj roles).1.symm
    simp only [if_neg away]
    split
    · rw [Option.map_map]
      exact congrArg (fun view => (scene.forwardSurfaces.cell other).map view)
        (funext fun surface => keeps surface kind same)
    · rfl

end Unties

theorem runDestroyHandler_unties {scene : Scene} {kind : ObjectKind} (extension : kind ≠ .subsurface) (id : ResourceId)
    (role : Role) : Ensures (runDestroyHandler scene id role) (Unties kind role scene) := by
  cases role with
  | viewport user =>
      cases user with
      | none => exact .pure (.unset .viewport)
      | some user =>
          refine .read fun _ _ => .pure (.forgot .viewport user (fun _ => rfl) fun surface other away => ?_)
          cases other <;> first | rfl | exact absurd rfl away
  | fractionalScale user =>
      cases user with
      | none => exact .pure (.unset .fractionalScale)
      | some user =>
          refine .read fun _ _ => .pure (.forgot .fractionalScale user (fun _ => rfl) fun surface other away => ?_)
          cases other <;> first | rfl | exact absurd rfl away
  | colorSurface user =>
      cases user with
      | none => exact .pure (.unset .colorSurface)
      | some user =>
          refine .read fun _ _ => .check fun _ => .pure ?_
          refine .forgot .colorSurface user (fun _ => rfl) fun _ other away => ?_
          cases other <;> first | rfl | exact absurd rfl away
  | colorRepresentation user =>
      cases user with
      | none => exact .pure (.unset .colorRepresentation)
      | some user =>
          refine .read fun _ _ => .check fun _ => .pure ?_
          refine .forgot .colorRepresentation user (fun _ => rfl) fun _ other away => ?_
          cases other <;> first | rfl | exact absurd rfl away
  | subsurface user =>
      have other (id : SurfaceId) : Role.subsurface user ≠ kind.role (some id) := fun same =>
        extension (@ObjectKind.role_inj .subsurface kind user (some id) same).1.symm
      cases user with
      | none => exact .pure (.unset .subsurface)
      | some user =>
          exact (destroySubsurfaceParts_changes user).weaken fun _ changes => .of_changes other changes (by simp)
  | layerSurface output =>
      refine .pure (.kept (fun user same => ?_) rfl fun _ => rfl)
      cases kind <;> cases same
  | output output =>
      refine .pure (.kept (fun user same => ?_) rfl fun _ => rfl)
      cases kind <;> cases same
  | frameCallback =>
      have other (user : SurfaceId) := (kind.role_ne_frameCallback (some user)).symm
      exact .pure (.of_changes other (@frameCallbackHandleResourceDestroy_changes scene id) (by simp))

namespace TieGuard

variable {kind : ObjectKind} {first second scene : Scene}

theorem keeps (guard : TieGuard kind first)
    (pointers : ∀ id, (second.forwardSurfaces.cell id).map kind.pointer =
      (first.forwardSurfaces.cell id).map kind.pointer)
    (made : ∀ resource record id, first.resources.cell resource = some record → record.role = kind.role (some id) →
      second.resources.cell resource = some record)
    (old : ∀ resource record id, second.resources.cell resource = some record → record.role = kind.role (some id) →
      first.resources.cell resource = some record) : TieGuard kind second := by
  refine ⟨fun id surface resource present pointer => ?_, fun resource record id present role => ?_⟩
  · have same := pointers id
    rw [present, Option.map_some] at same
    obtain ⟨before, there, kept⟩ := Option.map_eq_some_iff.mp same.symm
    obtain ⟨record, live, role⟩ := guard.forward id before resource there (kept.trans pointer)
    exact ⟨record, made resource record id live role, role⟩
  · obtain ⟨before, there, pointer⟩ := guard.backward resource record id (old resource record id present role) role
    have same := pointers id
    rw [there, Option.map_some] at same
    obtain ⟨after, found, kept⟩ := Option.map_eq_some_iff.mp same
    exact ⟨after, found, kept.trans pointer⟩

theorem of_changes (guard : TieGuard kind first) {effects : List Effect} (changes : Changes effects first second)
    (apart : ∀ effect ∈ effects, effect ∉ tieEffects) : TieGuard kind second := by
  have resources : second.resources = first.resources := changes.resources fun listed => apart _ listed (by simp)
  exact guard.keeps (changes.pointers apart kind) (fun _ _ _ present _ => resources ▸ present)
    fun _ _ _ present _ => resources ▸ present

theorem of_aside (guard : TieGuard kind first) (aside : Aside first second) : TieGuard kind second := by
  refine guard.keeps (fun id => ?_) (fun _ _ _ present _ => aside.resources ▸ present)
    fun _ _ _ present _ => aside.resources ▸ present
  have masked := congrArg (Option.map kind.pointer) (aside.forward id)
  rw [Option.map_map, Option.map_map] at masked
  cases kind <;> exact masked

theorem setForward (guard : TieGuard kind scene) (id : SurfaceId) {change : ForwardSurface → ForwardSurface}
    (same : ∀ surface, kind.pointer (change surface) = kind.pointer surface) :
    TieGuard kind (scene.setForward id change) :=
  guard.keeps (scene.forwardSurfaces.view_modify id change _ fun surface _ => same surface)
    (fun _ _ _ present _ => present) fun _ _ _ present _ => present

theorem createResource (guard : TieGuard kind scene) (client : WlClientId) {role : Role}
    (other : ∀ id, role ≠ kind.role (some id)) : TieGuard kind (scene.createResource client role).1 := by
  refine guard.keeps (fun _ => rfl) (fun _ _ _ present _ => scene.resources.cell_alloc_of_live _ present) ?_
  intro resource record id present bound
  obtain ⟨_, rfl⟩ | ⟨_, there⟩ := scene.resources.old_of_alloc present
  · exact absurd bound (other id)
  · exact there

theorem createSurface (guard : TieGuard kind scene) (client : WlClientId) (version : Nat) :
    TieGuard kind (compositorCreateSurface scene client version) := by
  refine ⟨fun id surface resource present pointer => ?_, fun resource record id present role => ?_⟩
  · obtain ⟨_, rfl⟩ | ⟨_, there⟩ := scene.forwardSurfaces.old_of_alloc present
    · cases kind <;> cases pointer
    · exact guard.forward id surface resource there pointer
  · obtain ⟨surface, there, pointer⟩ := guard.backward resource record id present role
    exact ⟨surface, scene.forwardSurfaces.cell_alloc_of_live _ there, pointer⟩

theorem untied (guard : TieGuard kind first) {id : ResourceId} {record : Resource}
    (present : first.resources.cell id = some record) (unties : Unties kind record.role first second) :
    TieGuard kind (second.destroyResource id) := by
  have heap : (second.destroyResource id).resources = first.resources.free id :=
    congrArg (fun resources : Heap Resource => resources.free id) unties.resources
  refine ⟨fun other after resource found pointer => ?_, fun resource kept other found role => ?_⟩
  · have same := unties.pointers other
    rw [show second.forwardSurfaces.cell other = some after from found, Option.map_some] at same
    obtain ⟨before, there, view⟩ := Option.map_eq_some_iff.mp same.symm
    rw [pointer] at view
    split at view
    · cases view
    · rename_i away
      obtain ⟨kept, live, role⟩ := guard.forward other before resource there view
      refine ⟨kept, ?_, role⟩
      rw [heap, Heap.cell_free_other]
      · exact live
      · rintro rfl
        cases present.symm.trans live
        exact away role
  · rw [heap] at found
    have away := first.resources.ne_of_free found
    obtain ⟨before, there, pointer⟩ := guard.backward resource kept other (first.resources.old_of_free found) role
    have apart : record.role ≠ kind.role (some other) := by
      intro same
      obtain ⟨surface, shown, own⟩ := guard.backward id record other present same
      cases there.symm.trans shown
      exact away (Option.some.inj (pointer.symm.trans own))
    have same := unties.pointers other
    rw [there, Option.map_some, if_neg apart] at same
    obtain ⟨after, live, view⟩ := Option.map_eq_some_iff.mp same
    exact ⟨after, live, view.trans pointer⟩

theorem gone (guard : TieGuard kind first) {id : SurfaceId} {surface : ForwardSurface}
    (gone : SurfaceGone id surface first second) : TieGuard kind second := by
  refine ⟨fun other after resource present pointer => ?_, fun resource record other present role => ?_⟩
  · have away : other ≠ id := by
      rintro rfl
      cases gone.gone.symm.trans present
    have pointers := gone.pointers other away
    rw [present, Option.map_some] at pointers
    obtain ⟨before, there, same⟩ := Option.map_eq_some_iff.mp pointers.symm
    obtain ⟨record, live, role⟩ :=
      guard.forward other before resource there ((ObjectKind.pointer_congr same kind).trans pointer)
    refine ⟨record, gone.cleared.other live fun named roles => ?_, role⟩
    exact away (Option.some.inj (ObjectKind.role_inj (role.symm.trans roles)).2)
  · rcases gone.cleared.cell resource record present with same | ⟨_, named, _, _, cleared⟩
    · obtain ⟨before, there, pointer⟩ := guard.backward resource record other same role
      have away : other ≠ id := by
        rintro rfl
        cases there.symm.trans gone.before
        obtain ⟨after, live, cleared⟩ := gone.objects kind resource pointer
        cases present.symm.trans live
        cases (ObjectKind.role_inj (role.symm.trans cleared)).2
      have pointers := gone.pointers other away
      rw [there, Option.map_some] at pointers
      obtain ⟨after, live, same⟩ := Option.map_eq_some_iff.mp pointers
      exact ⟨after, live, (ObjectKind.pointer_congr same kind).trans pointer⟩
    · cases (ObjectKind.role_inj (cleared.symm.trans role)).2

theorem destroyed (guard : TieGuard kind scene) (users : UserGuard none scene) (extension : kind ≠ .subsurface)
    (owned : Owned) : Ensures (destroyOwned scene owned) (TieGuard kind) := by
  cases owned with
  | surface id => exact (surfaceHandleResourceDestroy_gone users id).weaken fun _ ⟨_, gone⟩ => guard.gone gone
  | buffer id =>
      exact (bufferHandleResourceDestroy_changes id).weaken fun _ changes => guard.of_changes changes (by simp)
  | imageDesc id =>
      exact (imageDescHandleResourceDestroy_changes id).weaken fun _ changes => guard.of_changes changes (by simp)
  | resource id =>
      refine .read fun record present => ?_
      refine (runDestroyHandler_unties extension id record.role).bind fun handled unties => .pure ?_
      exact guard.untied present unties

theorem foldlM (extension : kind ≠ .subsurface) (items : List Owned) (scene : Scene) (guard : TieGuard kind scene)
    (users : UserGuard none scene) :
    Ensures (items.foldlM destroyOwned scene) fun last => TieGuard kind last ∧ UserGuard none last := by
  refine Ensures.foldlM_holds (fun state item start => ?_) items ⟨guard, users⟩
  exact (start.1.destroyed start.2 extension item).both (destroyOwned_guard start.2 item)

theorem emptied (guard : TieGuard kind first) (users : UserGuard none first) (extension : kind ≠ .subsurface)
    {env : Environment} (emptied : Emptied env first second) : TieGuard kind second := by
  obtain ⟨before, after, early, destroyed, late⟩ := emptied
  have start := users.keeps (.of_aside early)
  exact (foldlM extension env.owned before (guard.of_aside early) start after destroyed).1.of_aside late

theorem presented (guard : TieGuard kind scene) (users : UserGuard none scene) (env : Environment) (id : CallbackId) :
    Ensures (bgFrameHandleDone scene env id) (TieGuard kind) := by
  have fold (items : List ResourceId) (scene : Scene) (start : TieGuard kind scene)
      (named : ∀ item ∈ items, scene.Names item .frameCallback) :
      TieGuard kind (items.foldl completeCallback scene) := by
    induction items generalizing scene with
    | nil => exact start
    | cons item items ih =>
        have told : TieGuard kind (scene.tell (.plugin (.callbackDone item))) :=
          start.of_changes (.tell scene _ List.mem_cons_self : Changes [.done] scene _) (by simp)
        refine ih _ (told.keeps (fun _ => rfl) ?_ fun _ _ _ present _ => ?_) ?_
        · intro resource record user present role
          refine (Heap.cell_free_other _ ?_).trans present
          rintro rfl
          exact kind.role_ne_frameCallback _ (role.symm.trans ((named resource List.mem_cons_self).2 record present))
        · exact scene.resources.old_of_free present
        · intro other member
          exact (Older.free scene.resources item).names (named other (List.mem_cons_of_mem _ member))
  refine .read fun callbacks waiting => ?_
  refine (markPresented_changes env callbacks.swaySurface).bind fun presented changes => .pure ?_
  refine (fold callbacks.list presented (guard.of_changes changes (by simp)) fun item member => ?_).keeps
    (fun _ => rfl) (fun _ _ _ present _ => present) fun _ _ _ present _ => present
  have same : presented.resources = scene.resources := changes.resources (by simp)
  unfold Scene.Names
  rw [same]
  exact users.waiting id callbacks item waiting member

theorem extended (guard : TieGuard kind first) {client : WlClientId} {made : ObjectKind} {id : SurfaceId}
    {surface : ForwardSurface} (there : first.forwardSurfaces.cell id = some surface)
    (free : made = kind → kind.pointer surface = none) (extended : Extended client made id first second) :
    TieGuard kind second := by
  obtain ⟨middle, change, before, points, after⟩ := extended
  have start := guard.of_changes before (by simp)
  refine of_changes ?_ after (by simp)
  by_cases same : made = kind
  · subst same
    have pointers := before.pointers (by simp) made id
    rw [there, Option.map_some, free rfl] at pointers
    obtain ⟨found, live, bare⟩ := Option.map_eq_some_iff.mp pointers
    refine ⟨fun other record resource present pointer => ?_, fun resource record other present role => ?_⟩
    · obtain ⟨old, stood, ⟨rfl, rfl⟩ | ⟨_, rfl⟩⟩ := Heap.old_of_modify _ present
      · rw [points.pointer, Option.some.injEq] at pointer
        exact ⟨_, pointer ▸ middle.resources.cell_alloc_next _, rfl⟩
      · obtain ⟨kept, lives, role⟩ := start.forward other _ resource stood pointer
        exact ⟨kept, middle.resources.cell_alloc_of_live _ lives, role⟩
    · obtain ⟨rfl, rfl⟩ | ⟨_, lives⟩ := middle.resources.old_of_alloc present
      · cases (ObjectKind.role_inj role).2
        exact ⟨_, (Heap.cell_modify_self _ _ _).trans (congrArg (Option.map change) live), points.pointer found⟩
      · obtain ⟨old, stood, pointer⟩ := start.backward resource record other lives role
        have away : other ≠ id := by
          rintro rfl
          cases live.symm.trans stood
          cases bare.symm.trans pointer
        exact ⟨old, (Heap.cell_modify_other _ _ away).trans stood, pointer⟩
  · refine (start.createResource client fun user roles => same (ObjectKind.role_inj roles).1).setForward id fun _ => ?_
    exact points.others _ kind (Ne.symm same)

theorem parented (guard : TieGuard kind scene) (extension : kind ≠ .subsurface) {client : WlClientId}
    {child parent : SurfaceId} : Ensures (subcompositorGetSubsurface scene client child parent) (TieGuard kind) := by
  have posted {error : PluginError} : TieGuard kind (scene.postError client error) :=
    guard.of_changes (.postError scene client error List.mem_cons_self : Changes [.plugin] scene _) (by simp)
  refine .read fun surface present => ?_
  split
  · exact .pure posted
  · refine .via (fun _ => True) (fun _ _ => trivial) fun ancestor _ => ?_
    split
    · exact .pure posted
    · have other (user : SurfaceId) : Role.subsurface (some child) ≠ kind.role (some user) := fun same =>
        extension (@ObjectKind.role_inj .subsurface kind _ _ same).1.symm
      have made := guard.createResource client other
      refine .pure (((made.setForward child fun _ => ?_)).setForward parent fun _ => ?_)
      · cases kind <;> first | rfl | exact absurd rfl extension
      · cases kind <;> rfl

theorem allotted (guard : TieGuard kind first) {effects : List Effect} {client : WlClientId}
    (allotted : Allotted effects client first second) (kept : ∀ effect ∈ effects, effect ∉ tieEffects) :
    TieGuard kind second := by
  obtain ⟨middle, role, before, _, other, after⟩ := allotted
  exact ((guard.of_changes before kept).createResource client fun id => other kind (some id)).of_changes after kept

end TieGuard

/-- A plugin asks for another extension object of a kind of which its surface has one. -/
def asksAgain (scene : Scene) (client : WlClientId) (request : Request) : Bool :=
  request.asks.any fun asked => asked.2 != .subsurface &&
    (scene.forwardSurfaces.cell asked.1).any fun surface => surface.client == client && (asked.2.pointer surface).isSome

/-- A step asks for no other extension object of a kind of which the surface has one. -/
def asksOnce (state : SwaylockState) (occurrence : Occurrence) : Bool :=
  match occurrence.event with
  | .scene (.request client request) => !asksAgain state.scene client request
  | _ => true

theorem handleRequest_refused {scene : Scene} {client : WlClientId} {request : Request} {id : SurfaceId}
    {kind : ObjectKind} (asks : request.asks = some (id, kind)) (strange : ownsSurface scene client id = false) :
    handleRequest scene client request = .ok (invalidObject scene client) := by
  unfold Request.asks at asks
  split at asks
  all_goals
    cases asks <;>
    · change (if ownsSurface scene client id then _ else Except.ok (invalidObject scene client)) = _
      rw [strange]
      rfl

namespace TieGuard

variable {kind : ObjectKind} {scene : Scene}

theorem request (guard : TieGuard kind scene) (users : UserGuard none scene) (extension : kind ≠ .subsurface)
    {client : WlClientId} {request : Request} {next : Scene} (handled : handleRequest scene client request = .ok next)
    (once : asksAgain scene client request = false) : TieGuard kind next := by
  have step := handleRequest_step client request next handled
  cases step with
  | plain changes => exact guard.of_changes changes (by simp)
  | bound => exact guard.allotted (.bound _ client _) (by simp)
  | layered layered => exact guard.allotted layered.allotted (by simp)
  | surface version => exact guard.createSurface client version
  | buffer width height => exact guard.of_changes (createForwardBuffer_changes _ client width height) (by simp)
  | attached _ _ handled => exact guard.of_changes (nestedSurfaceAttach_changes _ _ next handled) (by simp)
  | framed id =>
      have made := guard.createResource client fun user => (kind.role_ne_frameCallback (some user)).symm
      refine made.setForward id fun surface => ?_
      cases kind <;> rfl
  | committed _ handled => exact guard.of_changes (nestedSurfaceCommit_changes _ _ handled) (by simp)
  | parented _ _ handled => exact guard.parented extension next handled
  | @extended _ _ id made other extended asks =>
      cases owned : ownsSurface scene client id with
      | false =>
          cases (handleRequest_refused asks owned).symm.trans handled
          exact guard.of_changes (.postError scene client _ List.mem_cons_self : Changes [.plugin] scene _) (by simp)
      | true =>
          obtain ⟨surface, there, owner⟩ := (Option.any_eq_true _ _).mp owned
          refine guard.extended there (fun same => ?_) extended
          unfold asksAgain at once
          rw [asks, Option.any_some, there, Option.any_some, owner, Bool.true_and, same] at once
          have bare := (Bool.and_eq_false_iff.mp once).resolve_left fun root => extension (by simpa using root)
          exact Option.isNone_iff_eq_none.mp (Option.isSome_eq_false_iff.mp bare)
  | placedAbove _ _ handled => exact guard.of_changes (nestedSubsurfacePlaceAbove_changes client _ _ next handled) (by simp)
  | placedBelow _ _ handled => exact guard.of_changes (nestedSubsurfacePlaceBelow_changes client _ _ next handled) (by simp)
  | destroyed _ before handled =>
      have start := users.keeps (.of_changes before (by simp))
      exact (guard.of_changes before (by simp)).destroyed start extension _ next handled

theorem step {state next : SwaylockState} {occurrence : Occurrence} (guard : TieGuard kind state.scene)
    (users : UserGuard none state.scene) (extension : kind ≠ .subsurface)
    (moved : swaylock.machine.step state occurrence next) (once : asksOnce state occurrence = true) :
    TieGuard kind next.scene := by
  have step := objectStep_of_step moved
  obtain ⟨event, env⟩ := occurrence
  dsimp only at step
  cases step with
  | aside changes => exact guard.of_aside changes
  | emptied _ _ _ emptied => exact guard.emptied users extension emptied
  | presented handled => exact guard.presented users env _ next.scene handled
  | request _ handled => exact guard.request users extension handled (by simpa [asksOnce] using once)

end TieGuard

section Again

variable {scene : Scene} {client : WlClientId}

/-- A request for an extension object posts an error and points the surface to another object. -/
structure Repoints (client : WlClientId) (id : SurfaceId) (kind : ObjectKind) (first second : Scene) : Prop where
  error : ∃ messages, second.wire = first.wire ++ .plugin (.error client .exists) :: messages
  pointer : (second.forwardSurfaces.cell id).map kind.pointer = some (some first.resources.next)

theorem getExtension_repoints {id : SurfaceId} {surface : ForwardSurface} (kind : ObjectKind) {role : Role}
    {current : ForwardSurface → Option ResourceId} {keep : ResourceId → ForwardSurface → ForwardSurface}
    (present : scene.forwardSurfaces.cell id = some surface) (has : (current surface).isSome = true)
    (points : ∀ resource surface, kind.pointer (keep resource surface) = some resource) :
    Ensures (getExtension scene client id role current keep) (Repoints client id kind scene) := by
  refine .read fun found there => ?_
  cases present.symm.trans there
  rw [if_pos has]
  refine .pure ⟨⟨[], rfl⟩, ?_⟩
  change ((scene.forwardSurfaces.modify id _).cell id).map kind.pointer = _
  rw [Heap.cell_modify_self, present]
  exact congrArg some (points _ _)

theorem announceScale_repoints {id : SurfaceId} {kind : ObjectKind} {first : Scene}
    (repoints : Repoints client id kind first scene) (output : Option OutputId) :
    Ensures (announceScale scene id output) (Repoints client id kind first) := by
  cases output with
  | none => exact .pure repoints
  | some output =>
      refine .read fun record _ => ?_
      split
      · obtain ⟨messages, wire⟩ := repoints.error
        refine .pure ⟨⟨messages ++ [.plugin (.preferredScale id record.lastFractionalScale)], ?_⟩, repoints.pointer⟩
        change scene.wire ++ [_] = _
        rw [wire, List.append_assoc, List.cons_append]
      · exact .pure repoints

theorem handleRequest_repoints {request : Request} (again : asksAgain scene client request = true) :
    Ensures (handleRequest scene client request) fun next => ∃ id kind, request.asks = some (id, kind) ∧
      Repoints client id kind scene next := by
  obtain ⟨⟨id, kind⟩, asks, meets⟩ := (Option.any_eq_true _ _).mp again
  obtain ⟨extension, owned⟩ := Bool.and_eq_true_iff.mp meets
  obtain ⟨surface, there, holds⟩ := (Option.any_eq_true _ _).mp owned
  obtain ⟨owner, has⟩ := Bool.and_eq_true_iff.mp holds
  have owns : ownsSurface scene client id = true := by
    unfold ownsSurface
    rw [there]
    exact owner
  refine Ensures.weaken ?_ fun next repoints => ⟨id, kind, asks, repoints⟩
  unfold Request.asks at asks
  split at asks <;> cases asks
  all_goals
    unfold handleRequest
    dsimp only
    rw [if_pos owns]
  · unfold handleSurface nestedViewporterGetViewport
    exact getExtension_repoints .viewport there has fun _ _ => rfl
  · refine .via (Repoints client id .fractionalScale scene) ?_ fun got repoints => ?_
    · exact getExtension_repoints .fractionalScale there has fun _ _ => rfl
    · exact .read fun surface _ => announceScale_repoints repoints surface.swaySurface
  · unfold handleSurface nestedColorGetSurface
    exact getExtension_repoints .colorSurface there has fun _ _ => rfl
  · unfold handleSurface nestedColorRepGetSurface
    exact getExtension_repoints .colorRepresentation there has fun _ _ => rfl
  · cases extension

end Again

/-- Every surface and each of its extension objects name each other. -/
def ExtensionsTied (scene : Scene) : Prop :=
  ∀ kind, kind ≠ ObjectKind.subsurface → TieGuard kind scene

/-- Every extension object is destroyed without a failed assertion and without a write to a surface that is gone. -/
def ExtensionsGo (scene : Scene) : Prop :=
  ∀ resource record kind user, kind ≠ ObjectKind.subsurface → scene.resources.cell resource = some record →
    record.role = kind.role user → ∃ last, destroyOwned scene (.resource resource) = .ok last

/-- A request for an object of a surface leaves the pointer of the surface as it is. -/
def LeavesPointer (request : Request) (first second : Scene) : Prop :=
  ∀ id kind, request.asks = some (id, kind) → (second.forwardSurfaces.cell id).map kind.pointer =
    (first.forwardSurfaces.cell id).map kind.pointer

theorem ExtensionsTied.go {scene : Scene} (tied : ExtensionsTied scene) : ExtensionsGo scene := by
  intro resource record kind user extension present role
  have delivers (fatal : Halt) : Delivers fatal (destroyOwned scene (.resource resource)) fun _ => True := by
    refine .read present (.via (fun _ => True) ?_ fun _ _ => .pure trivial)
    rw [role]
    cases user with
    | none =>
        cases kind with
        | subsurface => exact absurd rfl extension
        | _ => exact .pure trivial
    | some user =>
        obtain ⟨surface, there, pointer⟩ := (tied kind extension).backward resource record user present role
        have linked : (kind.pointer surface == some resource) = true := beq_iff_eq.mpr pointer
        cases kind with
        | viewport | fractionalScale => exact .read there (.pure trivial)
        | colorSurface | colorRepresentation => exact .read there (.test (fun _ => linked) fun _ => .pure trivial)
        | subsurface => exact absurd rfl extension
  obtain ⟨last, computed, _⟩ := Delivers.returns .assertion delivers
  exact ⟨last, computed⟩

/-- In every run that asks for no second object the surfaces and their extension objects name each other. -/
theorem extensionsTied_of_reachable {state : SwaylockState}
    (reachable : (swaylock.machine.guarded asksOnce).Reachable state) : ExtensionsTied state.scene := by
  intro kind extension
  refine reachable.invariant_under (fun state => UserGuard none state.scene) (fun state => TieGuard kind state.scene)
    (fun _ before => userGuard_of_reachable before.of_restrict) (fun start initial => ⟨?_, ?_⟩)
    fun _ _ _ users guard moved => guard.step users extension moved.1 moved.2
  · intro id surface resource present
    rw [initial.surfaces.1] at present
    cases present
  · intro resource record id present
    rw [initial.objects.2.2] at present
    cases present

/-- While no plugin asks for a second extension object, surfaces and extension objects name each other whatever is
destroyed in whatever order, and every request for a second object posts an error but replaces the first. -/
theorem extensions_tied (state : SwaylockState) :
    ((swaylock.machine.guarded asksOnce).Reachable state → ∀ (items : List Owned) (last : Scene),
      items.foldlM destroyOwned state.scene = .ok last → ExtensionsTied last ∧ ExtensionsGo last) ∧
      (swaylock.machine.Reachable state → ∀ client request, asksAgain state.scene client request = true →
        ∀ next, handleRequest state.scene client request = .ok next →
          (∃ messages, next.wire = state.scene.wire ++ .plugin (.error client .exists) :: messages) ∧
            ¬ LeavesPointer request state.scene next) := by
  refine ⟨fun reachable items last destroyed => ?_, fun reachable client request again next handled => ?_⟩
  · have users := userGuard_of_reachable reachable.of_restrict
    have tied : ExtensionsTied last := fun kind extension =>
      (TieGuard.foldlM extension items state.scene (extensionsTied_of_reachable reachable kind extension) users last
        destroyed).1
    exact ⟨tied, tied.go⟩
  · obtain ⟨id, kind, asks, repoints⟩ := handleRequest_repoints again next handled
    refine ⟨repoints.error, fun leaves => ?_⟩
    have same := (leaves id kind asks).symm.trans repoints.pointer
    obtain ⟨surface, there, pointer⟩ := Option.map_eq_some_iff.mp same
    have names := (userGuard_of_reachable reachable).objects id surface kind _ there nofun pointer
    exact Nat.lt_irrefl _ names.1

/-- A plugin makes a surface with two extension objects. -/
def extendedEvents : List Event :=
  [.start, .check true] ++ ([.getRegistry, .createSurface 4, .surface 0 .getViewport, .surface 0 .getColorSurface] :
    List Request).map fun request => .scene (.request 0 request)

/-- The surface of two extension objects may be destroyed between them, and a third object would replace the second. -/
theorem extensions_tied_between : ∃ state last next : Scene,
    [Owned.resource 0, .surface 0].foldlM destroyOwned state = .ok last ∧ (ExtensionsTied last ∧ ExtensionsGo last) ∧
      handleRequest state 0 (.surface 0 .getColorSurface) = .ok next ∧
        ¬ LeavesPointer (.surface 0 .getColorSurface) state next := by
  obtain ⟨state, reachable, passed⟩ := swaylock.play_guarded asksOnce (extendedEvents.map Event.obliged)
    (fun state => ([Owned.resource 0, .surface 0].foldlM destroyOwned state.scene).toBool &&
      ((handleRequest state.scene 0 (.surface 0 .getColorSurface)).toBool &&
        asksAgain state.scene 0 (.surface 0 .getColorSurface)))
    (startState_initial _ _ _) (by decide +kernel : ((swaylock.guarded _).play defaultState _).any _ = true)
  obtain ⟨goes, passed⟩ := Bool.and_eq_true_iff.mp passed
  obtain ⟨handles, again⟩ := Bool.and_eq_true_iff.mp passed
  cases destroyed : [Owned.resource 0, .surface 0].foldlM destroyOwned state.scene with
  | error halt =>
      rw [destroyed] at goes
      cases goes
  | ok last =>
      cases handled : handleRequest state.scene 0 (.surface 0 .getColorSurface) with
      | error halt =>
          rw [handled] at handles
          cases handles
      | ok next =>
          have replaced := (extensions_tied state).2 reachable.of_restrict 0 _ again next handled
          have kept := (extensions_tied state).1 reachable _ last destroyed
          exact ⟨state.scene, last, next, destroyed, kept, handled, replaced.2⟩

/-- A plugin that asks for a second color management object has two of them for one surface. -/
theorem second_object_untied : ¬ ∀ state : SwaylockState, swaylock.machine.Reachable state →
    ExtensionsTied state.scene := by
  intro claim
  obtain ⟨state, reachable, passed⟩ := swaylock.play_reachable
    ((extendedEvents ++ [Event.scene (.request 0 (.surface 0 .getColorSurface))]).map Event.obliged)
    (fun state => ((state.scene.resources.cell 1).any fun record => record.role == .colorSurface (some 0)) &&
      (state.scene.forwardSurfaces.cell 0).any fun surface => surface.colorSurface == some 2)
    (startState_initial _ _ _) (by decide +kernel : (swaylock.play defaultState _).any _ = true)
  obtain ⟨first, second⟩ := Bool.and_eq_true_iff.mp passed
  obtain ⟨record, live, role⟩ := (Option.any_eq_true _ _).mp first
  obtain ⟨surface, there, pointer⟩ := (Option.any_eq_true _ _).mp second
  obtain ⟨found, shown, own⟩ := (claim state reachable .colorSurface nofun).backward 1 record 0 live (eq_of_beq role)
  cases there.symm.trans shown
  cases (eq_of_beq pointer).symm.trans own

end SwaylockPlugin
