import SwaylockPlugin.Library.Forest
import SwaylockPlugin.Proof.Users

namespace SwaylockPlugin

open Library

/-- A surface is a node that names its parent and lists its pending children. -/
def ForwardSurface.node (surface : ForwardSurface) : Node SurfaceId :=
  ⟨surface.subsurfaceParent, surface.subsurfPendingEntry.link, surface.pending.subsurfacesAbove,
    surface.pending.subsurfacesBelow⟩

/-- The surfaces of a scene form a forest. -/
def Scene.forest (scene : Scene) : Forest SurfaceId := fun id =>
  (scene.forwardSurfaces.cell id).map ForwardSurface.node

section Forest

variable {first second scene : Scene}

/-- These effects touch the tree of the surfaces. -/
abbrev treeEffects : List Effect := [.surface .tree, .createSurface, .freeSurface]

theorem forest_of_changes {effects : List Effect} (changes : Changes effects first second)
    (apart : ∀ effect ∈ effects, effect ∉ treeEffects) : second.forest = first.forest := by
  funext id
  refine (changes.surfaces ForwardSurface.node (fun group listed surface => ?_) ?_ ?_).1 id
  · cases group with
    | tree => exact absurd (by simp) (apart _ listed)
    | _ => rfl
  · exact fun listed => apart _ listed (by simp)
  · exact fun listed => apart _ listed (by simp)

theorem forest_of_aside (aside : Aside first second) : second.forest = first.forest := by
  funext id
  have masked := congrArg (Option.map ForwardSurface.node) (aside.forward id)
  simp only [Option.map_map] at masked
  exact masked

theorem forest_setForward (id : SurfaceId) {change : ForwardSurface → ForwardSurface}
    {update : Node SurfaceId → Node SurfaceId} (hung : ∀ surface, (change surface).node = update surface.node) :
    (scene.setForward id change).forest = scene.forest.change id update := by
  funext other
  change ((scene.forwardSurfaces.modify id change).cell other).map _ = _
  rw [Heap.cell_modify]
  unfold Forest.change Scene.forest
  split
  · cases scene.forwardSurfaces.cell other with
    | none => rfl
    | some surface => exact congrArg some (hung surface)
  · rfl

theorem forest_setForward_same (id : SurfaceId) {change : ForwardSurface → ForwardSurface}
    (same : ∀ surface, (change surface).node = surface.node) : (scene.setForward id change).forest = scene.forest := by
  funext other
  exact scene.forwardSurfaces.view_modify id change _ (fun surface _ => same surface) other

theorem forest_setForward_at {id : SurfaceId} {surface : ForwardSurface}
    (present : scene.forwardSurfaces.cell id = some surface) (change : ForwardSurface → ForwardSurface) :
    (scene.setForward id change).forest = scene.forest.change id fun _ => (change surface).node := by
  funext other
  change ((scene.forwardSurfaces.modify id change).cell other).map _ = _
  rw [Heap.cell_modify]
  unfold Forest.change Scene.forest
  split
  · rename_i same
    rw [same, present]
    rfl
  · rfl

theorem forest_compositorCreateSurface (client : WlClientId) (version : Nat) :
    (compositorCreateSurface scene client version).forest =
      scene.forest.put scene.forwardSurfaces.next (some .bare) := by
  funext id
  change ((scene.forwardSurfaces.alloc _).cell id).map _ = _
  rw [Heap.cell_alloc]
  unfold Forest.put
  split <;> rfl

theorem unlinkPending_forest (child : SurfaceId) (link : Option SurfaceId) :
    Ensures (unlinkEntry scene (fun owner => { owner with pending := owner.pending.without child }) link) fun next =>
      next.forest = match link with
        | none => scene.forest
        | some owner => scene.forest.change owner (.without child) := by
  cases link with
  | none => exact .pure rfl
  | some owner => exact .read fun _ _ => .pure (forest_setForward owner fun _ => rfl)

theorem unlinkCommitted_forest (child : SurfaceId) (link : Option SurfaceId) :
    Ensures (unlinkEntry scene (fun owner => { owner with committed := owner.committed.without child }) link)
      fun next => next.forest = scene.forest := by
  cases link with
  | none => exact .pure rfl
  | some owner => exact .read fun _ _ => .pure (forest_setForward_same owner fun _ => rfl)

theorem destroySubsurfaceParts_forest (id : SurfaceId) :
    Ensures (destroySubsurfaceParts scene id) fun next => next.forest = scene.forest.part id := by
  refine .read fun surface present => ?_
  have told : (if surface.extSubsurface then scene.tell (.subsurface id .destroy) else scene).forest =
      scene.forest := by
    split <;> rfl
  have cleared : ((if surface.extSubsurface then scene.tell (.subsurface id .destroy) else scene).setForward id
      fun surface => { surface with extSubsurface := false, extSurface := .none }).forest =
        (if surface.extSubsurface then scene.tell (.subsurface id .destroy) else scene).forest :=
    forest_setForward_same id fun _ => rfl
  have link : (scene.forest id).bind Node.link = surface.subsurfPendingEntry.link := by
    unfold Scene.forest
    rw [present]
    rfl
  refine (unlinkPending_forest id surface.subsurfPendingEntry.link).bind fun pending lists => ?_
  refine (unlinkCommitted_forest id surface.subsurfCommittedEntry.link).bind fun committed same => .pure ?_
  have rooted : (committed.setForward id fun surface =>
      { surface with
        subsurfPendingEntry := { surface.subsurfPendingEntry with link := none }
        subsurfCommittedEntry := { surface.subsurfCommittedEntry with link := none }
        subsurfaceParent := none
        inert := true }).forest = committed.forest.change id .rooted := forest_setForward id fun _ => rfl
  rw [rooted, same, lists, cleared, told]
  unfold Forest.part
  rw [link]
  cases surface.subsurfPendingEntry.link <;> rfl

end Forest

section Placement

theorem insertAfter_perm {sibling child : SurfaceId} {list : List SurfaceId} (member : sibling ∈ list) :
    (insertAfter sibling child list).Perm (child :: list) := by
  induction list with
  | nil => cases member
  | cons first rest ih =>
      unfold insertAfter
      split
      · exact .swap child first rest
      · rename_i other
        have later : sibling ∈ rest := (List.mem_cons.mp member).resolve_left fun same => other same.symm
        exact ((ih later).cons first).trans (.swap child first rest)

theorem insertAfter_absent {sibling child : SurfaceId} {list : List SurfaceId} (absent : sibling ∉ list) :
    insertAfter sibling child list = list := by
  induction list with
  | nil => rfl
  | cons first rest ih =>
      obtain ⟨other, later⟩ := not_or.mp (mt List.mem_cons.mpr absent)
      unfold insertAfter
      rw [if_neg fun same => other same.symm, ih later]

theorem insertBefore_perm {sibling child : SurfaceId} {list : List SurfaceId} (member : sibling ∈ list) :
    (insertBefore sibling child list).Perm (child :: list) := by
  induction list with
  | nil => cases member
  | cons first rest ih =>
      unfold insertBefore
      split
      · exact .refl _
      · rename_i other
        have later : sibling ∈ rest := (List.mem_cons.mp member).resolve_left fun same => other same.symm
        exact ((ih later).cons first).trans (.swap child first rest)

theorem insertBefore_absent {sibling child : SurfaceId} {list : List SurfaceId} (absent : sibling ∉ list) :
    insertBefore sibling child list = list := by
  induction list with
  | nil => rfl
  | cons first rest ih =>
      obtain ⟨other, later⟩ := not_or.mp (mt List.mem_cons.mpr absent)
      unfold insertBefore
      rw [if_neg fun same => other same.symm, ih later]

/-- The children of a state stand in its two stacks. -/
def SurfaceState.children (state : SurfaceState) : List SurfaceId := state.subsurfacesAbove ++ state.subsurfacesBelow

/-- An insertion next to a sibling adds the child where the sibling is and nowhere else. -/
structure InsertsNext (insert : SurfaceId → SurfaceId → List SurfaceId → List SurfaceId) : Prop where
  perm : ∀ {sibling child list}, sibling ∈ list → (insert sibling child list).Perm (child :: list)
  absent : ∀ {sibling child list}, sibling ∉ list → insert sibling child list = list

theorem InsertsNext.children {insert : SurfaceId → SurfaceId → List SurfaceId → List SurfaceId}
    (inserts : InsertsNext insert) {sibling child : SurfaceId} {above below : List SurfaceId}
    (once : (above ++ below).Nodup) (member : sibling ∈ above ++ below) :
    (insert sibling child above ++ insert sibling child below).Perm (child :: (above ++ below)) := by
  by_cases inAbove : sibling ∈ above
  · have apart : sibling ∉ below := fun inBelow =>
      (List.nodup_append.mp once).2.2 sibling inAbove sibling inBelow rfl
    rw [inserts.absent apart]
    exact (inserts.perm inAbove).append_right below
  · have inBelow : sibling ∈ below := (List.mem_append.mp member).resolve_left inAbove
    rw [inserts.absent inAbove]
    exact ((inserts.perm inBelow).append_left above).trans List.perm_middle

variable {scene : Scene}

theorem placeSubsurface_cases (client : WlClientId) (user : Option SurfaceId) (sibling : SurfaceId)
    (nextToParent : SurfaceId → SurfaceState → SurfaceState)
    (nextToSibling : SurfaceId → SurfaceId → List SurfaceId → List SurfaceId) :
    Ensures (placeSubsurface scene client user sibling nextToParent nextToSibling) fun next => next = scene ∨
      (∃ parent change, next = scene.setPending parent change) ∨ next = scene.postError client .badSurface := by
  refine .read fun id _ => .read fun other _ => .check fun _ => .read fun child _ => .read fun surface _ => ?_
  split
  · exact .pure (.inl rfl)
  · split
    · exact .pure (.inl rfl)
    · refine .check fun _ => ?_
      dsimp only
      split
      · exact .read fun _ _ => .pure (.inr (.inl ⟨_, _, rfl⟩))
      · split
        · exact .read fun _ _ => .pure (.inr (.inl ⟨_, _, rfl⟩))
        · exact .pure (.inr (.inr rfl))

theorem placeSubsurface_sound (sound : scene.forest.Sound) (client : WlClientId) (user : Option SurfaceId)
    (sibling : SurfaceId) {nextToParent : SurfaceId → SurfaceState → SurfaceState}
    {nextToSibling : SurfaceId → SurfaceId → List SurfaceId → List SurfaceId}
    (joins : ∀ id pending, (nextToParent id pending).children.Perm (id :: pending.children))
    (inserts : InsertsNext nextToSibling) :
    Ensures (placeSubsurface scene client user sibling nextToParent nextToSibling) fun next => next.forest.Sound := by
  refine .read fun id named => .read fun other there => .check fun apart => .read fun child named_ => ?_
  obtain rfl : child = id := Option.some.inj (named_.symm.trans named)
  refine .read fun surface present => ?_
  split
  · exact .pure sound
  · rename_i parent hung
    split
    · exact .pure sound
    · refine .check fun _ => ?_
      have node : scene.forest child = some surface.node := by
        unfold Scene.forest
        rw [present]
        rfl
      have moved (change : SurfaceState → SurfaceState) {owner : ForwardSurface}
          (found : scene.forwardSurfaces.cell parent = some owner)
          (perm : owner.pending.children.Nodup → child ∈ owner.pending.children →
            (change owner.pending).children.Perm owner.pending.children) :
          (scene.setPending parent change).forest.Sound := by
        have ownerNode : scene.forest parent = some owner.node := by
          unfold Scene.forest
          rw [found]
          rfl
        have forest : (scene.setPending parent change).forest = _ := forest_setForward_at found _
        rw [forest]
        refine sound.rearrange (fun before same => ?_) fun before same => ?_
        · rw [ownerNode, Option.some.injEq] at same
          rw [← same]
          exact ⟨rfl, rfl⟩
        · rw [ownerNode, Option.some.injEq] at same
          rw [← same]
          obtain ⟨held, listed, member⟩ := sound.held child surface.node parent node hung
          rw [ownerNode, Option.some.injEq] at listed
          rw [← listed] at member
          exact perm (sound.once parent owner.node ownerNode) member
      have erased (owner : ForwardSurface) (once : owner.pending.children.Nodup) :
          (owner.pending.without child).children = owner.pending.children.erase child :=
        owner.node.children_without once
      dsimp only
      split
      · refine .read fun owner found => .pure (moved _ found fun once member => ?_)
        refine (joins child _).trans ?_
        rw [erased owner once]
        exact (List.perm_cons_erase member).symm
      · split
        · rename_i sameParent
          refine .read fun owner found => .pure (moved _ found fun once member => ?_)
          have among : sibling ∈ owner.pending.children := by
            have siblingNode : scene.forest sibling = some other.node := by
              unfold Scene.forest
              rw [there]
              rfl
            obtain ⟨held, listed, member⟩ := sound.held sibling other.node parent siblingNode sameParent
            unfold Scene.forest at listed
            rw [found, Option.map_some, Option.some.injEq] at listed
            rw [← listed] at member
            exact member
          have different : sibling ≠ child := by
            rintro rfl
            simp at apart
          have left : sibling ∈ (owner.pending.without child).children := by
            rw [erased owner once]
            exact (List.mem_erase_of_ne different).mpr among
          have single : (owner.pending.without child).children.Nodup := by
            rw [erased owner once]
            exact once.erase child
          refine (inserts.children single left).trans ?_
          change (child :: (owner.pending.without child).children).Perm _
          rw [erased owner once]
          exact (List.perm_cons_erase member).symm
        · refine .pure ?_
          have posted := forest_of_changes (.postError scene client .badSurface List.mem_cons_self :
            Changes [.plugin] scene _) (by simp)
          rw [posted]
          exact sound

theorem nestedSubsurfacePlaceAbove_sound (sound : scene.forest.Sound) (client : WlClientId) (user : Option SurfaceId)
    (sibling : SurfaceId) :
    Ensures (nestedSubsurfacePlaceAbove scene client user sibling) fun next => next.forest.Sound :=
  placeSubsurface_sound sound client user sibling (fun _ _ => .refl _) ⟨insertAfter_perm, insertAfter_absent⟩

theorem nestedSubsurfacePlaceBelow_sound (sound : scene.forest.Sound) (client : WlClientId) (user : Option SurfaceId)
    (sibling : SurfaceId) :
    Ensures (nestedSubsurfacePlaceBelow scene client user sibling) fun next => next.forest.Sound := by
  refine placeSubsurface_sound sound client user sibling (fun id pending => ?_) ⟨insertBefore_perm, insertBefore_absent⟩
  change (pending.subsurfacesAbove ++ (pending.subsurfacesBelow ++ [id])).Perm (id :: pending.children)
  rw [← List.append_assoc]
  exact List.perm_append_singleton id _

theorem lastAncestor_root {id : SurfaceId} {surface : ForwardSurface} (present : scene.forwardSurfaces.cell id = some surface)
    (root : surface.subsurfaceParent = none) (steps : Nat) : lastAncestor scene (steps + 1) id = .ok id := by
  unfold lastAncestor Scene.forward
  rw [present]
  change (match surface.subsurfaceParent with | none => pure id | some parent => lastAncestor scene steps parent) = _
  rw [root]
  rfl

theorem lastAncestor_live {steps : Nat} {id : SurfaceId} :
    Ensures (lastAncestor scene steps id) fun _ => ∃ surface, scene.forwardSurfaces.cell id = some surface := by
  cases steps with
  | zero => exact .throw
  | succ steps => exact .read fun surface present _ _ => ⟨surface, present⟩

theorem forest_hangChild (scene : Scene) (client : WlClientId) (child parent : SurfaceId) :
    (hangChild scene client child parent).forest = (scene.forest.change child fun node =>
      { node with parent := some parent, link := some parent }).change parent fun node =>
        { node with above := node.above ++ [child] } := by
  have hung : (Scene.setForward (scene.createResource client (.subsurface (some child))).1 child fun surface =>
      { surface with
        subsurface := some scene.resources.next
        subsurfaceParent := some parent
        subsurfPendingEntry := { surface.subsurfPendingEntry with link := some parent }
        extSurface := createExtSurface scene.globals }).forest = scene.forest.change child fun node =>
          { node with parent := some parent, link := some parent } := forest_setForward child fun _ => rfl
  rw [← hung]
  exact forest_setForward parent fun _ => rfl

theorem subcompositorGetSubsurface_sound (sound : scene.forest.Sound) (client : WlClientId) (child parent : SurfaceId) :
    Ensures (subcompositorGetSubsurface scene client child parent) fun next => next.forest.Sound := by
  refine (subcompositorGetSubsurface_parents client child parent).weaken fun next parents => ?_
  cases parents with
  | refused error =>
      rw [forest_of_changes (.postError scene client error List.mem_cons_self : Changes [.plugin] scene _) (by simp)]
      exact sound
  | @hung surface ancestor present _ root walked different =>
      obtain ⟨owner, there⟩ := lastAncestor_live ancestor walked
      have apart : parent ≠ child := by
        rintro rfl
        rw [lastAncestor_root present root, Except.ok.injEq] at walked
        exact different walked.symm
      have node : scene.forest child = some surface.node := by
        unfold Scene.forest
        rw [present]
        rfl
      have ownerNode : scene.forest parent = some owner.node := by
        unfold Scene.forest
        rw [there]
        rfl
      rw [forest_hangChild]
      refine sound.attach node root ownerNode apart (fun _ => ⟨rfl, rfl, rfl⟩) (fun _ => ⟨rfl, rfl⟩) fun before => ?_
      change (before.above ++ [child] ++ before.below).Perm (child :: (before.above ++ before.below))
      rw [List.append_assoc, List.singleton_append]
      exact List.perm_middle

end Placement

section Destruction

variable {first second third scene : Scene}

theorem surfaceHandleResourceDestroy_forest (id : SurfaceId) :
    Ensures (surfaceHandleResourceDestroy scene id) fun last =>
      last.forest = (scene.forest.part id).put id none := by
  refine (surfaceHandleResourceDestroy_parts id).weaken fun last parts => ?_
  obtain ⟨surface, hidden, released, detached, undescribed, cleared, parted, destroys⟩ := parts
  have left : undescribed.forest = scene.forest := forest_of_changes destroys.leaves (by simp)
  have objects : cleared.forest = undescribed.forest := forest_of_changes destroys.clears (by simp)
  have tree := destroySubsurfaceParts_forest id parted destroys.tree
  rw [objects, left] at tree
  rw [← tree, destroys.freed]
  funext other
  change ((parted.forwardSurfaces.free id).cell other).map _ = _
  rw [Heap.cell_free]
  unfold Forest.put
  split <;> rfl

/-- A scene shrinks when surfaces and parents are lost and only the objects of lost surfaces lose their user data. -/
structure Shrinks (first last : Scene) : Prop where
  forest : first.forest.Loses last.forest
  resources : ∀ resource record, last.resources.cell resource = some record →
    ∃ old, first.resources.cell resource = some old ∧ (record = old ∨ ∃ kind id,
      old.role = ObjectKind.role kind (some id) ∧ record.role = kind.role none ∧ last.forest id = none)

namespace Shrinks

theorem same (forest : second.forest = first.forest) (resources : second.resources = first.resources) :
    Shrinks first second where
  forest := forest ▸ .refl _
  resources _ record present := ⟨record, resources ▸ present, .inl rfl⟩

theorem trans (one : Shrinks first second) (two : Shrinks second third) : Shrinks first third where
  forest := one.forest.trans two.forest
  resources resource record present := by
    have dead {id : SurfaceId} (gone : second.forest id = none) : third.forest id = none := by
      cases there : third.forest id with
      | none => rfl
      | some node =>
          obtain ⟨before, start, _⟩ := two.forest id node there
          rw [gone] at start
          cases start
    obtain ⟨middle, there, changed⟩ := two.resources resource record present
    obtain ⟨old, start, before⟩ := one.resources resource middle there
    refine ⟨old, start, ?_⟩
    rcases changed with rfl | ⟨kind, id, role, gone, lost⟩
    · exact before.imp_right fun ⟨kind, id, role, gone, lost⟩ => ⟨kind, id, role, gone, dead lost⟩
    · rcases before with rfl | ⟨other, earlier, _, cleared, _⟩
      · exact .inr ⟨kind, id, role, gone, lost⟩
      · exact absurd (ObjectKind.role_inj (role.symm.trans cleared)).2 nofun

theorem of_changes {effects : List Effect} (changes : Changes effects first second) (apart : ∀ effect ∈ effects,
    effect ∉ [Effect.surface .tree, .createSurface, .freeSurface, .resource]) : Shrinks first second := by
  refine same (forest_of_changes changes fun effect listed => ?_) (changes.resources fun listed => ?_)
  · have outside := apart effect listed
    simp_all
  · exact apart _ listed (by simp)

end Shrinks

theorem destroyResource_shrinks (id : ResourceId) : Shrinks scene (scene.destroyResource id) where
  forest := .refl _
  resources resource record present := by
    change (scene.resources.free id).cell resource = some record at present
    rw [Heap.cell_free] at present
    split at present
    · cases present
    · exact ⟨record, present, .inl rfl⟩

theorem destroyOwned_shrinks (guard : UserGuard none scene) (owned : Owned) :
    Ensures (destroyOwned scene owned) (Shrinks scene) := by
  intro last ended
  cases destroyOwned_cases owned last ended with
  | @surface id _ handled =>
      obtain ⟨surface, gone⟩ := surfaceHandleResourceDestroy_gone guard id last handled
      have forest := surfaceHandleResourceDestroy_forest id last handled
      refine ⟨forest ▸ (Forest.Loses.part _ id).trans (.remove _ id), fun resource record present => ?_⟩
      rcases gone.cleared.cell resource record present with same | ⟨old, kind, there, role, cleared⟩
      · exact ⟨record, same, .inl rfl⟩
      · refine ⟨old, there, .inr ⟨kind, id, role, cleared, ?_⟩⟩
        unfold Scene.forest
        rw [gone.gone, Option.map_none]
  | buffer handled => exact .of_changes (bufferHandleResourceDestroy_changes _ _ handled) (by simp)
  | imageDesc changes => exact .of_changes changes (by simp)
  | @parted id surface parted handled =>
      have kept := (destroySubsurfaceParts_changes surface parted handled).resources (by simp)
      have shrunk : Shrinks scene parted := by
        refine ⟨destroySubsurfaceParts_forest surface parted handled ▸ .part _ surface, fun _ record present => ?_⟩
        exact ⟨record, kept ▸ present, .inl rfl⟩
      exact shrunk.trans (destroyResource_shrinks id)
  | @resource id handled changes => exact (Shrinks.of_changes changes (by simp)).trans (destroyResource_shrinks id)

/-- A resource of a subsurface has this surface as user data. -/
def subsurfaceUser (scene : Scene) (id : ResourceId) : Option SurfaceId :=
  (scene.resources.cell id).bind fun record =>
    match record.role with
    | .subsurface user => user
    | _ => none

theorem subsurfaceUser_of_role {id : ResourceId} {record : Resource} {user : SurfaceId}
    (present : scene.resources.cell id = some record) (role : record.role = .subsurface (some user)) :
    subsurfaceUser scene id = some user := by
  unfold subsurfaceUser
  rw [present, Option.bind_some, role]

/-- The destruction of a list of objects has come to a stage after some of them are gone. -/
structure Stage (before : Scene) (gone : List Owned) (scene : Scene) : Prop where
  users : UserGuard none scene
  shrinks : Shrinks before scene
  dead : ∀ id, Owned.surface id ∈ gone → scene.forest id = none
  parted : ∀ resource user, Owned.resource resource ∈ gone → subsurfaceUser before resource = some user →
    ∀ node, scene.forest user = some node → node.parent = none

namespace Stage

variable {before : Scene} {gone : List Owned}

theorem start (users : UserGuard none scene) (forest : scene.forest = before.forest)
    (resources : scene.resources = before.resources) : Stage before [] scene :=
  ⟨users, .same forest resources, nofun, nofun⟩

theorem userBefore (stage : Stage before gone scene) {id : ResourceId} {record : Resource} {user : SurfaceId}
    (present : scene.resources.cell id = some record) (role : record.role = .subsurface (some user)) :
    subsurfaceUser before id = some user := by
  obtain ⟨old, there, rfl | ⟨kind, _, _, cleared, _⟩⟩ := stage.shrinks.resources id record present
  · exact subsurfaceUser_of_role there role
  · have same : ObjectKind.role kind none = ObjectKind.role .subsurface (some user) := cleared.symm.trans role
    exact absurd (ObjectKind.role_inj same).2 nofun

theorem parts (stage : Stage before gone scene) (id : ResourceId) {user : SurfaceId}
    (bound : subsurfaceUser before id = some user) :
    Ensures (destroyOwned scene (.resource id)) fun next => ∀ node, next.forest user = some node →
      node.parent = none := by
  refine .read fun record present => ?_
  obtain ⟨old, there, changed⟩ := stage.shrinks.resources id record present
  have oldRole : old.role = .subsurface (some user) := by
    unfold subsurfaceUser at bound
    rw [there, Option.bind_some] at bound
    cases role : old.role with
    | subsurface other =>
        rw [role] at bound
        exact congrArg Role.subsurface bound
    | _ =>
        rw [role] at bound
        cases bound
  rcases changed with rfl | ⟨kind, other, role, _, dead⟩
  · rw [oldRole]
    refine Ensures.bind (destroySubsurfaceParts_forest user) fun parted forest => .pure fun node found => ?_
    have parents := @Forest.parent_of_part _ _ scene.forest user user
    have same : parted.forest user = some node := found
    rw [← forest, same, if_pos rfl, Option.map_some] at parents
    obtain ⟨_, _, root⟩ := Option.map_eq_some_iff.mp parents.symm
    exact root.symm
  · have same : ObjectKind.role kind (some other) = ObjectKind.role .subsurface (some user) := role.symm.trans oldRole
    obtain rfl : other = user := Option.some.inj (ObjectKind.role_inj same).2
    have shrunk := destroyOwned_shrinks stage.users (.resource id)
    intro next handled node found
    have whole : destroyOwned scene (.resource id) = .ok next := by
      change (scene.resource id >>= _) = _
      unfold Scene.resource
      rw [present]
      exact handled
    obtain ⟨_, began, _⟩ := (shrunk next whole).forest other node found
    rw [dead] at began
    cases began

theorem destroyed (stage : Stage before gone scene) (owned : Owned) :
    Ensures (destroyOwned scene owned) (Stage before (owned :: gone)) := by
  intro next handled
  have shrunk := destroyOwned_shrinks stage.users owned next handled
  refine ⟨destroyOwned_guard stage.users owned next handled, stage.shrinks.trans shrunk, fun id member => ?_,
    fun resource user member bound node found => ?_⟩
  · rcases List.mem_cons.mp member with rfl | member
    · obtain ⟨surface, gone⟩ := surfaceHandleResourceDestroy_gone stage.users id next handled
      unfold Scene.forest
      rw [gone.gone, Option.map_none]
    · cases there : next.forest id with
      | none => rfl
      | some node =>
          obtain ⟨_, began, _⟩ := shrunk.forest id node there
          rw [stage.dead id member] at began
          cases began
  · rcases List.mem_cons.mp member with rfl | member
    · exact stage.parts resource bound next handled node found
    · obtain ⟨old, began, lost⟩ := shrunk.forest user node found
      rcases lost with none_ | same
      · exact none_
      · rw [same]
        exact stage.parted resource user member bound old began

end Stage

end Destruction

end SwaylockPlugin
