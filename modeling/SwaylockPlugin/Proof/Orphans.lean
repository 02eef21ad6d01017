import SwaylockPlugin.Proof.Bonds

namespace SwaylockPlugin

open Library

/-- A child is parted from its parent when it or its subsurface object is gone. -/
def apart (scene : Scene) (gone : List Owned) (child : SurfaceId) : Bool :=
  gone.any fun owned =>
    match owned with
    | .surface id => id == child
    | .resource id => subsurfaceUser scene id == some child
    | _ => false

/-- A list of objects orphans a child when it has the parent in front of what parts the child from it. -/
def orphans (scene : Scene) (gone : List Owned) : List Owned → Bool
  | [] => false
  | .surface id :: rest =>
      ((addresses scene.forwardSurfaces fun surface => surface.subsurfaceParent == some id).any fun child =>
        !apart scene gone child) || orphans scene (.surface id :: gone) rest
  | owned :: rest => orphans scene (owned :: gone) rest

/-- A step destroys no surface that still has a child. -/
def childrenFirst (state : SwaylockState) (occurrence : Occurrence) : Bool :=
  !orphans state.scene [] (destroyedObjects state occurrence)

theorem mem_addresses {Record : Type} {heap : Heap Record} {test : Record → Bool} {id : Nat} {record : Record}
    (present : heap.cell id = some record) (passes : test record = true) : id ∈ addresses heap test := by
  unfold addresses
  rw [List.mem_filter, List.mem_range, present]
  exact ⟨heap.live_below present, passes⟩

variable {scene : Scene}

theorem destroyOwned_sound (sound : scene.forest.Sound) (owned : Owned)
    (childless : ∀ id, owned = .surface id → ∀ child node, scene.forest child = some node → node.parent ≠ some id) :
    Ensures (destroyOwned scene owned) fun next => next.forest.Sound := by
  have keeps {last : Scene} (same : last.forest = scene.forest) : last.forest.Sound := same ▸ sound
  intro next ended
  cases destroyOwned_cases owned next ended with
  | @surface id _ handled =>
      obtain ⟨surface, _, _, _, _, _, _, destroys⟩ := surfaceHandleResourceDestroy_parts id next handled
      have present := destroys.before
      rw [surfaceHandleResourceDestroy_forest id next handled]
      have parents := @Forest.parent_of_part _ _ scene.forest id id
      have live : scene.forest id = some surface.node := by
        unfold Scene.forest
        rw [present]
        rfl
      rw [if_pos rfl, live, Option.map_some] at parents
      obtain ⟨root, there, rootless⟩ := Option.map_eq_some_iff.mp parents
      refine sound.part.remove there rootless fun child node found parent => ?_
      obtain ⟨before, start, lost⟩ := Forest.Loses.part scene.forest id child node found
      rw [parent] at lost
      exact childless id rfl child before start (lost.resolve_left nofun).symm
  | buffer handled => exact keeps (forest_of_changes (bufferHandleResourceDestroy_changes _ _ handled) (by simp))
  | imageDesc changes => exact keeps (forest_of_changes changes (by simp))
  | @parted _ surface parted handled =>
      change parted.forest.Sound
      rw [destroySubsurfaceParts_forest surface parted handled]
      exact sound.part
  | @resource _ handled changes =>
      have kept : handled.forest = scene.forest := forest_of_changes changes (by simp)
      exact keeps kept

theorem Stage.unparted {before : Scene} {gone : List Owned} (stage : Stage before gone scene) {child : SurfaceId}
    {node : Node SurfaceId} {parent : SurfaceId} (present : scene.forest child = some node)
    (hung : node.parent = some parent) : apart before gone child = false ∧
      ∃ surface, before.forwardSurfaces.cell child = some surface ∧ surface.subsurfaceParent = some parent := by
  constructor
  · by_contra parted
    unfold apart at parted
    rw [Bool.not_eq_false, List.any_eq_true] at parted
    obtain ⟨owned, member, cause⟩ := parted
    cases owned with
    | surface id =>
        rw [beq_iff_eq] at cause
        rw [← cause, stage.dead id member] at present
        cases present
    | resource id =>
        rw [beq_iff_eq] at cause
        have root := stage.parted id child member cause node present
        rw [hung] at root
        cases root
    | _ => cases cause
  · obtain ⟨start, began, lost⟩ := stage.shrinks.forest child node present
    obtain ⟨surface, found, same⟩ := Option.map_eq_some_iff.mp began
    rw [hung] at lost
    refine ⟨surface, found, ?_⟩
    have parent_ : start.parent = surface.subsurfaceParent := by rw [← same]; rfl
    rw [← parent_]
    exact (lost.resolve_left nofun).symm

/-- A list that orphans no child destroys objects one by one and leaves a sound forest. -/
theorem foldlM_sound {before : Scene} (items gone : List Owned) (scene : Scene) (sound : scene.forest.Sound)
    (stage : Stage before gone scene) (kind : orphans before gone items = false) :
    Ensures (items.foldlM destroyOwned scene) fun next => next.forest.Sound := by
  induction items generalizing gone scene with
  | nil => exact .pure sound
  | cons item items ih =>
      have rest : orphans before (item :: gone) items = false := by
        cases item with
        | surface id => exact (Bool.or_eq_false_iff.mp kind).2
        | _ => exact kind
      have childless (id : SurfaceId) (same : item = .surface id) (child : SurfaceId) (node : Node SurfaceId)
          (present : scene.forest child = some node) : node.parent ≠ some id := by
        intro parent
        obtain ⟨unparted, surface, found, hung⟩ := stage.unparted present parent
        subst same
        have test := (Bool.or_eq_false_iff.mp kind).1
        rw [List.any_eq_false] at test
        have listed : child ∈ addresses before.forwardSurfaces fun surface => surface.subsurfaceParent == some id :=
          mem_addresses found (beq_iff_eq.mpr hung)
        exact test child listed (by rw [unparted]; rfl)
      rw [List.foldlM_cons]
      refine ((destroyOwned_sound sound item childless).both (stage.destroyed item)).bind fun next kept => ?_
      exact ih (item :: gone) next kept.1 kept.2 rest

theorem emptied_sound {env : Environment} {first last : Scene} (sound : first.forest.Sound)
    (users : UserGuard none first) (emptied : Emptied env first last) (kind : orphans first [] env.owned = false) :
    last.forest.Sound := by
  obtain ⟨before, after, early, destroyed, late⟩ := emptied
  have stage := Stage.start (users.keeps (.of_aside early)) (forest_of_aside early) early.resources
  have start : before.forest.Sound := by
    rw [forest_of_aside early]
    exact sound
  rw [forest_of_aside late]
  exact foldlM_sound env.owned [] before start stage kind after destroyed

theorem bgFrameHandleDone_forest (env : Environment) (id : CallbackId) :
    Ensures (bgFrameHandleDone scene env id) fun next => next.forest = scene.forest := by
  refine .read fun callbacks _ => (markPresented_changes env callbacks.swaySurface).bind fun presented changes => ?_
  have completed : Changes [.done, .resource] presented (callbacks.list.foldl completeCallback presented) := by
    refine Changes.foldl (fun middle item => ?_) callbacks.list presented
    have told : Changes [.done, .resource] middle (middle.tell (.plugin (.callbackDone item))) :=
      .tell middle _ List.mem_cons_self
    exact told.trans (.destroyResource _ item (by simp))
  refine .pure ?_
  exact (forest_of_changes completed (by simp)).trans (forest_of_changes changes (by simp))

theorem RequestStep.sound (sound : scene.forest.Sound) (users : UserGuard none scene) {client : WlClientId}
    {request : Request} {next : Scene} (step : RequestStep scene client request next)
    (kind : orphans scene [] (requestedObjects scene client request) = false) : next.forest.Sound := by
  have keeps {last : Scene} (same : last.forest = scene.forest) : last.forest.Sound := same ▸ sound
  cases step with
  | plain changes => exact keeps (forest_of_changes changes (by simp))
  | bound => exact keeps (forest_of_changes (Allotted.bound _ client _).changes (by simp))
  | layered layered => exact keeps (forest_of_changes layered.allotted.changes (by simp))
  | surface version =>
      rw [forest_compositorCreateSurface]
      refine sound.create ?_
      unfold Scene.forest
      rw [Heap.cell_next, Option.map_none]
  | buffer width height => exact keeps rfl
  | attached _ _ handled => exact keeps (forest_of_changes (nestedSurfaceAttach_changes _ _ next handled) (by simp))
  | framed id => exact keeps (forest_of_changes (nestedSurfaceFrame_changes client id) (by simp))
  | committed _ handled => exact keeps (forest_of_changes (nestedSurfaceCommit_changes _ _ handled) (by simp))
  | parented _ _ handled => exact subcompositorGetSubsurface_sound sound client _ _ next handled
  | extended _ extended => exact keeps (forest_of_changes extended.changes (by simp))
  | placedAbove _ _ handled => exact nestedSubsurfacePlaceAbove_sound sound client _ _ next handled
  | placedBelow _ _ handled => exact nestedSubsurfacePlaceBelow_sound sound client _ _ next handled
  | destroyed listed before handled =>
      rename_i middle owned
      have kept : KeepsObjects scene middle := .of_changes before (by simp)
      have same : middle.forest = scene.forest := forest_of_changes before (by simp)
      have stage := Stage.start (users.keeps kept) same kept.resources
      rw [listed] at kind
      refine foldlM_sound [owned] [] middle (keeps same) stage kind next ?_
      rw [List.foldlM_cons, handled]
      rfl

theorem ObjectStep.sound {state next : SwaylockState} {occurrence : Occurrence} (sound : state.scene.forest.Sound)
    (users : UserGuard none state.scene) (step : ObjectStep state occurrence.env occurrence.event next)
    (kind : childrenFirst state occurrence = true) : next.scene.forest.Sound := by
  obtain ⟨event, env⟩ := occurrence
  have kind : orphans state.scene [] (destroyedObjects state ⟨event, env⟩) = false := by
    simpa [childrenFirst] using kind
  cases step with
  | aside changes =>
      rw [forest_of_aside changes]
      exact sound
  | emptied listed _ _ emptied => exact emptied_sound sound users emptied (listed ▸ kind)
  | presented handled =>
      rw [bgFrameHandleDone_forest env _ next.scene handled]
      exact sound
  | request _ handled => exact (handleRequest_step _ _ next.scene handled).sound sound users kind

theorem forest_sound_of_reachable {state : SwaylockState}
    (reachable : (swaylock.machine.guarded childrenFirst).Reachable state) : state.scene.forest.Sound := by
  refine reachable.invariant_under (fun state => UserGuard none state.scene) (fun state => state.scene.forest.Sound)
    (fun _ before => userGuard_of_reachable before.of_restrict) (fun state initial => ?_)
    fun _ _ _ users sound moved => (objectStep_of_step moved.1).sound sound users moved.2
  have bare : state.scene.forest = fun _ => none := by
    have heap : state.scene.forwardSurfaces = .empty := initial.surfaces.1
    unfold Scene.forest
    rw [heap]
    rfl
  rw [bare]
  exact .empty

/-- Each child points to no parent or to a live one, which has it in one of its two pending lists and nobody else has. -/
def SubsurfacesHeld (scene : Scene) : Prop :=
  ∀ child surface, scene.forwardSurfaces.cell child = some surface → surface.subsurfaceParent = none ∨
    ∃ parent owner, surface.subsurfaceParent = some parent ∧ scene.forwardSurfaces.cell parent = some owner ∧
      surface.subsurfPendingEntry.link = some parent ∧
      (owner.pending.subsurfacesAbove ++ owner.pending.subsurfacesBelow).count child = 1 ∧
      ∀ other stranger, scene.forwardSurfaces.cell other = some stranger → other ≠ parent →
        child ∉ stranger.pending.subsurfacesAbove ++ stranger.pending.subsurfacesBelow

/-- While plugins destroy no surface that still has a child, every child is held by its live parent. -/
theorem subsurfaces_held {state : SwaylockState}
    (reachable : (swaylock.machine.guarded childrenFirst).Reachable state) : SubsurfacesHeld state.scene := by
  have sound := forest_sound_of_reachable reachable
  have node {id : SurfaceId} {surface : ForwardSurface} (present : state.scene.forwardSurfaces.cell id = some surface) :
      state.scene.forest id = some surface.node := by
    unfold Scene.forest
    rw [present]
    rfl
  intro child surface present
  cases parent : surface.subsurfaceParent with
  | none => exact .inl rfl
  | some id =>
      obtain ⟨held, there, member⟩ := sound.held child surface.node id (node present) parent
      obtain ⟨owner, found, rfl⟩ := Option.map_eq_some_iff.mp there
      refine .inr ⟨id, owner, rfl, found, ?_, ?_, fun other stranger there other_ listed => ?_⟩
      · exact (sound.linked child surface.node (node present)).trans parent
      · exact List.count_eq_one_of_mem (sound.once id owner.node (node found)) member
      · obtain ⟨record, same, parent_⟩ := sound.listed other stranger.node child (node there) listed
        rw [node present, Option.some.injEq] at same
        have hung : surface.subsurfaceParent = some other := by
          rw [← same] at parent_
          exact parent_
        rw [parent, Option.some.injEq] at hung
        exact other_ hung.symm

/-- A child whose subsurface object is destroyed before its parent is held all the time. -/
theorem subsurfaces_held_child_first : ∃ state : SwaylockState,
    (state.scene.forwardSurfaces.cell 1).isNone = true ∧ (state.scene.forwardSurfaces.cell 0).isSome = true ∧
      SubsurfacesHeld state.scene := by
  obtain ⟨state, reachable, passed⟩ := swaylock.play_guarded childrenFirst
    ((nestedEvents ++ [Event.scene (.request 0 (.object 0 .destroy)), .scene (.request 0 (.surface 1 .destroy))]).map
      Event.obliged)
    (fun state => (state.scene.forwardSurfaces.cell 1).isNone && (state.scene.forwardSurfaces.cell 0).isSome)
    (startState_initial _ _ _) (by decide +kernel : ((swaylock.guarded _).play defaultState _).any _ = true)
  rw [Bool.and_eq_true] at passed
  exact ⟨state, passed.1, passed.2, subsurfaces_held reachable⟩

/-- A parent that is destroyed before its child leaves the child with a dangling pointer. -/
theorem parent_first_dangles :
    ¬ ∀ state : SwaylockState, swaylock.machine.Reachable state → SubsurfacesHeld state.scene := by
  intro claim
  obtain ⟨state, reachable, passed⟩ := swaylock.play_reachable
    ((nestedEvents ++ [Event.scene (.request 0 (.surface 1 .destroy))]).map Event.obliged)
    (fun state => (state.scene.forwardSurfaces.cell 0).any (fun surface => surface.subsurfaceParent == some 1) &&
      (state.scene.forwardSurfaces.cell 1).isNone)
    (startState_initial _ _ _) (by decide +kernel : (swaylock.play defaultState _).any _ = true)
  simp only [Bool.and_eq_true, Option.any_eq_true, beq_iff_eq, Option.isNone_iff_eq_none] at passed
  obtain ⟨⟨surface, present, hung⟩, gone⟩ := passed
  rcases claim state reachable 0 surface present with root | ⟨parent, owner, same, live, _⟩
  · rw [hung] at root
    cases root
  · rw [hung, Option.some.injEq] at same
    rw [← same, gone] at live
    cases live

end SwaylockPlugin
