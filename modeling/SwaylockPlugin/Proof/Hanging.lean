import SwaylockPlugin.Proof.Callbacks
import SwaylockPlugin.Proof.Orphans
import SwaylockPlugin.Proof.SceneSteps

namespace SwaylockPlugin

open Library

/-- A surface hangs by its parent, by the surface whose stacks its entry is linked into, by its inert flag and by its
upstream surface. -/
structure Hanging where
  parent : Option SurfaceId
  link : Option SurfaceId
  inert : Bool
  upstream : Bool

/-- A plugin surface hangs by these fields. -/
def ForwardSurface.hanging (surface : ForwardSurface) : Hanging :=
  ⟨surface.subsurfaceParent, surface.subsurfPendingEntry.link, surface.inert, surface.extSurface.surface⟩

/-- A surface is loose when it has no parent, no linked entry and no upstream surface. -/
structure Hanging.Loose (hanging : Hanging) : Prop where
  parent : hanging.parent = none
  link : hanging.link = none
  upstream : hanging.upstream = false

theorem SurfaceGroup.mask_hanging (group : SurfaceGroup) (assigned : group ≠ .assigned) (tree : group ≠ .tree)
    (surface : ForwardSurface) : (group.mask surface).hanging = surface.hanging := by
  cases group <;> first | rfl | exact absurd rfl assigned | exact absurd rfl tree

/-- A surface hangs as before, it is shut with its output, or it is hung into a parent. -/
inductive Turns (shut : Option SurfaceId) (hung : Option (SurfaceId × SurfaceId)) (id : SurfaceId)
    (before : Hanging) : Hanging → Prop
  | same : Turns shut hung id before before
  | shut (named : shut = some id) : Turns shut hung id before { before with inert := true }
  | hung {parent : SurfaceId} (named : hung = some (id, parent)) (free : before.parent = none) :
      Turns shut hung id before ⟨some parent, some parent, before.inert, true⟩

/-- Every surface is loose or turned from how it hung before. -/
def Rehung (shut : Option SurfaceId) (hung : Option (SurfaceId × SurfaceId)) (first last : Scene) : Prop :=
  ∀ id after, last.forwardSurfaces.cell id = some after → after.hanging.Loose ∨
    ∃ before, first.forwardSurfaces.cell id = some before ∧ Turns shut hung id before.hanging after.hanging

/-- Every surface is loose or hangs as before. -/
abbrev Stilled : Scene → Scene → Prop := Rehung none none

namespace Rehung

variable {shut : Option SurfaceId} {hung : Option (SurfaceId × SurfaceId)} {first second third scene : Scene}

theorem stays {id : SurfaceId} {before after : Hanging} (turns : Turns none none id before after) : after = before := by
  cases turns with
  | same => rfl
  | shut named => cases named
  | hung named => cases named

theorem same (surfaces : second.forwardSurfaces = first.forwardSurfaces) : Rehung shut hung first second :=
  fun _ after present => .inr ⟨after, surfaces ▸ present, .same⟩

theorem trans (one : Rehung shut hung first second) (two : Stilled second third) : Rehung shut hung first third := by
  intro id after present
  rcases two id after present with loose | ⟨middle, there, turns⟩
  · exact .inl loose
  · rw [stays turns]
    exact one id middle there

theorem of_stilled (stilled : Stilled first second) : Rehung shut hung first second :=
  (same rfl : Rehung shut hung first first).trans stilled

theorem setForward (scene : Scene) (id : SurfaceId) {change : ForwardSurface → ForwardSurface}
    (kept : ∀ surface, (change surface).hanging = surface.hanging) : Stilled scene (scene.setForward id change) := by
  intro other after present
  obtain ⟨before, there, ⟨_, rfl⟩ | ⟨_, rfl⟩⟩ := scene.forwardSurfaces.old_of_modify present
  · exact .inr ⟨before, there, (kept before).symm ▸ .same⟩
  · exact .inr ⟨after, there, .same⟩

theorem of_changes {effects : List Effect} (changes : Changes effects first second)
    (apart : ∀ effect ∈ effects, effect ∉ [Effect.surface .assigned, .surface .tree]) : Stilled first second := by
  intro id after present
  have seen (group : SurfaceGroup) (listed : Effect.surface group ∈ effects) (surface : ForwardSurface) :
      (group.mask surface).hanging = surface.hanging := by
    refine group.mask_hanging ?_ ?_ surface <;> rintro rfl <;> exact apart _ listed (by simp)
  rcases changes.viewed ForwardSurface.hanging seen present with ⟨client, version, fresh⟩ | ⟨before, there, same⟩
  · exact .inl (fresh ▸ ⟨rfl, rfl, rfl⟩)
  · exact .inr ⟨before, there, same ▸ .same⟩

theorem andThen {rest : Handled Scene} (start : Rehung shut hung first second)
    (after : Ensures rest (Stilled second)) : Ensures rest (Rehung shut hung first) :=
  after.weaken fun _ stilled => start.trans stilled

theorem unlinked {change : ForwardSurface → ForwardSurface}
    (kept : ∀ surface, (change surface).hanging = surface.hanging) (link : Option SurfaceId) :
    Ensures (unlinkEntry scene change link) (Stilled scene) := by
  cases link with
  | none => exact .pure (same rfl)
  | some owner => exact .read fun _ _ => .pure (setForward scene owner kept)

theorem parted (id : SurfaceId) : Ensures (destroySubsurfaceParts scene id) (Stilled scene) := by
  refine .read fun surface _ => ?_
  let told := if surface.extSubsurface then scene.tell (.subsurface id .destroy) else scene
  have start : Stilled scene told := by
    dsimp only [told]
    split <;> exact same rfl
  let dropped (surface : ForwardSurface) : ForwardSurface :=
    { surface with extSubsurface := false, extSurface := .none }
  -- The upstream surface goes before the parent, so that only the end of the operation leaves the surface loose.
  have others {last : Scene} (stilled : Stilled (told.setForward id dropped) last) {other : SurfaceId}
      {after : ForwardSurface} (present : last.forwardSurfaces.cell other = some after) (apart : other ≠ id) :
      after.hanging.Loose ∨ ∃ before, scene.forwardSurfaces.cell other = some before ∧
        Turns none none other before.hanging after.hanging := by
    rcases stilled other after present with loose | ⟨before, there, turns⟩
    · exact .inl loose
    · rw [stays turns]
      exact start other before ((told.forwardSurfaces.cell_modify_other dropped apart).symm.trans there)
  refine .via (Stilled (told.setForward id dropped)) ?_ fun pending one => ?_
  · refine unlinked ?_ _
    exact fun _ => rfl
  refine .via (Stilled pending) ?_ fun committed two => .pure ?_
  · refine unlinked ?_ _
    exact fun _ => rfl
  intro other after present
  obtain ⟨before, there, ⟨_, rfl⟩ | ⟨apart, rfl⟩⟩ := committed.forwardSurfaces.old_of_modify present
  · refine .inl ⟨rfl, rfl, ?_⟩
    rename_i same
    subst same
    rcases one.trans two other before there with loose | ⟨start, found, turns⟩
    · exact loose.upstream
    · obtain ⟨old, _, ⟨_, rfl⟩ | ⟨apart, _⟩⟩ := told.forwardSurfaces.old_of_modify found
      · exact congrArg Hanging.upstream (stays turns)
      · exact absurd rfl apart
  · exact others (one.trans two) there apart

theorem destroyed (owned : Owned) : Ensures (destroyOwned scene owned) (Stilled scene) := by
  intro last ended
  cases destroyOwned_cases owned last ended with
  | @surface id _ handled =>
      obtain ⟨surface, hidden, released, detached, undescribed, cleared, parted_, destroys⟩ :=
        surfaceHandleResourceDestroy_parts id last handled
      have left : Stilled scene undescribed := of_changes destroys.leaves (by simp)
      have objects : Stilled undescribed cleared := of_changes destroys.clears (by simp)
      have tree : Stilled cleared parted_ := parted id parted_ destroys.tree
      exact ((left.trans objects).trans tree).trans (of_changes destroys.frees (by simp))
  | buffer handled => exact of_changes (bufferHandleResourceDestroy_changes _ _ handled) (by simp)
  | imageDesc changes => exact of_changes changes (by simp)
  | parted handled => exact (parted _ _ handled).trans (same rfl)
  | resource changes => exact (of_changes changes (by simp)).trans (same rfl)

theorem robust (shut : Option SurfaceId) (hung : Option (SurfaceId × SurfaceId)) (first : Scene) :
    Robust (Rehung shut hung first) where
  ticks _ _ turned := turned.trans (same rfl)
  retimed _ _ kept turned := by
    obtain ⟨_, _, _, rfl⟩ := kept
    exact turned.trans (same rfl)
  changes _ _ changed turned := turned.trans (of_changes changed (by simp))
  destroyed _ owned turned := turned.andThen (destroyed owned)

theorem closed (id : Option SurfaceId) : Ensures (closePluginSurface scene id) (Rehung id hung scene) := by
  cases id with
  | none => exact .pure (same rfl)
  | some id =>
      refine .read fun _ _ => .pure fun other after present => ?_
      obtain ⟨before, there, ⟨rfl, rfl⟩ | ⟨_, rfl⟩⟩ := Heap.old_of_modify _ present
      · exact .inr ⟨before, there, .shut rfl⟩
      · exact .inr ⟨after, there, .same⟩

theorem layered {client : WlClientId} {id : SurfaceId} (layered : Layered client id first second) :
    Stilled first second := by
  obtain ⟨output, target, surface, taken, serial, _, _, _, _, before, after⟩ := layered
  have assumed : Stilled first (assumeRole first id output) := setForward _ id fun _ => rfl
  have accepted : Stilled taken ((taken.createResource client (.layerSurface output)).1.setForward id
      (acceptRole serial taken.resources.next)) := setForward _ id fun _ => rfl
  exact ((assumed.trans (of_changes before (by simp))).trans accepted).trans (of_changes after (by simp))

theorem placed (client : WlClientId) (user : Option SurfaceId) (sibling : SurfaceId)
    (nextToParent : SurfaceId → SurfaceState → SurfaceState)
    (nextToSibling : SurfaceId → SurfaceId → List SurfaceId → List SurfaceId) :
    Ensures (placeSubsurface scene client user sibling nextToParent nextToSibling) (Stilled scene) := by
  refine (placeSubsurface_cases client user sibling nextToParent nextToSibling).weaken fun next ends => ?_
  obtain rfl | ⟨parent, change, rfl⟩ | rfl := ends
  · exact same rfl
  · exact setForward scene parent fun _ => rfl
  · exact same rfl

theorem parented (client : WlClientId) (child parent : SurfaceId) :
    Ensures (subcompositorGetSubsurface scene client child parent) (Rehung shut (some (child, parent)) scene) := by
  refine (subcompositorGetSubsurface_parents client child parent).weaken fun next parents => ?_
  cases parents with
  | refused error => exact same rfl
  | @hung surface _ present _ free =>
      refine Rehung.trans ?_ (setForward _ parent fun _ => rfl)
      intro other after shown
      obtain ⟨before, there, ⟨rfl, rfl⟩ | ⟨_, rfl⟩⟩ := Heap.old_of_modify _ shown
      · cases present.symm.trans there
        exact .inr ⟨surface, present, .hung rfl free⟩
      · exact .inr ⟨after, there, .same⟩

end Rehung

/-- The plugin surface of a removed output is shut. -/
def shutSurface (scene : Scene) : Event → Option SurfaceId
  | .scene (.outputRemoved name) =>
      (removedOutput scene name).bind fun output => (scene.outputs.cell output).bind SwaylockSurface.pluginSurface
  | _ => none

/-- A subsurface request hangs a surface into a parent. -/
def hungSurface : Event → Option (SurfaceId × SurfaceId)
  | .scene (.request _ (.surface child (.getSubsurface parent))) => some (child, parent)
  | _ => none

theorem handleRequest_rehung {scene : Scene} {shut : Option SurfaceId} (client : WlClientId) (request : Request) :
    Ensures (handleRequest scene client request)
      (Rehung shut (hungSurface (.scene (.request client request))) scene) := by
  intro next handled
  cases handleRequest_step client request next handled with
  | plain changes => exact .of_stilled (.of_changes changes (by simp))
  | bound => exact .of_stilled (.of_changes (Allotted.bound _ client _).changes (by simp))
  | layered layered => exact .of_stilled (.layered layered)
  | surface version => exact .of_stilled (.of_changes (compositorCreateSurface_changes _ client version) (by simp))
  | buffer width height => exact .same rfl
  | attached _ _ handled =>
      exact .of_stilled (.of_changes (nestedSurfaceAttach_changes _ _ next handled) (by simp))
  | framed id => exact .of_stilled (.of_changes (nestedSurfaceFrame_changes client id) (by simp))
  | committed _ handled => exact .of_stilled (.of_changes (nestedSurfaceCommit_changes _ _ handled) (by simp))
  | parented _ _ handled => exact Rehung.parented client _ _ next handled
  | extended _ extended => exact .of_stilled (.of_changes extended.changes (by simp))
  | placedAbove _ _ handled => exact .of_stilled (Rehung.placed client _ _ _ _ next handled)
  | placedBelow _ _ handled => exact .of_stilled (Rehung.placed client _ _ _ _ next handled)
  | destroyed _ before handled =>
      exact .of_stilled ((Rehung.of_changes before (by simp)).trans (Rehung.destroyed _ next handled))

/-- A step shuts at most the plugin surface of a removed output and hangs at most the surface that it asks to hang. -/
theorem rehung_of_step {state next : SwaylockState} {occurrence : Occurrence}
    (moved : swaylock.machine.step state occurrence next) :
    Rehung (shutSurface state.scene occurrence.event) (hungSurface occurrence.event) state.scene next.scene := by
  refine (Rehung.robust _ _ state.scene).step (.same rfl) (sceneStep_of_step moved) ?_ ?_
  · intro name id output named found present
    have removed : removedOutput state.scene name = some id := found
    have shut : shutSurface state.scene occurrence.event = output.pluginSurface := by
      rw [named]
      change (removedOutput state.scene name).bind _ = _
      rw [removed, Option.bind_some, present, Option.bind_some]
    rw [shut]
    exact Rehung.closed output.pluginSurface
  · intro client request named
    rw [named]
    exact handleRequest_rehung client request

/-- A surface is moored when its entry is linked into its parent and a parent alone gives it an upstream surface. -/
structure Hanging.Moored (hanging : Hanging) : Prop where
  link : hanging.link = hanging.parent
  upstream : hanging.upstream = hanging.parent.isSome

/-- Every surface is moored. -/
def Moored (scene : Scene) : Prop :=
  ∀ id surface, scene.forwardSurfaces.cell id = some surface → surface.hanging.Moored

/-- A surface with a parent is awake. -/
def Awake (scene : Scene) : Prop :=
  ∀ id surface, scene.forwardSurfaces.cell id = some surface → surface.subsurfaceParent.isSome = true →
    surface.inert = false

/-- A step shuts no surface with a parent and asks to hang no inert surface. -/
def hangsAwake (state : SwaylockState) (occurrence : Occurrence) : Bool :=
  ((shutSurface state.scene occurrence.event).all fun id =>
    (state.scene.forwardSurfaces.cell id).all fun surface => surface.subsurfaceParent.isNone) &&
      (hungSurface occurrence.event).all fun pair =>
        (state.scene.forwardSurfaces.cell pair.1).all fun surface => !surface.inert

section Hanging

variable {first last scene : Scene} {shut : Option SurfaceId} {hung : Option (SurfaceId × SurfaceId)}

theorem Moored.rehung (moored : Moored first) (turned : Rehung shut hung first last) : Moored last := by
  intro id after present
  rcases turned id after present with loose | ⟨before, there, turns⟩
  · refine ⟨loose.link.trans loose.parent.symm, ?_⟩
    rw [loose.upstream, loose.parent]
    rfl
  · have start := moored id before there
    generalize after.hanging = hanging at turns
    cases turns with
    | same => exact start
    | shut => exact ⟨start.link, start.upstream⟩
    | hung => exact ⟨rfl, rfl⟩

theorem moored_of_reachable {state : SwaylockState} (reachable : swaylock.machine.Reachable state) :
    Moored state.scene := by
  refine reachable.invariant_under (fun _ => True) (fun state => Moored state.scene) (fun _ _ => trivial)
    (fun start initial id surface present => ?_) fun _ _ _ _ moored moved => moored.rehung (rehung_of_step moved)
  rw [initial.surfaces.1] at present
  cases present

theorem Awake.rehung (awake : Awake first) (turned : Rehung shut hung first last)
    (shuts : ∀ id surface, shut = some id → first.forwardSurfaces.cell id = some surface →
      surface.subsurfaceParent = none)
    (hangs : ∀ id parent surface, hung = some (id, parent) → first.forwardSurfaces.cell id = some surface →
      surface.inert = false) : Awake last := by
  intro id after present parent
  rcases turned id after present with loose | ⟨before, there, turns⟩
  · have root : after.subsurfaceParent = none := loose.parent
    rw [root] at parent
    cases parent
  · change after.hanging.parent.isSome = true at parent
    change after.hanging.inert = false
    generalize after.hanging = hanging at turns parent
    cases turns with
    | same => exact awake id before there parent
    | shut named =>
        have root : before.hanging.parent = none := shuts id before named there
        change before.hanging.parent.isSome = true at parent
        rw [root] at parent
        cases parent
    | hung named => exact hangs id _ before named there

theorem awake_of_reachable {state : SwaylockState}
    (reachable : (swaylock.machine.guarded hangsAwake).Reachable state) : Awake state.scene := by
  refine reachable.invariant_under (fun _ => True) (fun state => Awake state.scene) (fun _ _ => trivial)
    (fun start initial id surface present => ?_) fun state occurrence next _ awake moved => ?_
  · rw [initial.surfaces.1] at present
    cases present
  · obtain ⟨moved, guard⟩ := moved
    obtain ⟨shuts, hangs⟩ := (Bool.and_eq_true _ _).mp guard
    refine awake.rehung (rehung_of_step moved) (fun id surface named there => ?_) ?_
    · rw [named, Option.all_some, there, Option.all_some, Option.isNone_iff_eq_none] at shuts
      exact shuts
    · intro id parent surface named there
      rw [named, Option.all_some, there, Option.all_some, Bool.not_eq_true'] at hangs
      exact hangs

theorem withSubsurface_hung {id parent : SurfaceId} {surface : ForwardSurface}
    (present : scene.forwardSurfaces.cell id = some surface) (hung : surface.subsurfaceParent = some parent)
    (linked : surface.subsurfPendingEntry.link = some parent)
    (act : SurfaceId → ForwardSurface → SurfaceId → Handled Scene) :
    withSubsurface scene (some id) act = if surface.inert then .ok scene else act id surface parent := by
  have read : scene.forward id = .ok surface := demand_ok.mpr present
  unfold withSubsurface userSurface
  change (scene.forward id >>= _) = _
  rw [read, ok_bind, hung]
  dsimp only
  rw [linked]
  rfl

theorem nestedSurfaceCommit_forwards {id : SurfaceId} {surface : ForwardSurface}
    (present : scene.forwardSurfaces.cell id = some surface) (active : surface.inert = false)
    (parent : surface.subsurfaceParent.isSome = true) :
    Ensures (nestedSurfaceCommit scene id) fun result => ∃ before after,
      result.1.wire = scene.wire ++ before ++ .surface (.ext id) .commit :: after := by
  refine .read fun shown there => ?_
  cases present.symm.trans there
  rw [active]
  refine .via (fun middle => ∃ before, middle.wire = scene.wire ++ before ++ [.surface (.ext id) .commit]) ?_ ?_
  · unfold commitSubsurface
    rw [if_pos parent]
    refine (applyPendingSurfaceUpdates_changes id (.ext id) surface.extSurface).bind fun applied changes => .pure ?_
    obtain ⟨before, told, _⟩ := changes.wire
    refine ⟨before, ?_⟩
    change applied.wire ++ [_] = _
    rw [told]
  · rintro middle ⟨before, told⟩
    refine .read fun current _ => ?_
    split
    · exact .pure ⟨before, [], told⟩
    · refine (commitInRole_changes id current _).weaken fun result changes => ?_
      obtain ⟨after, more, _⟩ := changes.wire
      refine ⟨before, after, ?_⟩
      rw [more, told, List.append_assoc, List.append_assoc, List.append_assoc]
      rfl

end Hanging

/-- A subsurface is served when it is not inert, its commits reach its own upstream surface and its requests act. -/
structure Served (scene : Scene) (id : SurfaceId) (surface : ForwardSurface) (parent : SurfaceId) : Prop where
  active : surface.inert = false
  upstream : surface.extSurface.surface = true
  commits : ∀ last outcome, nestedSurfaceCommit scene id = .ok (last, outcome) → ∃ before after,
    last.wire = scene.wire ++ before ++ .surface (.ext id) .commit :: after
  acts : ∀ act, withSubsurface scene (some id) act = act id surface parent

/-- Every surface with a live parent is served. -/
def SubsurfacesServed (scene : Scene) : Prop :=
  ∀ id surface parent, scene.forwardSurfaces.cell id = some surface → surface.subsurfaceParent = some parent →
    scene.forwardSurfaces.live parent = true → Served scene id surface parent

theorem Served.of_active {scene : Scene} {id parent : SurfaceId} {surface : ForwardSurface}
    (present : scene.forwardSurfaces.cell id = some surface) (hung : surface.subsurfaceParent = some parent)
    (moored : surface.hanging.Moored) (active : surface.inert = false) : Served scene id surface parent where
  active := active
  upstream := moored.upstream.trans (by rw [show surface.hanging.parent = some parent from hung]; rfl)
  commits last outcome handled :=
    nestedSurfaceCommit_forwards present active (by rw [hung]; rfl) (last, outcome) handled
  acts act := by
    rw [withSubsurface_hung present hung (moored.link.trans hung), active]
    rfl

/-- While no output goes away whose plugin surface is a subsurface and no inert surface gets a subsurface object, every
subsurface with a live parent is served, and a surface that gets a parent is served from then on exactly when it was
not inert. -/
theorem subsurfaces_served (state : SwaylockState) :
    ((swaylock.machine.guarded hangsAwake).Reachable state → SubsurfacesServed state.scene) ∧
      (swaylock.machine.Reachable state → ∀ client child parent before after next,
        state.scene.forwardSurfaces.cell child = some before → before.subsurfaceParent = none →
          handleRequest state.scene client (.surface child (.getSubsurface parent)) = .ok next →
            next.forwardSurfaces.cell child = some after → after.subsurfaceParent = some parent →
              (Served next child after parent ↔ before.inert = false)) := by
  refine ⟨fun reachable id surface parent present hung _ => ?_, ?_⟩
  · refine .of_active present hung (moored_of_reachable reachable.of_restrict id surface present) ?_
    exact awake_of_reachable reachable id surface present (by rw [hung]; rfl)
  · intro reachable client child parent before after next there free handled present hung
    have turned : Rehung none _ state.scene next := handleRequest_rehung client _ next handled
    have moored := (moored_of_reachable reachable).rehung turned
    have kept : after.inert = before.inert := by
      rcases turned child after present with loose | ⟨found, shown, turns⟩
      · cases loose.parent.symm.trans hung
      · cases there.symm.trans shown
        change after.hanging.inert = before.hanging.inert
        generalize after.hanging = hanging at turns
        cases turns with
        | same => rfl
        | shut named => cases named
        | hung => rfl
    rw [← kept]
    exact ⟨Served.active, Served.of_active present hung (moored child after present)⟩

/-- A subsurface is served, and the surface above it may get a parent in its turn. -/
theorem subsurfaces_served_nested : ∃ (state : SwaylockState) (next : Scene) (after : ForwardSurface),
    SubsurfacesServed state.scene ∧ handleRequest state.scene 0 (.surface 1 (.getSubsurface 2)) = .ok next ∧
      next.forwardSurfaces.cell 1 = some after ∧ Served next 1 after 2 := by
  obtain ⟨state, reachable, passed⟩ := swaylock.play_guarded hangsAwake
    ((nestedEvents ++ [Event.scene (.request 0 (.createSurface 4))]).map Event.obliged)
    (fun state => ((state.scene.forwardSurfaces.cell 1).any fun surface =>
      surface.subsurfaceParent.isNone && !surface.inert) &&
        match handleRequest state.scene 0 (.surface 1 (.getSubsurface 2)) with
        | .ok next => (next.forwardSurfaces.cell 1).any fun surface => surface.subsurfaceParent == some 2
        | .error _ => false)
    (startState_initial _ _ _) (by decide +kernel : ((swaylock.guarded _).play defaultState _).any _ = true)
  obtain ⟨roots, passed⟩ := Bool.and_eq_true_iff.mp passed
  obtain ⟨before, there, holds⟩ := (Option.any_eq_true _ _).mp roots
  obtain ⟨free, active⟩ := Bool.and_eq_true_iff.mp holds
  split at passed
  · rename_i next handled
    obtain ⟨after, present, hung⟩ := (Option.any_eq_true _ _).mp passed
    have serves := (subsurfaces_served state).2 reachable.of_restrict 0 1 2 before after next there
      (Option.isNone_iff_eq_none.mp free) handled present (eq_of_beq hung)
    have awake : before.inert = false := by simpa using active
    exact ⟨state, next, after, (subsurfaces_served state).1 reachable, handled, present, serves.mpr awake⟩
  · cases passed

/-- A surface that gets a second subsurface object stays inert below its parent. -/
theorem second_subsurface_inert :
    ¬ ∀ state : SwaylockState, swaylock.machine.Reachable state → SubsurfacesServed state.scene := by
  intro claim
  obtain ⟨state, reachable, passed⟩ := swaylock.play_reachable
    ((nestedEvents ++ [Event.scene (.request 0 (.object 0 .destroy)),
      .scene (.request 0 (.surface 0 (.getSubsurface 1)))]).map Event.obliged)
    (fun state => (state.scene.forwardSurfaces.cell 0).any (fun surface =>
      surface.subsurfaceParent == some 1 && surface.inert) && state.scene.forwardSurfaces.live 1)
    (startState_initial _ _ _) (by decide +kernel : (swaylock.play defaultState _).any _ = true)
  obtain ⟨child, live⟩ := Bool.and_eq_true_iff.mp passed
  obtain ⟨surface, there, holds⟩ := (Option.any_eq_true _ _).mp child
  obtain ⟨hung, inert⟩ := Bool.and_eq_true_iff.mp holds
  have active := (claim state reachable 0 surface 1 there (eq_of_beq hung) live).active
  rw [inert] at active
  cases active

end SwaylockPlugin
