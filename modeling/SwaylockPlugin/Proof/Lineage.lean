import SwaylockPlugin.Library.Lineage
import SwaylockPlugin.Proof.Hanging

namespace SwaylockPlugin

open Library

/-- The surfaces of a scene are the forest among the addresses that were ever given out. -/
def Scene.grove (scene : Scene) : Forest SurfaceId × Set SurfaceId :=
  (scene.forest, { id | id < scene.forwardSurfaces.next })

theorem Scene.forest_of_present {scene : Scene} {id : SurfaceId} {surface : ForwardSurface}
    (present : scene.forwardSurfaces.cell id = some surface) : scene.forest id = some surface.node := by
  unfold Scene.forest
  rw [present]
  rfl

theorem InsertsNext.joins {insert : SurfaceId → SurfaceId → List SurfaceId → List SurfaceId}
    (inserts : InsertsNext insert) {sibling child : SurfaceId} {list : List SurfaceId} (member : sibling ∈ list) :
    child ∈ insert sibling child list :=
  (inserts.perm member).mem_iff.mpr List.mem_cons_self

theorem InsertsNext.keeps {insert : SurfaceId → SurfaceId → List SurfaceId → List SurfaceId}
    (inserts : InsertsNext insert) {sibling child other : SurfaceId} {list : List SurfaceId} (member : other ∈ list) :
    other ∈ insert sibling child list := by
  by_cases among : sibling ∈ list
  · exact (inserts.perm among).mem_iff.mpr (List.mem_cons_of_mem _ member)
  · rw [inserts.absent among]
    exact member

theorem SurfaceState.mem_without {pending : SurfaceState} {child other : SurfaceId} (apart : other ≠ child)
    (member : other ∈ pending.children) : other ∈ (pending.without child).children :=
  (List.mem_append.mp member).elim (fun above => List.mem_append_left _ ((List.mem_erase_of_ne apart).mpr above))
    fun below => List.mem_append_right _ ((List.mem_erase_of_ne apart).mpr below)

/-- A scene evolves when its forest grows step by step. -/
def Evolves (first last : Scene) : Prop := Relation.ReflTransGen Forest.Grows first.grove last.grove

namespace Evolves

variable {first second third scene : Scene}

theorem same (forest : second.forest = first.forest) (next : second.forwardSurfaces.next = first.forwardSurfaces.next) :
    Evolves first second := by
  unfold Evolves Scene.grove
  rw [forest, next]

theorem trans (one : Evolves first second) (two : Evolves second third) : Evolves first third :=
  Relation.ReflTransGen.trans one two

theorem step {forest : Forest SurfaceId} (next : second.forwardSurfaces.next = first.forwardSurfaces.next)
    (grown : second.forest = forest)
    (grows : Forest.Grows first.grove (forest, { id | id < first.forwardSurfaces.next })) : Evolves first second := by
  refine .single ?_
  unfold Scene.grove at grows ⊢
  rw [grown, next]
  exact grows

theorem next_of_changes {effects : List Effect} (changes : Changes effects first second)
    (create : Effect.createSurface ∉ effects) : second.forwardSurfaces.next = first.forwardSurfaces.next := by
  induction changes with
  | refl => rfl
  | step _ listed change ih =>
      rw [← ih]
      cases change with
      | createSurface => exact absurd listed create
      | _ => rfl

theorem of_changes {effects : List Effect} (changes : Changes effects first second)
    (apart : ∀ effect ∈ effects, effect ∉ treeEffects) : Evolves first second :=
  same (forest_of_changes changes apart) (next_of_changes changes fun listed => apart _ listed (by simp))

theorem andThen {rest : Handled Scene} (start : Evolves first second) (after : Ensures rest (Evolves second)) :
    Ensures rest (Evolves first) :=
  after.weaken fun _ evolved => start.trans evolved

theorem parted (id : SurfaceId) : Ensures (destroySubsurfaceParts scene id) (Evolves scene) := by
  refine ((destroySubsurfaceParts_forest id).both (destroySubsurfaceParts_changes id)).weaken fun last ends => ?_
  exact step (next_of_changes ends.2 (by simp)) ends.1 (.part id)

theorem destroyed (owned : Owned) : Ensures (destroyOwned scene owned) (Evolves scene) := by
  intro last ended
  cases destroyOwned_cases owned last ended with
  | @surface id _ handled =>
      have forest := surfaceHandleResourceDestroy_forest id last handled
      have next := next_of_changes (surfaceHandleResourceDestroy_changes id last handled) (by simp)
      unfold Evolves Scene.grove
      rw [forest, next]
      exact Relation.ReflTransGen.tail (.single (.part id)) (.remove id)
  | buffer handled => exact of_changes (bufferHandleResourceDestroy_changes _ _ handled) (by simp)
  | imageDesc changes => exact of_changes changes (by simp)
  | parted handled => exact (parted _ _ handled).trans (same rfl rfl)
  | resource changes => exact (of_changes changes (by simp)).trans (same rfl rfl)

theorem robust (first : Scene) : Robust (Evolves first) where
  ticks _ _ evolved := evolved.trans (same rfl rfl)
  retimed _ _ kept evolved := by
    obtain ⟨_, _, _, rfl⟩ := kept
    exact evolved.trans (same rfl rfl)
  changes _ _ changed evolved := evolved.trans (of_changes changed (by simp))
  destroyed _ owned evolved := evolved.andThen (destroyed owned)

theorem closed (id : Option SurfaceId) : Ensures (closePluginSurface scene id) (Evolves scene) := by
  cases id with
  | none => exact .pure (same rfl rfl)
  | some id => exact .read fun _ _ => .pure (same (forest_setForward_same id fun _ => rfl) rfl)

theorem created (scene : Scene) (client : WlClientId) (version : Nat) :
    Evolves scene (compositorCreateSurface scene client version) := by
  refine .single ?_
  have known : insert scene.forwardSurfaces.next { id | id < scene.forwardSurfaces.next } =
      { id | id < (compositorCreateSurface scene client version).forwardSurfaces.next } := by
    ext id
    change id = scene.forwardSurfaces.next ∨ id < scene.forwardSurfaces.next ↔ id < scene.forwardSurfaces.next + 1
    omega
  unfold Scene.grove
  rw [forest_compositorCreateSurface, ← known]
  exact .create (Nat.lt_irrefl _)

theorem restacked {parent : SurfaceId} {owner : ForwardSurface} {change : SurfaceState → SurfaceState}
    (present : scene.forwardSurfaces.cell parent = some owner)
    (kept : ∀ child ∈ owner.pending.children, child ∈ (change owner.pending).children) :
    Evolves scene (scene.setPending parent change) := by
  refine step rfl (forest_setForward_at present _) (.rearrange fun node there => ?_)
  change scene.forest parent = some node at there
  rw [Scene.forest_of_present present] at there
  cases there
  exact ⟨rfl, kept⟩

theorem placed {known : Set SurfaceId} (housed : scene.forest.Housed known) (client : WlClientId)
    (user : Option SurfaceId) (sibling : SurfaceId) {nextToParent : SurfaceId → SurfaceState → SurfaceState}
    {nextToSibling : SurfaceId → SurfaceId → List SurfaceId → List SurfaceId}
    (joins : ∀ id pending, (nextToParent id pending).children.Perm (id :: pending.children))
    (inserts : InsertsNext nextToSibling) :
    Ensures (placeSubsurface scene client user sibling nextToParent nextToSibling) (Evolves scene) := by
  refine .read fun id named => .read fun other there => .check fun apart => .read fun child named_ => ?_
  obtain rfl : child = id := Option.some.inj (named_.symm.trans named)
  have apart : child ≠ sibling := by simpa using apart
  refine .read fun surface present => ?_
  split
  · exact .pure (same rfl rfl)
  · rename_i parent hung
    split
    · exact .pure (same rfl rfl)
    · refine .check fun _ => ?_
      dsimp only
      split
      · refine .read fun owner found => .pure (restacked found fun one member => ?_)
        refine (joins child _).mem_iff.mpr ?_
        by_cases same : one = child
        · exact same ▸ List.mem_cons_self
        · exact List.mem_cons_of_mem _ (SurfaceState.mem_without same member)
      · split
        · rename_i sameParent
          refine .read fun owner found => .pure (restacked found fun one member => ?_)
          have parent_ : scene.forest.Parent sibling parent := ⟨other.node, Scene.forest_of_present there, sameParent⟩
          have among : sibling ∈ owner.pending.children :=
            housed.held sibling parent owner.node parent_ (Scene.forest_of_present found)
          have left : sibling ∈ (owner.pending.without child).children := SurfaceState.mem_without apart.symm among
          change one ∈ nextToSibling sibling child (owner.pending.without child).subsurfacesAbove ++
            nextToSibling sibling child (owner.pending.without child).subsurfacesBelow
          by_cases same : one = child
          · subst same
            exact (List.mem_append.mp left).elim (fun above => List.mem_append_left _ (inserts.joins above))
              fun below => List.mem_append_right _ (inserts.joins below)
          · exact (List.mem_append.mp (SurfaceState.mem_without same member)).elim
              (fun above => List.mem_append_left _ (inserts.keeps above))
              fun below => List.mem_append_right _ (inserts.keeps below)
        · exact .pure (of_changes (.postError scene client .badSurface List.mem_cons_self : Changes [.plugin] scene _)
            (by simp))

end Evolves

section Walk

variable {scene : Scene}

theorem lastAncestor_present {id : SurfaceId} {surface : ForwardSurface}
    (present : scene.forwardSurfaces.cell id = some surface) (steps : Nat) : lastAncestor scene (steps + 1) id =
      match surface.subsurfaceParent with
      | none => .ok id
      | some parent => lastAncestor scene steps parent := by
  have read : scene.forward id = .ok surface := demand_ok.mpr present
  conv_lhs => unfold lastAncestor
  rw [read]
  rfl

theorem lastAncestor_climbs {steps : Nat} {id : SurfaceId} (endless : lastAncestor scene steps id = .error .endless) :
    ∃ last, scene.forest.climb steps id = some last := by
  induction steps generalizing id with
  | zero => exact ⟨id, rfl⟩
  | succ steps ih =>
      cases present : scene.forwardSurfaces.cell id with
      | none =>
          have missing : scene.forward id = .error .invalidPointer := by
            unfold Scene.forward
            rw [present]
            rfl
          unfold lastAncestor at endless
          rw [missing] at endless
          cases endless
      | some surface =>
          rw [lastAncestor_present present] at endless
          cases hung : surface.subsurfaceParent with
          | none =>
              rw [hung] at endless
              cases endless
          | some parent =>
              rw [hung] at endless
              obtain ⟨last, climbs⟩ := ih endless
              refine ⟨last, ?_⟩
              unfold Forest.climb
              rw [Scene.forest_of_present present, Option.bind_some]
              change surface.subsurfaceParent.bind _ = _
              rw [hung]
              exact climbs

theorem lastAncestor_ends (acyclic : scene.forest.Acyclic) {steps : Nat} (enough : scene.forwardSurfaces.next < steps)
    (id : SurfaceId) : lastAncestor scene steps id ≠ .error .endless := by
  intro endless
  obtain ⟨last, climbs⟩ := lastAncestor_climbs endless
  have bound : steps ≤ (Finset.range scene.forwardSurfaces.next).card := by
    refine acyclic.climb_le (fun id node there => ?_) climbs
    obtain ⟨surface, present, _⟩ := Option.map_eq_some_iff.mp there
    exact Finset.mem_range.mpr (scene.forwardSurfaces.live_below present)
  rw [Finset.card_range] at bound
  omega

theorem lastAncestor_root_of {steps : Nat} {id : SurfaceId} :
    Ensures (lastAncestor scene steps id) fun root => scene.forest.Descends id root ∧
      ∀ parent, ¬ scene.forest.Parent root parent := by
  induction steps generalizing id with
  | zero => exact .throw
  | succ steps ih =>
      refine .read fun surface present => ?_
      split
      · rename_i root
        refine .pure ⟨.refl, fun parent ⟨node, there, named⟩ => ?_⟩
        rw [Scene.forest_of_present present] at there
        cases there
        cases root.symm.trans named
      · rename_i parent hung
        refine ih.weaken fun root ends => ⟨.head ?_ ends.1, ends.2⟩
        exact ⟨surface.node, Scene.forest_of_present present, hung⟩

end Walk

section Lineage

variable {scene : Scene}

/-- The last ancestor of a parent is a root that is not the child exactly when the parent does not descend from it. -/
theorem lastAncestor_eq_iff {steps : Nat} {child parent ancestor : SurfaceId} {surface : ForwardSurface}
    (present : scene.forwardSurfaces.cell child = some surface) (free : surface.subsurfaceParent = none)
    (walked : lastAncestor scene steps parent = .ok ancestor) :
    ancestor = child ↔ scene.forest.Descends parent child := by
  obtain ⟨descends, root⟩ := lastAncestor_root_of ancestor walked
  constructor
  · rintro rfl
    exact descends
  · intro under
    refine Forest.Descends.roots_eq descends under root fun other ⟨node, there, named⟩ => ?_
    rw [Scene.forest_of_present present] at there
    cases there
    cases free.symm.trans named

theorem subcompositorGetSubsurface_evolves (client : WlClientId) (child parent : SurfaceId) :
    Ensures (subcompositorGetSubsurface scene client child parent) (Evolves scene) := by
  refine (subcompositorGetSubsurface_parents client child parent).weaken fun next parents => ?_
  cases parents with
  | refused error =>
      exact .of_changes (.postError scene client error List.mem_cons_self : Changes [.plugin] scene _) (by simp)
  | @hung surface ancestor present _ free walked different =>
      obtain ⟨owner, there⟩ := lastAncestor_live ancestor walked
      have known : parent < scene.forwardSurfaces.next := scene.forwardSurfaces.live_below there
      have apart := mt (lastAncestor_eq_iff present free walked).mpr different
      refine Evolves.step rfl (forest_hangChild scene client child parent) ?_
      refine .hang known apart (fun _ => ⟨rfl, rfl⟩) fun node => ⟨rfl, ?_, fun other member => ?_⟩
      · exact List.mem_append_left _ (List.mem_append_right _ List.mem_cons_self)
      · exact (List.mem_append.mp member).elim (fun above => List.mem_append_left _ (List.mem_append_left _ above))
          fun below => List.mem_append_right _ below

theorem handleRequest_evolves {known : Set SurfaceId} (housed : scene.forest.Housed known) (client : WlClientId)
    (request : Request) : Ensures (handleRequest scene client request) (Evolves scene) := by
  intro next handled
  cases handleRequest_step client request next handled with
  | plain changes => exact .of_changes changes (by simp)
  | bound => exact .of_changes (Allotted.bound _ client _).changes (by simp)
  | layered layered => exact .of_changes layered.allotted.changes (by simp)
  | surface version => exact .created scene client version
  | buffer width height => exact .same rfl rfl
  | attached _ _ handled => exact .of_changes (nestedSurfaceAttach_changes _ _ next handled) (by simp)
  | framed id => exact .of_changes (nestedSurfaceFrame_changes client id) (by simp)
  | committed _ handled => exact .of_changes (nestedSurfaceCommit_changes _ _ handled) (by simp)
  | parented _ _ handled => exact subcompositorGetSubsurface_evolves client _ _ next handled
  | extended _ extended => exact .of_changes extended.changes (by simp)
  | placedAbove _ _ handled =>
      exact Evolves.placed housed client _ _ (fun _ _ => .refl _) ⟨insertAfter_perm, insertAfter_absent⟩ next handled
  | placedBelow _ _ handled =>
      have inserts : InsertsNext insertBefore := ⟨insertBefore_perm, insertBefore_absent⟩
      refine Evolves.placed housed client _ _ (fun id pending => ?_) inserts next handled
      change (pending.subsurfacesAbove ++ (pending.subsurfacesBelow ++ [id])).Perm (id :: pending.children)
      rw [← List.append_assoc]
      exact List.perm_append_singleton id _
  | destroyed _ before handled =>
      exact (Evolves.of_changes before (by simp)).trans (Evolves.destroyed _ next handled)

theorem evolves_of_step {state next : SwaylockState} {occurrence : Occurrence} {known : Set SurfaceId}
    (housed : state.scene.forest.Housed known) (moved : swaylock.machine.step state occurrence next) :
    Evolves state.scene next.scene := by
  refine (Evolves.robust state.scene).step (.same rfl rfl) (sceneStep_of_step moved) ?_ ?_
  · intro _ _ output _ _ _
    exact Evolves.andThen (.same rfl rfl) (Evolves.closed output.pluginSurface)
  · exact fun client request _ => handleRequest_evolves housed client request

/-- A scene has a lineage when its forest is acyclic and its children are housed. -/
structure Scene.Lineage (scene : Scene) : Prop where
  acyclic : scene.forest.Acyclic
  housed : scene.forest.Housed { id | id < scene.forwardSurfaces.next }

theorem lineage_of_reachable {state : SwaylockState} (reachable : swaylock.machine.Reachable state) :
    state.scene.Lineage := by
  refine reachable.invariant_under (fun _ => True) (fun state => state.scene.Lineage) (fun _ _ => trivial)
    (fun start initial => ?_) fun state _ next _ lineage moved => ?_
  · have bare : start.scene.forest = fun _ => none := by
      unfold Scene.forest
      rw [initial.surfaces.1]
      rfl
    refine ⟨bare ▸ .empty, ?_, ?_⟩
    · rintro child parent ⟨node, there, _⟩
      rw [bare] at there
      cases there
    · rintro child parent _ ⟨node, there, _⟩
      rw [bare] at there
      cases there
  · have evolved := evolves_of_step lineage.housed moved
    exact ⟨Forest.Grows.run_acyclic evolved lineage.acyclic, Forest.Grows.run_housed evolved lineage.housed⟩

end Lineage

section Refusal

variable {scene : Scene}

theorem lastAncestor_live_cases {steps : Nat} {id : SurfaceId}
    (live : ∀ ancestor, scene.forest.Descends id ancestor → scene.forwardSurfaces.live ancestor = true) :
    lastAncestor scene steps id = .error .endless ∨ ∃ root, lastAncestor scene steps id = .ok root := by
  induction steps generalizing id with
  | zero => exact .inl rfl
  | succ steps ih =>
      obtain ⟨surface, present⟩ := Heap.live_iff.mp (live id .refl)
      rw [lastAncestor_present present]
      cases hung : surface.subsurfaceParent with
      | none => exact .inr ⟨id, rfl⟩
      | some parent =>
          refine ih fun ancestor under => live ancestor (.head ?_ under)
          exact ⟨surface.node, Scene.forest_of_present present, hung⟩

/-- A request is refused with an error when it posts the error and nothing else. -/
def Refused (client : WlClientId) (error : PluginError) (first last : Scene) : Prop :=
  last.wire = first.wire ++ [.plugin (.error client error)]

theorem subcompositorGetSubsurface_refused (client : WlClientId) {child parent ancestor : SurfaceId}
    {surface : ForwardSurface} (present : scene.forwardSurfaces.cell child = some surface)
    (unlayered : surface.layerSurface = none) (free : surface.subsurfaceParent = none)
    (walked : lastAncestor scene (scene.forwardSurfaces.next + 1) parent = .ok ancestor) :
    ∃ next, subcompositorGetSubsurface scene client child parent = .ok next ∧
      (Refused client .badParent scene next ↔ ancestor = child) := by
  have read : scene.forward child = .ok surface := demand_ok.mpr present
  unfold subcompositorGetSubsurface
  rw [read]
  change ∃ next, (if surface.layerSurface.isSome || surface.subsurfaceParent.isSome then _ else _) = _ ∧ _
  rw [unlayered, free, if_neg (by simp), walked]
  change ∃ next, (if ancestor = child then _ else _) = _ ∧ _
  split
  · rename_i same
    exact ⟨_, rfl, fun _ => same, fun _ => rfl⟩
  · rename_i apart
    refine ⟨_, rfl, fun refused => ?_, fun same => absurd same apart⟩
    have silent : scene.wire = scene.wire ++ [.plugin (.error client .badParent)] := refused
    simp at silent

theorem subcompositorGetSubsurface_roled {client : WlClientId} {child parent : SurfaceId} {surface : ForwardSurface}
    (present : scene.forwardSurfaces.cell child = some surface)
    (roled : surface.layerSurface.isSome = true ∨ surface.subsurfaceParent.isSome = true) :
    subcompositorGetSubsurface scene client child parent = .ok (scene.postError client .badSurface) := by
  have read : scene.forward child = .ok surface := demand_ok.mpr present
  unfold subcompositorGetSubsurface
  rw [read]
  change (if surface.layerSurface.isSome || surface.subsurfaceParent.isSome then _ else _) = _
  rw [if_pos (by simpa using roled)]
  rfl

end Refusal

/-- A subsurface request meets surfaces whose ancestors are all live. -/
structure AsksBelow (scene : Scene) (client : WlClientId) (child parent : SurfaceId) (surface : ForwardSurface) :
    Prop where
  present : scene.forwardSurfaces.cell child = some surface
  owned : ownsSurface scene client child = true
  also : ownsSurface scene client parent = true
  live : ∀ ancestor, scene.forest.Descends parent ancestor → scene.forwardSurfaces.live ancestor = true

/-- In every reachable state the parents are acyclic and the walk to the last ancestor ends, and a subsurface request
is refused for the child when it has a role and otherwise for the parent exactly when it descends from the child. -/
theorem subsurface_parents_acyclic {state : SwaylockState} (reachable : swaylock.machine.Reachable state) :
    state.scene.forest.Acyclic ∧
      (∀ steps id, state.scene.forwardSurfaces.next < steps → lastAncestor state.scene steps id ≠ .error .endless) ∧
        ∀ client child parent surface, AsksBelow state.scene client child parent surface →
          ∃ next, handleRequest state.scene client (.surface child (.getSubsurface parent)) = .ok next ∧
            (surface.layerSurface = none → surface.subsurfaceParent = none →
              (Refused client .badParent state.scene next ↔ state.scene.forest.Descends parent child)) ∧
            (surface.layerSurface.isSome = true ∨ surface.subsurfaceParent.isSome = true →
              Refused client .badSurface state.scene next) := by
  have acyclic := (lineage_of_reachable reachable).acyclic
  refine ⟨acyclic, fun steps id enough => lastAncestor_ends acyclic enough id, ?_⟩
  intro client child parent surface asks
  have handled : handleRequest state.scene client (.surface child (.getSubsurface parent)) =
      subcompositorGetSubsurface state.scene client child parent := by
    unfold handleRequest handleSurface
    dsimp only
    rw [if_pos asks.owned, if_pos asks.also]
  rw [handled]
  by_cases roled : surface.layerSurface.isSome = true ∨ surface.subsurfaceParent.isSome = true
  · refine ⟨_, subcompositorGetSubsurface_roled asks.present roled, fun unlayered free => ?_, fun _ => rfl⟩
    rw [unlayered, free] at roled
    exact absurd roled (by simp)
  · obtain ⟨unlayered, free⟩ := not_or.mp roled
    rw [Bool.not_eq_true, Option.isSome_eq_false_iff, Option.isNone_iff_eq_none] at unlayered free
    obtain ⟨ancestor, walked⟩ := (lastAncestor_live_cases asks.live).resolve_left
      (lastAncestor_ends acyclic (Nat.lt_succ_self _) parent)
    obtain ⟨next, returns, refused⟩ :=
      subcompositorGetSubsurface_refused client asks.present unlayered free walked
    refine ⟨next, returns, fun _ _ => ?_, fun role => absurd role roled⟩
    exact refused.trans (lastAncestor_eq_iff asks.present free walked)

theorem live_of_descends {scene : Scene} {one two ancestor : SurfaceId} {child root : ForwardSurface}
    (present : scene.forwardSurfaces.cell one = some child) (hung : child.subsurfaceParent = some two)
    (there : scene.forwardSurfaces.cell two = some root) (free : root.subsurfaceParent = none)
    (descends : scene.forest.Descends one ancestor) : scene.forwardSurfaces.live ancestor = true := by
  rcases Relation.ReflTransGen.cases_head descends with rfl | ⟨middle, ⟨node, shown, named⟩, rest⟩
  · exact Heap.live_iff.mpr ⟨child, present⟩
  · rw [Scene.forest_of_present present] at shown
    cases shown
    cases hung.symm.trans named
    have same : ancestor = two := Forest.Descends.of_root rest fun parent ⟨node, shown, named⟩ => by
      rw [Scene.forest_of_present there] at shown
      cases shown
      cases free.symm.trans named
    exact same ▸ Heap.live_iff.mpr ⟨root, there⟩

/-- A child and its root are two live surfaces of a plugin. -/
def nestedPair (state : SwaylockState) : Bool :=
  ((state.scene.forwardSurfaces.cell 0).any fun surface => surface.client == 0 && surface.subsurfaceParent == some 1) &&
    (state.scene.forwardSurfaces.cell 1).any fun surface => surface.client == 0 && surface.subsurfaceParent == none &&
      surface.layerSurface == none

/-- A parent that asks to be a child of its own child is refused. -/
theorem subsurface_parents_acyclic_nested : ∃ state next : Scene, state.forest.Acyclic ∧
    handleRequest state 0 (.surface 1 (.getSubsurface 0)) = .ok next ∧ Refused 0 .badParent state next := by
  obtain ⟨state, reachable, passed⟩ := swaylock.play_reachable (nestedEvents.map Event.obliged) nestedPair
    (startState_initial _ _ _) (by decide +kernel : (swaylock.play defaultState _).any _ = true)
  obtain ⟨first, second⟩ := Bool.and_eq_true_iff.mp passed
  obtain ⟨child, present, owns⟩ := (Option.any_eq_true _ _).mp first
  obtain ⟨root, there, also⟩ := (Option.any_eq_true _ _).mp second
  simp only [Bool.and_eq_true, beq_iff_eq] at owns also
  have asks : AsksBelow state.scene 0 1 0 root := by
    refine ⟨there, ?_, ?_, fun ancestor descends => live_of_descends present owns.2 there also.1.2 descends⟩
    · exact (Option.any_eq_true _ _).mpr ⟨root, there, beq_iff_eq.mpr also.1.1⟩
    · exact (Option.any_eq_true _ _).mpr ⟨child, present, beq_iff_eq.mpr owns.1⟩
  obtain ⟨acyclic, _, answers⟩ := subsurface_parents_acyclic reachable
  obtain ⟨next, handled, refused, _⟩ := answers 0 1 0 root asks
  refine ⟨state.scene, next, acyclic, handled, (refused also.2 also.1.2).mpr (.single ?_)⟩
  exact ⟨child.node, Scene.forest_of_present present, owns.2⟩

/-- A child that asks to be its own parent is refused for its role and not for the parent. -/
theorem own_parent_of_child : ¬ ∀ state : SwaylockState, swaylock.machine.Reachable state →
    ∀ client child parent surface next, AsksBelow state.scene client child parent surface →
      handleRequest state.scene client (.surface child (.getSubsurface parent)) = .ok next →
        (Refused client .badParent state.scene next ↔ state.scene.forest.Descends parent child) := by
  intro claim
  obtain ⟨state, reachable, passed⟩ := swaylock.play_reachable (nestedEvents.map Event.obliged) nestedPair
    (startState_initial _ _ _) (by decide +kernel : (swaylock.play defaultState _).any _ = true)
  obtain ⟨first, second⟩ := Bool.and_eq_true_iff.mp passed
  obtain ⟨child, present, owns⟩ := (Option.any_eq_true _ _).mp first
  obtain ⟨root, there, also⟩ := (Option.any_eq_true _ _).mp second
  simp only [Bool.and_eq_true, beq_iff_eq] at owns also
  have owned : ownsSurface state.scene 0 0 = true :=
    (Option.any_eq_true _ _).mpr ⟨child, present, beq_iff_eq.mpr owns.1⟩
  have asks : AsksBelow state.scene 0 0 0 child :=
    ⟨present, owned, owned, fun ancestor descends => live_of_descends present owns.2 there also.1.2 descends⟩
  have handled : handleRequest state.scene 0 (.surface 0 (.getSubsurface 0)) =
      .ok (state.scene.postError 0 .badSurface) := by
    unfold handleRequest handleSurface
    dsimp only
    rw [if_pos owned, if_pos owned]
    exact subcompositorGetSubsurface_roled present (.inr (by rw [owns.2]; rfl))
  have refused := (claim state reachable 0 0 0 child _ asks handled).mpr .refl
  have told : state.scene.wire ++ [Message.plugin (.error 0 .badSurface)] =
      state.scene.wire ++ [.plugin (.error 0 .badParent)] := refused
  simp at told

end SwaylockPlugin
