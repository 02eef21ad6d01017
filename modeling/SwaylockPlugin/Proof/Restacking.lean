import SwaylockPlugin.Proof.Lineage

namespace SwaylockPlugin

open Library

/-- The children of a surface stand around it from the bottom to the top. -/
def SurfaceState.order (pending : SurfaceState) (parent : SurfaceId) : List SurfaceId :=
  pending.subsurfacesBelow ++ parent :: pending.subsurfacesAbove

/-- A child stands right above or right below a sibling. -/
def StandsBy (above : Bool) (sibling child : SurfaceId) (order : List SurfaceId) : Prop :=
  (if above then [sibling, child] else [child, sibling]) <:+: order

namespace StandsBy

variable {above : Bool} {sibling child : SurfaceId} {list : List SurfaceId}

theorem between (stands : StandsBy above sibling child list) (lower upper : List SurfaceId) :
    StandsBy above sibling child (lower ++ list ++ upper) :=
  stands.trans (List.infix_append lower list upper)

end StandsBy

/-- An insertion puts a child right by a sibling and leaves the order of the others. -/
structure InsertsBy (above : Bool) (insert : SurfaceId → SurfaceId → List SurfaceId → List SurfaceId) : Prop where
  stands : ∀ {sibling child list}, sibling ∈ list → StandsBy above sibling child (insert sibling child list)
  others : ∀ {sibling child list}, (insert sibling child list).filter (· != child) = list.filter (· != child)

theorem insertAfter_insertsBy : InsertsBy true insertAfter where
  stands {sibling child list} member := by
    induction list with
    | nil => cases member
    | cons first rest ih =>
        unfold insertAfter
        split
        · rename_i same
          exact same ▸ ⟨[], rest, rfl⟩
        · rename_i other
          have later := (List.mem_cons.mp member).resolve_left fun same => other same.symm
          exact (ih later).trans (List.suffix_cons first _).isInfix
  others {sibling child list} := by
    induction list with
    | nil => rfl
    | cons first rest ih =>
        unfold insertAfter
        split
        · simp [List.filter_cons]
        · rw [List.filter_cons, List.filter_cons, ih]

theorem insertBefore_insertsBy : InsertsBy false insertBefore where
  stands {sibling child list} member := by
    induction list with
    | nil => cases member
    | cons first rest ih =>
        unfold insertBefore
        split
        · rename_i same
          exact same ▸ ⟨[], rest, rfl⟩
        · rename_i other
          have later := (List.mem_cons.mp member).resolve_left fun same => other same.symm
          exact (ih later).trans (List.suffix_cons first _).isInfix
  others {sibling child list} := by
    induction list with
    | nil => rfl
    | cons first rest ih =>
        unfold insertBefore
        split
        · simp
        · rw [List.filter_cons, List.filter_cons, ih]

theorem filter_erase_ne (child : SurfaceId) (list : List SurfaceId) :
    (list.erase child).filter (· != child) = list.filter (· != child) := by
  induction list with
  | nil => rfl
  | cons first rest ih =>
      rw [List.erase_cons]
      split
      · rename_i same
        simp [eq_of_beq same]
      · rw [List.filter_cons, List.filter_cons, ih]

/-- A state with another order of one child changes its stacks. -/
structure Places (above : Bool) (sibling child parent : SurfaceId) (before after : SurfaceState) : Prop where
  stands : StandsBy above sibling child (after.order parent)
  others : (after.order parent).filter (· != child) = (before.order parent).filter (· != child)

section Places

variable {above : Bool} {sibling child parent : SurfaceId} {pending : SurfaceState}

theorem SurfaceState.order_without :
    ((pending.without child).order parent).filter (· != child) = (pending.order parent).filter (· != child) := by
  unfold order SurfaceState.without
  rw [List.filter_append, List.filter_append, List.filter_cons, List.filter_cons, filter_erase_ne, filter_erase_ne]

theorem InsertsBy.places {insert : SurfaceId → SurfaceId → List SurfaceId → List SurfaceId}
    (inserts : InsertsBy above insert) (member : sibling ∈ (pending.without child).children) :
    Places above sibling child parent pending
      { pending.without child with
        subsurfacesAbove := insert sibling child (pending.without child).subsurfacesAbove
        subsurfacesBelow := insert sibling child (pending.without child).subsurfacesBelow } where
  stands := by
    change StandsBy above sibling child (insert sibling child (pending.without child).subsurfacesBelow ++
      parent :: insert sibling child (pending.without child).subsurfacesAbove)
    rcases List.mem_append.mp member with high | low
    · have next : StandsBy above sibling child (insert sibling child (pending.without child).subsurfacesAbove) :=
        inserts.stands high
      have stands := next.between (insert sibling child (pending.without child).subsurfacesBelow ++ [parent]) []
      rwa [List.append_nil, List.append_assoc] at stands
    · exact (inserts.stands low).between [] _
  others := by
    refine Eq.trans ?_ SurfaceState.order_without
    unfold SurfaceState.order
    dsimp only
    rw [List.filter_append, List.filter_append, List.filter_cons, List.filter_cons, inserts.others, inserts.others]

theorem places_above : Places true parent child parent pending
    { pending.without child with subsurfacesAbove := child :: (pending.without child).subsurfacesAbove } where
  stands := ⟨(pending.without child).subsurfacesBelow, (pending.without child).subsurfacesAbove, by
    simp [SurfaceState.order]⟩
  others := by
    refine Eq.trans ?_ SurfaceState.order_without
    simp [SurfaceState.order, List.filter_cons]

theorem places_below : Places false parent child parent pending
    { pending.without child with subsurfacesBelow := (pending.without child).subsurfacesBelow ++ [child] } where
  stands := ⟨(pending.without child).subsurfacesBelow, (pending.without child).subsurfacesAbove, by
    simp [SurfaceState.order]⟩
  others := by
    refine Eq.trans ?_ SurfaceState.order_without
    simp [SurfaceState.order]

end Places

/-- A child goes to the place right above or right below its parent. -/
def nextToParent : Bool → SurfaceId → SurfaceState → SurfaceState
  | true, child, pending => { pending with subsurfacesAbove := child :: pending.subsurfacesAbove }
  | false, child, pending => { pending with subsurfacesBelow := pending.subsurfacesBelow ++ [child] }

/-- A child goes to the place right above or right below a sibling. -/
def nextToSibling : Bool → SurfaceId → SurfaceId → List SurfaceId → List SurfaceId
  | true => insertAfter
  | false => insertBefore

theorem nextToParent_places (above : Bool) (child parent : SurfaceId) (pending : SurfaceState) :
    Places above parent child parent pending (nextToParent above child (pending.without child)) := by
  cases above with
  | true => exact places_above
  | false => exact places_below

theorem nextToSibling_insertsBy (above : Bool) : InsertsBy above (nextToSibling above) := by
  cases above with
  | true => exact insertAfter_insertsBy
  | false => exact insertBefore_insertsBy

/-- A place request asks for a place above or below a surface. -/
def placeCall (above : Bool) (sibling : SurfaceId) : ObjectCall :=
  if above then .placeAbove sibling else .placeBelow sibling

/-- A scene restacks a child when the child alone moves in the pending stacks of its parent and nothing is said. -/
structure Restacked (above : Bool) (sibling child parent : SurfaceId) (first last : Scene) : Prop where
  placed : ∃ before after, first.forwardSurfaces.cell parent = some before ∧
    last.forwardSurfaces.cell parent = some after ∧ after.committed = before.committed ∧
      Places above sibling child parent before.pending after.pending
  others : ∀ id, id ≠ parent → last.forwardSurfaces.cell id = first.forwardSurfaces.cell id
  silent : last.wire = first.wire

/-- A subsurface object belongs to a live surface with a live parent. -/
structure Subsurfaced (scene : Scene) (client : WlClientId) (object : ResourceId) (child : SurfaceId)
    (surface : ForwardSurface) (parent : SurfaceId) : Prop where
  role : ownedRole scene client object = some (.subsurface (some child))
  present : scene.forwardSurfaces.cell child = some surface
  hung : surface.subsurfaceParent = some parent
  live : scene.forwardSurfaces.live parent = true

/-- A place request settles when it restacks the child or posts an error and changes no surface. -/
def PlaceSettles (above : Bool) (client : WlClientId) (object : ResourceId) (sibling child parent : SurfaceId)
    (first : Scene) : Prop :=
  ∃ last, handleRequest first client (.object object (placeCall above sibling)) = .ok last ∧
    (Restacked above sibling child parent first last ∨
      Refused client .badSurface first last ∧ last.forwardSurfaces = first.forwardSurfaces)

section Requests

variable {scene : Scene} {client : WlClientId} {object : ResourceId} {child parent sibling : SurfaceId}
  {surface other : ForwardSurface} {above : Bool}

/-- A place request on a live child fails for the child itself, is ignored when the child is inert, and otherwise
places the child or posts an error. -/
theorem placeSubsurface_eq (present : scene.forwardSurfaces.cell child = some surface)
    (hung : surface.subsurfaceParent = some parent) (linked : surface.subsurfPendingEntry.link = some parent)
    (live : scene.forwardSurfaces.live parent = true) (there : scene.forwardSurfaces.cell sibling = some other)
    (nextToParent : SurfaceId → SurfaceState → SurfaceState)
    (nextToSibling : SurfaceId → SurfaceId → List SurfaceId → List SurfaceId) :
    placeSubsurface scene client (some child) sibling nextToParent nextToSibling =
      if child = sibling then .error .assertion
      else if surface.inert then .ok scene
      else if parent = sibling then
        .ok (scene.setPending parent fun pending => nextToParent child (pending.without child))
      else if other.subsurfaceParent = some parent then
        .ok (scene.setPending parent fun pending =>
          { pending.without child with
            subsurfacesAbove := nextToSibling sibling child (pending.without child).subsurfacesAbove
            subsurfacesBelow := nextToSibling sibling child (pending.without child).subsurfacesBelow })
      else .ok (scene.postError client .badSurface) := by
  have read : scene.forward sibling = .ok other := demand_ok.mpr there
  obtain ⟨owner, found⟩ := Heap.live_iff.mp live
  have parent_ : scene.forward parent = .ok owner := demand_ok.mpr found
  unfold placeSubsurface
  change (scene.forward sibling >>= _) = _
  rw [read]
  by_cases same : child = sibling
  · subst same
    rw [if_pos rfl]
    change (check (child != child) >>= _) = _
    rw [bne_self_eq_false]
    rfl
  · rw [if_neg same]
    have passes : check (child != sibling) = pure () := require_ok.mpr (bne_iff_ne.mpr same)
    change (check (child != sibling) >>= fun _ => withSubsurface scene (some child) _) = _
    rw [passes, pure_bind, withSubsurface_hung present hung linked, parent_]
    rfl

theorem handleRequest_place (role : ownedRole scene client object = some (.subsurface (some child)))
    (owned : ownsSurface scene client sibling = true) (above : Bool) :
    handleRequest scene client (.object object (placeCall above sibling)) =
      placeSubsurface scene client (some child) sibling (nextToParent above) (nextToSibling above) := by
  unfold handleRequest placeCall
  dsimp only
  rw [role]
  cases above with
  | true => exact if_pos owned
  | false => exact if_pos owned

theorem restacked_setPending {owner : ForwardSurface} {change : SurfaceState → SurfaceState}
    (found : scene.forwardSurfaces.cell parent = some owner)
    (places : Places above sibling child parent owner.pending (change owner.pending)) :
    Restacked above sibling child parent scene (scene.setPending parent change) where
  placed := by
    refine ⟨owner, { owner with pending := change owner.pending }, found, ?_, rfl, places⟩
    change (scene.forwardSurfaces.modify parent _).cell parent = _
    rw [Heap.cell_modify_self, found]
    rfl
  others id apart := scene.forwardSurfaces.cell_modify_other _ apart
  silent := rfl

theorem placeSubsurface_settles {known : Set SurfaceId} (housed : scene.forest.Housed known)
    (live : Subsurfaced scene client object child surface parent)
    (linked : surface.subsurfPendingEntry.link = some parent) (active : surface.inert = false)
    (owned : ownsSurface scene client sibling = true) (apart : sibling ≠ child) :
    PlaceSettles above client object sibling child parent scene := by
  obtain ⟨other, there, _⟩ := (Option.any_eq_true _ _).mp owned
  obtain ⟨owner, found⟩ := Heap.live_iff.mp live.live
  unfold PlaceSettles
  rw [handleRequest_place live.role owned,
    placeSubsurface_eq live.present live.hung linked live.live there, if_neg apart.symm, active]
  by_cases same : parent = sibling
  · subst same
    rw [if_neg Bool.false_ne_true, if_pos rfl]
    exact ⟨_, rfl, .inl (restacked_setPending found (nextToParent_places above child parent owner.pending))⟩
  · rw [if_neg Bool.false_ne_true, if_neg same]
    split
    · rename_i shared
      have among : sibling ∈ owner.pending.children := by
        refine housed.held sibling parent owner.node ⟨other.node, ?_, shared⟩ (Scene.forest_of_present found)
        exact Scene.forest_of_present there
      refine ⟨_, rfl, .inl (restacked_setPending found ?_)⟩
      exact (nextToSibling_insertsBy above).places (SurfaceState.mem_without apart among)
    · exact ⟨_, rfl, .inr ⟨rfl, rfl⟩⟩

theorem handleRequest_place_cases {known : Set SurfaceId} (housed : scene.forest.Housed known)
    (live : Subsurfaced scene client object child surface parent)
    (linked : surface.subsurfPendingEntry.link = some parent) (owned : ownsSurface scene client sibling = true)
    (above : Bool) : sibling = child ∧
        handleRequest scene client (.object object (placeCall above sibling)) = .error .assertion ∨
      sibling ≠ child ∧ surface.inert = true ∧
        handleRequest scene client (.object object (placeCall above sibling)) = .ok scene ∨
      sibling ≠ child ∧ surface.inert = false ∧ PlaceSettles above client object sibling child parent scene := by
  obtain ⟨other, there, _⟩ := (Option.any_eq_true _ _).mp owned
  have answer := (handleRequest_place live.role owned above).trans
    (placeSubsurface_eq live.present live.hung linked live.live there _ _)
  by_cases same : sibling = child
  · exact .inl ⟨same, answer.trans (if_pos same.symm)⟩
  · rw [if_neg fun eq => same eq.symm] at answer
    cases inert : surface.inert with
    | true => exact .inr (.inl ⟨same, rfl, answer.trans (if_pos inert)⟩)
    | false => exact .inr (.inr ⟨same, rfl, placeSubsurface_settles housed live linked inert owned same⟩)

/-- A subsurface object hands a position or a mode to the child that it belongs to. -/
def ObjectCall.moves : ObjectCall → Bool
  | .setPosition _ _ => true
  | .setSync => true
  | .setDesync => true
  | _ => false

theorem handleRequest_taken (live : Subsurfaced scene client object child surface parent)
    (linked : surface.subsurfPendingEntry.link = some parent) {call : ObjectCall} (moves : call.moves = true) :
    ∃ last, handleRequest scene client (.object object call) = .ok last := by
  have taken (act : SurfaceId → Scene) :
      ∃ last, withSubsurface scene (some child) (fun id _ _ => return act id) = .ok last := by
    rw [withSubsurface_hung live.present live.hung linked]
    split
    · exact ⟨_, rfl⟩
    · exact ⟨_, rfl⟩
  unfold handleRequest
  dsimp only
  rw [live.role]
  cases call with
  | setPosition x y => exact taken _
  | setSync => exact taken _
  | setDesync => exact taken _
  | _ => cases moves

end Requests

/-- In every reachable state a position or a mode of a live subsurface is taken, and a place request fails an assertion
exactly for the surface itself and settles exactly for another one when the surface is not inert or stands there. -/
theorem subsurface_requests_settle {state : SwaylockState} (reachable : swaylock.machine.Reachable state)
    {client : WlClientId} {object : ResourceId} {child parent : SurfaceId} {surface : ForwardSurface}
    (live : Subsurfaced state.scene client object child surface parent) :
    (∀ call : ObjectCall, call.moves = true →
      ∃ last, handleRequest state.scene client (.object object call) = .ok last) ∧
      ∀ above sibling, ownsSurface state.scene client sibling = true →
        (handleRequest state.scene client (.object object (placeCall above sibling)) = .error .assertion ↔
          sibling = child) ∧
        (PlaceSettles above client object sibling child parent state.scene ↔ sibling ≠ child ∧
          (surface.inert = false ∨ ∀ owner, state.scene.forwardSurfaces.cell parent = some owner →
            StandsBy above sibling child (owner.pending.order parent))) := by
  have linked : surface.subsurfPendingEntry.link = some parent :=
    ((moored_of_reachable reachable) child surface live.present).link.trans live.hung
  have housed := (lineage_of_reachable reachable).housed
  refine ⟨fun call moves => handleRequest_taken live linked moves, fun above sibling owned => ?_⟩
  obtain ⟨same, failed⟩ | ⟨apart, inert, ignored⟩ | ⟨apart, active, settles⟩ :=
    handleRequest_place_cases housed live linked owned above
  · refine ⟨⟨fun _ => same, fun _ => failed⟩, fun ⟨last, handled, _⟩ => ?_, fun ⟨apart, _⟩ => absurd same apart⟩
    cases failed.symm.trans handled
  · refine ⟨⟨fun failed => ?_, fun same => absurd same apart⟩, fun ⟨last, handled, ends⟩ => ?_, fun ⟨_, either⟩ => ?_⟩
    · cases ignored.symm.trans failed
    · cases ignored.symm.trans handled
      refine ⟨apart, .inr fun owner found => ?_⟩
      rcases ends with restacked | ⟨refused, _⟩
      · obtain ⟨_, after, _, shown, _, places⟩ := restacked.placed
        cases found.symm.trans shown
        exact places.stands
      · have silent : state.scene.wire = state.scene.wire ++ [.plugin (.error client .badSurface)] := refused
        simp at silent
    · obtain ⟨owner, found⟩ := Heap.live_iff.mp live.live
      have stands := (either.resolve_left fun active => by rw [inert] at active; cases active) owner found
      exact ⟨state.scene, ignored, .inl ⟨⟨owner, owner, found, found, rfl, stands, rfl⟩, fun _ _ => rfl, rfl⟩⟩
  · refine ⟨⟨fun failed => ?_, fun same => absurd same apart⟩, fun _ => ⟨apart, .inl active⟩, fun _ => settles⟩
    obtain ⟨last, handled, _⟩ := settles
    cases failed.symm.trans handled

/-- The subsurface object of a child belongs to a live child of a live parent. -/
def subsurfacedPair (state : SwaylockState) : Bool :=
  ownedRole state.scene 0 0 == some (.subsurface (some 0)) && nestedPair state

theorem Subsurfaced.of_pair {state : SwaylockState} (pair : subsurfacedPair state = true) :
    ∃ surface, Subsurfaced state.scene 0 0 0 surface 1 ∧ ownsSurface state.scene 0 0 = true ∧
      ownsSurface state.scene 0 1 = true := by
  obtain ⟨role, pair⟩ := Bool.and_eq_true_iff.mp pair
  obtain ⟨first, second⟩ := Bool.and_eq_true_iff.mp pair
  obtain ⟨child, present, owns⟩ := (Option.any_eq_true _ _).mp first
  obtain ⟨root, there, also⟩ := (Option.any_eq_true _ _).mp second
  simp only [Bool.and_eq_true] at owns also
  refine ⟨child, ⟨eq_of_beq role, present, eq_of_beq owns.2, Heap.live_iff.mpr ⟨root, there⟩⟩, ?_, ?_⟩
  · exact (Option.any_eq_true _ _).mpr ⟨child, present, owns.1⟩
  · exact (Option.any_eq_true _ _).mpr ⟨root, there, also.1.1⟩

/-- A child that is placed below its parent settles there, and one that is placed below itself fails. -/
theorem subsurface_requests_settle_nested : ∃ state : Scene,
    PlaceSettles false 0 0 1 0 1 state ∧
      handleRequest state 0 (.object 0 (placeCall false 0)) = .error .assertion := by
  obtain ⟨state, reachable, passed⟩ := swaylock.play_reachable (nestedEvents.map Event.obliged)
    (fun state => subsurfacedPair state && (state.scene.forwardSurfaces.cell 0).any fun surface => !surface.inert)
    (startState_initial _ _ _) (by decide +kernel : (swaylock.play defaultState _).any _ = true)
  obtain ⟨pair, awake⟩ := Bool.and_eq_true_iff.mp passed
  obtain ⟨surface, live, own, parent⟩ := Subsurfaced.of_pair pair
  obtain ⟨found, shown, active⟩ := (Option.any_eq_true _ _).mp awake
  cases live.present.symm.trans shown
  have answers := (subsurface_requests_settle reachable live).2 false
  refine ⟨state.scene, (answers 1 parent).2.mpr ⟨by decide, .inl (by simpa using active)⟩, ?_⟩
  exact (answers 0 own).1.mpr rfl

/-- A child that is placed above itself fails an assertion. -/
theorem place_above_itself_fails : ¬ ∀ state : SwaylockState, swaylock.machine.Reachable state →
    ∀ client object child parent surface, Subsurfaced state.scene client object child surface parent →
      ∀ above sibling, ownsSurface state.scene client sibling = true →
        PlaceSettles above client object sibling child parent state.scene := by
  intro claim
  obtain ⟨state, reachable, passed⟩ := swaylock.play_reachable (nestedEvents.map Event.obliged) subsurfacedPair
    (startState_initial _ _ _) (by decide +kernel : (swaylock.play defaultState _).any _ = true)
  obtain ⟨surface, live, own, _⟩ := Subsurfaced.of_pair passed
  have linked : surface.subsurfPendingEntry.link = some 1 :=
    ((moored_of_reachable reachable) 0 surface live.present).link.trans live.hung
  have answer := (handleRequest_place live.role own true).trans
    (placeSubsurface_eq live.present live.hung linked live.live live.present _ _)
  obtain ⟨last, handled, _⟩ := claim state reachable 0 0 0 1 surface live true 0 own
  rw [if_pos rfl] at answer
  cases answer.symm.trans handled

end SwaylockPlugin
