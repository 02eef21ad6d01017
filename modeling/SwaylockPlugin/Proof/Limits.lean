import SwaylockPlugin.Abstract.Extent
import SwaylockPlugin.Proof.SceneSteps
import SwaylockPlugin.Proof.Parts

namespace SwaylockPlugin

open Library

/-- Limits bound each part of an extent. -/
structure Limits where
  scale : Int32 → Prop
  transform : Int32 → Prop
  destination : Int32 × Int32 → Prop
  source : WlFixed × WlFixed × WlFixed × WlFixed → Prop

/-- A viewport source is accepted where it is a rectangle or unset. -/
def sourceAccepted (x y width height : WlFixed) : Bool :=
  let n := wlFixedFromInt (-1)
  let noSource := x == n && y == n && width == n && height == n
  !((decide (x < 0) || decide (y < 0) || decide (width ≤ 0) || decide (height ≤ 0)) && !noSource)

/-- A viewport destination is accepted where it has an area or is unset. -/
def destinationAccepted (width height : Int32) : Bool :=
  !((decide (width ≤ 0) || decide (height ≤ 0)) && !(width == -1 && height == -1))

namespace Limits

/-- An extent meets the limits in each part. -/
structure Meets (limits : Limits) (extent : Extent) : Prop where
  scale : limits.scale extent.scale
  transform : limits.transform extent.transform
  destination : limits.destination extent.destination
  source : limits.source extent.source

/-- A message keeps an upstream surface within the limits. -/
def Allows (limits : Limits) : Message → Prop
  | .surface _ (.setBufferTransform transform) => limits.transform transform
  | .surface _ (.setDestination width height) => limits.destination (width, height)
  | .surface _ (.setSource x y width height) => limits.source (x, y, width, height)
  | _ => True

/-- A request keeps a plugin surface within the limits. -/
def Permits (limits : Limits) : Request → Prop
  | .surface _ (.setBufferScale scale) => limits.scale scale
  | .surface _ (.setBufferTransform transform) => limits.transform transform
  | .object _ (.setSource x y width height) =>
      sourceAccepted x y width height = true → limits.source (x, y, width, height)
  | .object _ (.setDestination width height) =>
      destinationAccepted width height = true → limits.destination (width, height)
  | _ => True

theorem allows_of_effect (limits : Limits) {message : Message} (other : message.effect ≠ .reshape) :
    limits.Allows message := by
  cases message with
  | surface target request =>
      cases request with
      | setBufferTransform | setDestination | setSource => exact absurd rfl other
      | _ => trivial
  | _ => trivial

end Limits

/-- The extents of a surface are the pending and the committed one. -/
def ForwardSurface.extents (surface : ForwardSurface) : Extent × Extent :=
  (surface.pending.extent, surface.committed.extent)

theorem SurfaceGroup.mask_extents (group : SurfaceGroup) (other : group ≠ .size) (surface : ForwardSurface) :
    (group.mask surface).extents = surface.extents := by
  cases group <;> first | rfl | exact absurd rfl other

/-- Every plugin surface and every message keeps the limits. -/
structure Limited (limits : Limits) (scene : Scene) : Prop where
  surfaces : ∀ id surface, scene.forwardSurfaces.cell id = some surface →
    limits.Meets surface.extents.1 ∧ limits.Meets surface.extents.2
  wire : ∀ message ∈ scene.wire, limits.Allows message

namespace Limited

variable {limits : Limits} {first second scene : Scene} {id : SurfaceId} {target : Target}

theorem setForward (limited : Limited limits scene) (id : SurfaceId) {change : ForwardSurface → ForwardSurface}
    (kept : ∀ surface, limits.Meets surface.extents.1 → limits.Meets surface.extents.2 →
      limits.Meets (change surface).extents.1 ∧ limits.Meets (change surface).extents.2) :
    Limited limits (scene.setForward id change) where
  surfaces := scene.forwardSurfaces.every_modify id change (fun surface _ meets => kept surface meets.1 meets.2)
    limited.surfaces
  wire := limited.wire

theorem tell (limited : Limited limits scene) {message : Message} (allowed : limits.Allows message) :
    Limited limits (scene.tell message) := by
  refine ⟨limited.surfaces, fun other member => ?_⟩
  rcases List.mem_append.mp member with before | last
  · exact limited.wire other before
  · exact List.mem_singleton.mp last ▸ allowed

theorem requestAll (limited : Limited limits scene) {requests : List SurfaceRequest}
    (allowed : ∀ request ∈ requests, limits.Allows (.surface target request)) :
    Limited limits (scene.requestAll target requests) := by
  refine ⟨limited.surfaces, fun other member => ?_⟩
  rcases List.mem_append.mp member with before | last
  · exact limited.wire other before
  · obtain ⟨request, sent, rfl⟩ := List.mem_map.mp last
    exact allowed request sent

theorem of_change {effect : Effect} (base : limits.Meets defaultSurfaceState.extent) (limited : Limited limits first)
    (change : Change first effect second) (size : effect ≠ .surface .size) (reshape : effect ≠ .reshape) :
    Limited limits second := by
  have seen {group : SurfaceGroup} (same : effect = .surface group) {old new : ForwardSurface}
      (kept : group.mask new = group.mask old) : new.extents = old.extents := by
    have other : group ≠ .size := fun sized => size (same.trans (congrArg Effect.surface sized))
    rw [← group.mask_extents other new, kept, group.mask_extents other old]
  cases change with
  | @surface group id change kept =>
      refine limited.setForward id fun surface pending committed => ?_
      rw [seen rfl (kept surface)]
      exact ⟨pending, committed⟩
  | @sweep group change kept =>
      refine ⟨fun id surface found => ?_, limited.wire⟩
      obtain ⟨old, there, rfl⟩ := Option.map_eq_some_iff.mp ((first.forwardSurfaces.cell_mapAll change id).symm.trans found)
      rw [seen rfl (kept id old)]
      exact limited.surfaces id old there
  | createSurface client version =>
      refine ⟨fun id surface found => ?_, limited.wire⟩
      obtain ⟨_, rfl⟩ | ⟨_, there⟩ := first.forwardSurfaces.old_of_alloc found
      · exact ⟨base, base⟩
      · exact limited.surfaces id surface there
  | freeSurface id =>
      exact ⟨fun other surface found => limited.surfaces other surface (first.forwardSurfaces.old_of_free found),
        limited.wire⟩
  | tell message => exact limited.tell (limits.allows_of_effect reshape)
  | error client error =>
      have posted : Limited limits (first.tell (.plugin (.error client error))) := limited.tell trivial
      exact ⟨posted.surfaces, posted.wire⟩
  | _ => exact ⟨limited.surfaces, limited.wire⟩

theorem of_changes {effects : List Effect} (base : limits.Meets defaultSurfaceState.extent)
    (changes : Changes effects first second) (apart : Effect.surface .size ∉ effects ∧ Effect.reshape ∉ effects)
    (limited : Limited limits first) : Limited limits second := by
  induction changes with
  | refl => exact limited
  | step _ listed change ih =>
      exact ih.of_change base change (fun same => apart.1 (same ▸ listed)) fun same =>
        apart.2 (same ▸ listed)

theorem forwardChanged {present : Bool} {changed : SurfaceState → SurfaceState → Bool}
    {requests : SurfaceState → SurfaceState → List SurfaceRequest}
    {record : SurfaceState → SurfaceState → SurfaceState} (limited : Limited limits scene)
    (allowed : ∀ committed pending, limits.Meets committed.extent → limits.Meets pending.extent →
      ∀ request ∈ requests committed pending, limits.Allows (.surface target request))
    (recorded : ∀ committed pending, limits.Meets committed.extent → limits.Meets pending.extent →
      limits.Meets (record committed pending).extent) :
    Ensures (forwardChanged scene id target present changed requests record) (Limited limits) := by
  refine .read fun surface found => ?_
  obtain ⟨pending, committed⟩ := limited.surfaces id surface found
  split
  · refine .check fun _ => .pure ?_
    refine (limited.requestAll (allowed _ _ committed pending)).setForward id fun surface pending committed => ?_
    exact ⟨pending, recorded _ _ committed pending⟩
  · exact .pure limited

theorem applyLook (base : limits.Meets defaultSurfaceState.extent) (limited : Limited limits scene)
    (background : AugmentedSurface) : Ensures (applyLook scene id target background) (Limited limits) := by
  unfold SwaylockPlugin.applyLook
  refine .via (Limited limits) ?_ fun scaled limited => ?_
  · refine limited.forwardChanged (fun _ _ _ _ request member => ?_) fun _ _ committed pending => ?_
    · rw [List.mem_singleton.mp member]
      trivial
    · exact ⟨pending.scale, committed.transform, committed.destination, committed.source⟩
  refine .via (Limited limits) ?_ fun transformed limited => ?_
  · refine limited.forwardChanged (fun _ _ _ pending request member => ?_) fun _ _ committed pending => ?_
    · rw [List.mem_singleton.mp member]
      exact pending.transform
    · exact ⟨committed.scale, pending.transform, committed.destination, committed.source⟩
  refine .via (Limited limits) ?_ fun destined limited => ?_
  · refine limited.forwardChanged (fun _ _ _ pending request member => ?_) fun _ _ committed pending => ?_
    · rw [List.mem_singleton.mp member]
      exact pending.destination
    · exact ⟨committed.scale, committed.transform, pending.destination, committed.source⟩
  refine .via (Limited limits) ?_ fun sourced limited => ?_
  · refine limited.forwardChanged (fun _ _ committed _ request member => ?_) fun _ _ committed pending => ?_
    · rw [List.mem_singleton.mp member]
      exact committed.source
    · exact ⟨committed.scale, committed.transform, committed.destination, pending.source⟩
  refine .via (Limited limits) ?_ fun represented limited => ?_
  · refine limited.forwardChanged (fun _ pending _ _ request member => ?_) fun _ _ committed _ => ?_
    · simp only [List.mem_append, List.mem_singleton] at member
      rcases member with ((rfl | alpha) | chroma) | coefficients
      · trivial
      · split at alpha
        · rw [List.mem_singleton.mp alpha]
          trivial
        · cases alpha
      · split at chroma
        · rw [List.mem_singleton.mp chroma]
          trivial
        · cases chroma
      · split at coefficients
        · rw [List.mem_singleton.mp coefficients]
          trivial
        · cases coefficients
    · exact ⟨committed.scale, committed.transform, committed.destination, committed.source⟩
  exact fun last computed => of_changes base (applyImageDescription_changes id target background last computed) (by simp)
    limited

theorem applyPendingSurfaceUpdates (base : limits.Meets defaultSurfaceState.extent) (limited : Limited limits scene)
    (background : AugmentedSurface) :
    Ensures (applyPendingSurfaceUpdates scene id target background) (Limited limits) := by
  rw [applyPendingSurfaceUpdates_split]
  refine .via (Limited limits) (limited.applyLook base background) fun looked limited => ?_
  refine .via (Limited limits) ?_ fun attached limited => ?_
  · exact fun _ computed => of_changes base (applyAttachment_changes id target _ computed) (by simp) limited
  refine .via (Limited limits) ?_ fun offset limited => ?_
  · exact fun _ computed => of_changes base (applyOffset_changes id target _ computed) (by simp) limited
  refine .via (Limited limits) ?_ fun damaged limited => ?_
  · exact fun _ computed => of_changes base (applyDamage_changes id target _ computed) (by simp) limited
  refine .via (Limited limits) ?_ fun stacked limited => ?_
  · exact fun _ computed => of_changes base (applySubsurfaces_changes id target _ computed) (by simp) limited
  exact fun _ computed => of_changes base (applyFrameCallbacks_changes id target _ computed) (by simp) limited

theorem commitSubsurface (base : limits.Meets defaultSurfaceState.extent) (limited : Limited limits scene)
    (surface : ForwardSurface) : Ensures (commitSubsurface scene id surface) (Limited limits) := by
  unfold SwaylockPlugin.commitSubsurface
  split
  · refine .via (Limited limits) (limited.applyPendingSurfaceUpdates base surface.extSurface) fun applied limited => ?_
    exact .pure (limited.tell trivial)
  · exact .pure limited

theorem nestedSurfaceCommit (base : limits.Meets defaultSurfaceState.extent) (limited : Limited limits scene) :
    Ensures (nestedSurfaceCommit scene id) fun result => Limited limits result.1 := by
  refine .read fun surface _ => ?_
  split
  · exact .pure limited
  refine .via (Limited limits) (limited.commitSubsurface base surface) fun middle limited => ?_
  refine .read fun current _ => ?_
  split
  · exact .pure limited
  unfold commitInRole
  split
  · refine .via (Limited limits) ?_ fun configured limited => .pure limited
    exact fun _ computed => of_changes base (sendInitialConfigure_changes id _ _ computed) (by simp) limited
  split
  · split
    · exact .pure limited
    · exact .pure (of_changes base (.postError middle _ _ (by simp : Effect.plugin ∈ [Effect.plugin])) (by simp) limited)
  refine .read fun output _ => ?_
  refine .via (Limited limits) (limited.applyPendingSurfaceUpdates base output.surface) fun applied limited => ?_
  refine .read fun checked _ => ?_
  refine .via (fun _ => True) (fun _ _ => trivial) fun verdict _ => ?_
  cases verdict with
  | some error =>
      exact .pure (of_changes base (.postError applied _ _ (by simp : Effect.plugin ∈ [Effect.plugin])) (by simp) limited)
  | none =>
      refine .via (Limited limits) ?_ fun accepted limited => .pure limited
      exact fun _ computed => of_changes base (acceptCommit_changes id _ _ computed) (by simp) limited

theorem nestedViewportSetSource (base : limits.Meets defaultSurfaceState.extent) (limited : Limited limits scene)
    (client : WlClientId) (user : Option SurfaceId) {x y width height : WlFixed}
    (permitted : sourceAccepted x y width height = true → limits.source (x, y, width, height)) :
    Ensures (nestedViewportSetSource scene client user x y width height) (Limited limits) := by
  unfold SwaylockPlugin.nestedViewportSetSource
  dsimp only
  split
  · exact .pure (of_changes base (.postError scene client _ (by simp : Effect.plugin ∈ [Effect.plugin])) (by simp) limited)
  · rename_i accepted
    refine .read fun id _ => .read fun surface _ => .pure (limited.setForward id fun surface pending committed => ?_)
    have source := permitted (congrArg Bool.not ((Bool.not_eq_true _).mp accepted))
    exact ⟨⟨pending.scale, pending.transform, pending.destination, source⟩, committed⟩

theorem nestedViewportSetDestination (base : limits.Meets defaultSurfaceState.extent) (limited : Limited limits scene)
    (client : WlClientId) (user : Option SurfaceId) {width height : Int32}
    (permitted : destinationAccepted width height = true → limits.destination (width, height)) :
    Ensures (nestedViewportSetDestination scene client user width height) (Limited limits) := by
  unfold SwaylockPlugin.nestedViewportSetDestination
  split
  · exact .pure (of_changes base (.postError scene client _ (by simp : Effect.plugin ∈ [Effect.plugin])) (by simp) limited)
  · rename_i accepted
    refine .read fun id _ => .read fun surface _ => .pure (limited.setForward id fun surface pending committed => ?_)
    have destination := permitted (congrArg Bool.not ((Bool.not_eq_true _).mp accepted))
    exact ⟨⟨pending.scale, pending.transform, destination, pending.source⟩, committed⟩

theorem handleRequest (base : limits.Meets defaultSurfaceState.extent) (limited : Limited limits scene)
    (client : WlClientId) {request : Request} (permitted : limits.Permits request) :
    Ensures (handleRequest scene client request) (Limited limits) := by
  have invalid : Limited limits (invalidObject scene client) :=
    of_changes base (invalidObject_changes client) (by simp) limited
  by_cases steady : request.steady = true
  · exact fun _ computed => of_changes base (handleRequest_steady client steady _ computed) (by simp) limited
  cases request with
  | getRegistry =>
      exact fun _ computed => of_changes base (clientResourceCreate_changes client _ computed) (by simp) limited
  | surface id call =>
      simp only [SwaylockPlugin.handleRequest]
      split
      · cases call with
        | commit => exact .via (fun result => Limited limits result.1) (limited.nestedSurfaceCommit base) fun _ => .pure
        | setBufferScale scale =>
            refine .pure (limited.setForward id fun surface pending committed => ?_)
            exact ⟨⟨permitted, pending.transform, pending.destination, pending.source⟩, committed⟩
        | setBufferTransform transform =>
            refine .pure (limited.setForward id fun surface pending committed => ?_)
            exact ⟨⟨pending.scale, permitted, pending.destination, pending.source⟩, committed⟩
        | _ => exact absurd rfl steady
      · exact .pure invalid
  | object id call =>
      simp only [SwaylockPlugin.handleRequest]
      split
      · rename_i role _
        cases call with
        | setSource x y width height =>
            cases role with
            | viewport user => exact limited.nestedViewportSetSource base client user permitted
            | _ => exact .pure invalid
        | setDestination width height =>
            cases role with
            | viewport user => exact limited.nestedViewportSetDestination base client user permitted
            | _ => exact .pure invalid
        | _ => exact absurd rfl steady
      · exact .pure invalid
  | _ => exact absurd rfl steady

theorem step {state next : SwaylockState} {occurrence : Occurrence} (base : limits.Meets defaultSurfaceState.extent)
    (limited : Limited limits state.scene) (moved : swaylock.machine.step state occurrence next)
    (permitted : ∀ client request, occurrence.event = .scene (.request client request) → limits.Permits request) :
    Limited limits next.scene := by
  refine (sceneStep_of_step moved).keeps (Limited limits) limited ?_ ?_ ?_ ?_
  · exact fun scene now kept => ⟨kept.surfaces, kept.wire⟩
  · rintro first second ⟨loop, fd, _, rfl⟩ kept
    exact ⟨kept.surfaces, kept.wire⟩
  · exact fun first second changes kept => of_changes base changes (by simp) kept
  · exact fun client request last is handled => limited.handleRequest base client (permitted client request is) last handled

/-- In every run whose requests are permitted all surfaces and messages keep the limits. -/
theorem of_reachable {meets : SwaylockState → Occurrence → Prop} {state : SwaylockState}
    (base : limits.Meets defaultSurfaceState.extent)
    (permits : ∀ state occurrence, meets state occurrence → ∀ client request,
      occurrence.event = .scene (.request client request) → limits.Permits request)
    (reachable : (swaylock.machine.restrict meets).Reachable state) : Limited limits state.scene := by
  refine reachable.invariant (fun state => Limited limits state.scene) (fun state start => ⟨?_, ?_⟩) ?_
  · intro id surface found
    rw [start.surfaces.1] at found
    cases found
  · rw [start.wire]
    exact nofun
  · exact fun state occurrence next limited moved => limited.step base moved.1 (permits state occurrence moved.2)

end Limited

end SwaylockPlugin
