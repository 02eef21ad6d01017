import SwaylockPlugin.Construction.ColorManagement
import SwaylockPlugin.Proof.Limits
import SwaylockPlugin.Proof.Callbacks

namespace SwaylockPlugin

open Library

/-- A handler has the live surface behind its object, or it is done without a change of any surface. -/
def Detects {State Record : Type} (surfaces : State → Heap Record) (user : Option SurfaceId) (state : State)
    (result : Handled State) : Prop :=
  (∃ id, user = some id ∧ (surfaces state).live id = true) ∨ ∃ next, result = .ok next ∧ surfaces next = surfaces state

namespace ObjectKind

/-- A request on an object comes to the surface behind it. -/
def reaches (scene : Scene) (client : WlClientId) : ObjectKind → ObjectCall → Bool
  | _, .destroy => true
  | .viewport, .setSource x y width height => sourceAccepted x y width height
  | .viewport, .setDestination width height => destinationAccepted width height
  | .colorSurface, .setImageDescription desc _ => ownsImageDesc scene client desc
  | .colorSurface, .unsetImageDescription => true
  | .colorRepresentation, .setAlphaMode _ | .colorRepresentation, .setCoefficientsAndRange _ _
  | .colorRepresentation, .setChromaLocation _ => true
  | .subsurface, .setPosition _ _ | .subsurface, .setSync | .subsurface, .setDesync => true
  | .subsurface, .placeAbove sibling | .subsurface, .placeBelow sibling => ownsSurface scene client sibling
  | _, _ => false

/-- A request on an object tests whether the surface behind it is missing. -/
def tests : ObjectKind → ObjectCall → Bool
  | _, .destroy => true
  | .colorSurface, _ | .colorRepresentation, _ => true
  | _, _ => false

end ObjectKind

section Objects

variable {scene : Scene} {client : WlClientId} {object : ResourceId} {kind : ObjectKind} {call : ObjectCall}
  {user : Option SurfaceId} {id : SurfaceId}

theorem forward_freed {Result : Type} (gone : scene.forwardSurfaces.live id = false)
    (rest : ForwardSurface → Handled Result) : (scene.forward id >>= rest) = .error .invalidPointer := by
  unfold Scene.forward
  rw [Heap.not_live_iff.mp gone]
  rfl

theorem handleObject_unreached (unreached : kind.reaches scene client call = false) :
    ∃ next, handleObject scene client object call (kind.role user) = .ok next ∧
      next.forwardSurfaces = scene.forwardSurfaces := by
  cases kind with
  | viewport =>
      cases call with
      | destroy => cases unreached
      | setSource => exact ⟨_, if_pos ((Bool.not_eq_false' _).mp unreached), rfl⟩
      | setDestination => exact ⟨_, if_pos ((Bool.not_eq_false' _).mp unreached), rfl⟩
      | _ => exact ⟨_, rfl, rfl⟩
  | fractionalScale =>
      cases call with
      | destroy => cases unreached
      | _ => exact ⟨_, rfl, rfl⟩
  | colorSurface =>
      cases call with
      | destroy | unsetImageDescription => cases unreached
      | setImageDescription => exact ⟨_, if_neg (Bool.eq_false_iff.mp unreached), rfl⟩
      | _ => exact ⟨_, rfl, rfl⟩
  | colorRepresentation =>
      cases call with
      | destroy | setAlphaMode | setCoefficientsAndRange | setChromaLocation => cases unreached
      | _ => exact ⟨_, rfl, rfl⟩
  | subsurface =>
      cases call with
      | destroy | setPosition | setSync | setDesync => cases unreached
      | placeAbove | placeBelow => exact ⟨_, if_neg (Bool.eq_false_iff.mp unreached), rfl⟩
      | _ => exact ⟨_, rfl, rfl⟩

theorem destroyResourceObject_missing {resource : Resource} (there : scene.resources.cell object = some resource)
    (role : resource.role = kind.role none) :
    ∃ next, destroyResourceObject scene object = .ok next ∧ next.forwardSurfaces = scene.forwardSurfaces := by
  unfold destroyResourceObject Scene.resource
  rw [there]
  change ∃ next, (runDestroyHandler scene object resource.role >>= _) = .ok next ∧ _
  rw [role]
  cases kind <;> exact ⟨_, rfl, rfl⟩

theorem not_done {result : Handled Scene} (failed : result = .error .invalidPointer) :
    ¬ ∃ next, result = .ok next ∧ next.forwardSurfaces = scene.forwardSurfaces := by
  rintro ⟨_, handles, _⟩
  cases failed.symm.trans handles

theorem handleObject_missing {resource : Resource} (there : scene.resources.cell object = some resource)
    (role : resource.role = kind.role none) (reached : kind.reaches scene client call = true) :
    (∃ next, handleObject scene client object call (kind.role none) = .ok next ∧
        next.forwardSurfaces = scene.forwardSurfaces) ↔ kind.tests call = true := by
  have destroyed := destroyResourceObject_missing there role
  cases kind with
  | viewport =>
      cases call with
      | destroy => exact iff_of_true destroyed rfl
      | setSource | setDestination =>
          refine iff_of_false (not_done ?_) Bool.false_ne_true
          exact if_neg (Bool.eq_false_iff.mp ((Bool.not_eq_true' _).mp reached))
      | _ => cases reached
  | fractionalScale =>
      cases call with
      | destroy => exact iff_of_true destroyed rfl
      | _ => cases reached
  | colorSurface =>
      cases call with
      | destroy => exact iff_of_true destroyed rfl
      | unsetImageDescription => exact iff_of_true ⟨_, rfl, rfl⟩ rfl
      | setImageDescription => exact iff_of_true ⟨_, if_pos reached, rfl⟩ rfl
      | _ => cases reached
  | colorRepresentation =>
      cases call with
      | destroy => exact iff_of_true destroyed rfl
      | setAlphaMode | setCoefficientsAndRange | setChromaLocation => exact iff_of_true ⟨_, rfl, rfl⟩ rfl
      | _ => cases reached
  | subsurface =>
      cases call with
      | destroy => exact iff_of_true destroyed rfl
      | setPosition | setSync | setDesync => exact iff_of_false (not_done rfl) Bool.false_ne_true
      | placeAbove | placeBelow =>
          refine iff_of_false (not_done ?_) Bool.false_ne_true
          exact if_pos reached
      | _ => cases reached

theorem destroyResourceObject_freed {resource : Resource} (there : scene.resources.cell object = some resource)
    (role : resource.role = kind.role (some id)) (gone : scene.forwardSurfaces.live id = false) :
    destroyResourceObject scene object = .error .invalidPointer := by
  unfold destroyResourceObject Scene.resource
  rw [there]
  change (runDestroyHandler scene object resource.role >>= _) = _
  have failed : runDestroyHandler scene object resource.role = .error .invalidPointer := by
    rw [role]
    cases kind <;> exact forward_freed gone _
  rw [failed]
  rfl

theorem handleObject_freed {resource : Resource} (there : scene.resources.cell object = some resource)
    (role : resource.role = kind.role (some id)) (gone : scene.forwardSurfaces.live id = false)
    (reached : kind.reaches scene client call = true) :
    handleObject scene client object call (kind.role (some id)) = .error .invalidPointer := by
  have destroyed := destroyResourceObject_freed there role gone
  have placed (sibling : SurfaceId) (owns : ownsSurface scene client sibling = true) (parent sib) :
      placeSubsurface scene client (some id) sibling parent sib = .error .invalidPointer := by
    obtain ⟨other, found, _⟩ := (Option.any_eq_true _ _).mp owns
    have apart : id ≠ sibling := by
      rintro rfl
      cases (Heap.not_live_iff.mp gone).symm.trans found
    unfold placeSubsurface
    change (scene.forward sibling >>= _) = _
    unfold Scene.forward
    rw [found]
    change (check (id != sibling) >>= _) = _
    rw [bne_iff_ne.mpr apart]
    exact forward_freed gone _
  cases kind with
  | viewport =>
      cases call with
      | destroy => exact destroyed
      | setSource =>
          refine (if_neg (Bool.eq_false_iff.mp ((Bool.not_eq_true' _).mp reached))).trans ?_
          exact forward_freed gone _
      | setDestination =>
          refine (if_neg (Bool.eq_false_iff.mp ((Bool.not_eq_true' _).mp reached))).trans ?_
          exact forward_freed gone _
      | _ => cases reached
  | fractionalScale =>
      cases call with
      | destroy => exact destroyed
      | _ => cases reached
  | colorSurface =>
      cases call with
      | destroy =>
          have failed : nestedColorSurfaceUnsetImageDesc scene (some id) = .error .invalidPointer := forward_freed gone _
          change (nestedColorSurfaceUnsetImageDesc scene (some id) >>= _) = _
          rw [failed]
          rfl
      | unsetImageDescription => exact forward_freed gone _
      | setImageDescription => exact (if_pos reached).trans (forward_freed gone _)
      | _ => cases reached
  | colorRepresentation =>
      cases call with
      | destroy => exact destroyed
      | setAlphaMode | setCoefficientsAndRange | setChromaLocation => exact forward_freed gone _
      | _ => cases reached
  | subsurface =>
      cases call with
      | destroy => exact destroyed
      | setPosition | setSync | setDesync => exact forward_freed gone _
      | placeAbove sibling => exact (if_pos reached).trans (placed sibling reached _ _)
      | placeBelow sibling => exact (if_pos reached).trans (placed sibling reached _ _)
      | _ => cases reached

theorem handleObject_detects_iff {resource : Resource} (there : scene.resources.cell object = some resource)
    (role : resource.role = kind.role user) :
    Detects Scene.forwardSurfaces user scene (handleObject scene client object call (kind.role user)) ↔
      (∃ id, user = some id ∧ scene.forwardSurfaces.live id = true) ∨ kind.reaches scene client call = false ∨
        user = none ∧ kind.tests call = true := by
  refine or_congr_right' fun absent => ?_
  cases reached : kind.reaches scene client call with
  | false => exact iff_of_true (handleObject_unreached reached) (.inl rfl)
  | true =>
      cases user with
      | none => simpa using handleObject_missing there role reached
      | some id =>
          have gone : scene.forwardSurfaces.live id = false := (Bool.not_eq_true _).mp fun live => absent ⟨id, rfl, live⟩
          have failed := handleObject_freed there role gone reached
          refine iff_of_false (not_done failed) ?_
          rintro (unreached | ⟨missing, _⟩)
          · cases unreached
          · cases missing

end Objects

/-- The request for a preferred description reads the surface of a feedback object without a test. -/
theorem getPreferred_detects_iff {scene : Color.ColorScene} {resource : ResourceId} {surface : SurfaceId}
    (found : scene.colorFeedbacks.cell resource = some surface) (output : Option Color.StateId) (parametric : Bool) :
    Detects Color.ColorScene.surfaces (some surface) scene
        (Color.handleColor scene (.getPreferred resource output parametric)) ↔ scene.surfaces.live surface = true := by
  constructor
  · rintro (⟨id, same, live⟩ | ⟨next, handles, _⟩)
    · cases same
      exact live
    · obtain ⟨_, read, _⟩ := bind_ok.mp handles
      obtain ⟨id, named, read⟩ := bind_ok.mp read
      cases found.symm.trans (demand_ok.mp named)
      obtain ⟨record, there, _⟩ := bind_ok.mp read
      exact Heap.live_iff.mpr ⟨record, demand_ok.mp there⟩
  · exact fun live => .inl ⟨surface, rfl, live⟩

/-- A request on an object has the live surface behind it or is done without one exactly when the surface was not
destroyed, the request does not come to it, or it tests for a missing surface and the object lost its surface. -/
theorem gone_surfaces_detected_iff (scene : Scene) (colors : Color.ColorScene) :
    (∀ client object kind user call, ownedRole scene client object = some (ObjectKind.role kind user) →
      (Detects Scene.forwardSurfaces user scene (handleRequest scene client (.object object call)) ↔
        (∃ id, user = some id ∧ scene.forwardSurfaces.live id = true) ∨ kind.reaches scene client call = false ∨
          user = none ∧ kind.tests call = true)) ∧
      ∀ resource surface output parametric, colors.colorFeedbacks.cell resource = some surface →
        (Detects Color.ColorScene.surfaces (some surface) colors
            (Color.handleColor colors (.getPreferred resource output parametric)) ↔
          colors.surfaces.live surface = true) := by
  refine ⟨fun client object kind user call owned => ?_, fun _ _ output parametric found =>
    getPreferred_detects_iff found output parametric⟩
  have handles : handleRequest scene client (.object object call) =
      handleObject scene client object call (kind.role user) := by
    unfold handleRequest
    dsimp only
    rw [owned]
  obtain ⟨resource, found, role⟩ := Option.map_eq_some_iff.mp owned
  rw [handles]
  exact handleObject_detects_iff (Option.filter_eq_some_iff.mp found).1 role

/-- A plugin makes two objects for a surface and destroys the surface. -/
def outlivingEvents : List Event :=
  [.start, .check true] ++ ([.getRegistry, .createSurface 4, .surface 0 .getViewport, .surface 0 .getColorSurface,
    .surface 0 .destroy] : List Request).map fun request => .scene (.request 0 request)

/-- A color management object that outlives its surface does nothing, and a feedback object reads its live surface. -/
theorem gone_surfaces_detected_iff_color : ∃ (state : SwaylockState) (colors : Color.ColorScene),
    Detects Scene.forwardSurfaces none state.scene (handleRequest state.scene 0 (.object 1 .unsetImageDescription)) ∧
      Detects Color.ColorScene.surfaces (some 0) colors (Color.handleColor colors (.getPreferred 0 none false)) := by
  obtain ⟨state, _, owned⟩ := swaylock.play_reachable (outlivingEvents.map Event.obliged)
    (fun state => ownedRole state.scene 0 1 == some (.colorSurface none))
    (startState_initial _ _ _) (by decide +kernel : (swaylock.play defaultState _).any _ = true)
  obtain ⟨colors, _, passed⟩ := Color.coloring.play_reachable [.createSurface, .getSurfaceFeedback 0]
    (fun scene => scene.colorFeedbacks.cell 0 == some 0 && scene.surfaces.live 0) rfl
    (by decide +kernel : (Color.coloring.play Color.colorStart _).any _ = true)
  obtain ⟨found, live⟩ := Bool.and_eq_true_iff.mp passed
  have detects := gone_surfaces_detected_iff state.scene colors
  refine ⟨state, colors, ?_, (detects.2 0 0 none false (beq_iff_eq.mp found)).mpr live⟩
  exact (detects.1 0 1 .colorSurface none _ (beq_iff_eq.mp owned)).mpr (.inr (.inr ⟨rfl, rfl⟩))

/-- A viewport that outlives its surface follows a null pointer. -/
theorem viewport_follows_missing_surface : ¬ ∀ (state : SwaylockState) (client : WlClientId) (object : ResourceId)
    (kind : ObjectKind) (user : Option SurfaceId) (call : ObjectCall), swaylock.machine.Reachable state →
      ownedRole state.scene client object = some (kind.role user) →
        Detects Scene.forwardSurfaces user state.scene (handleRequest state.scene client (.object object call)) := by
  intro claim
  obtain ⟨state, reachable, passed⟩ := swaylock.play_reachable (outlivingEvents.map Event.obliged)
    (fun state => ownedRole state.scene 0 0 == some (.viewport none) &&
      !(handleRequest state.scene 0 (.object 0 (.setDestination 10 10))).toBool)
    (startState_initial _ _ _) (by decide +kernel : (swaylock.play defaultState _).any _ = true)
  simp only [Bool.and_eq_true, beq_iff_eq, Bool.not_eq_true'] at passed
  obtain ⟨owned, failed⟩ := passed
  rcases claim state 0 0 .viewport none (.setDestination 10 10) reachable owned with ⟨_, missing, _⟩ | ⟨next, handles, _⟩
  · cases missing
  · rw [handles] at failed
    cases failed

end SwaylockPlugin
