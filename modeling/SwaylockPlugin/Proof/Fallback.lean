import SwaylockPlugin.Proof.CommitSizes

namespace SwaylockPlugin

open Library

section Contents

variable {limits : Limits} {target : Target}

theorem contentOf_append (wire : List Message) (requests : List SurfaceRequest) :
    contentOf target (wire ++ requests.map (.surface target)) =
      requests.foldl SurfaceContent.receive (contentOf target wire) := by
  unfold contentOf
  rw [requestsOn_append, requestsOn_requests, List.foldl_append]

/-- The shape of an extent meets the limits where all but its scale does. -/
structure Limits.Shapes (limits : Limits) (extent : Extent) : Prop where
  transform : limits.transform extent.transform
  destination : limits.destination extent.destination
  source : limits.source extent.source

theorem Limits.Shapes.receive {content : SurfaceContent} (shapes : limits.Shapes content.sent.extent)
    {request : SurfaceRequest} (allowed : limits.Allows (.surface target request)) :
    limits.Shapes (content.receive request).sent.extent := by
  obtain ⟨transform, destination, source⟩ := shapes
  cases request with
  | setBufferTransform => exact ⟨allowed, destination, source⟩
  | setDestination => exact ⟨transform, allowed, source⟩
  | setSource => exact ⟨transform, destination, allowed⟩
  | _ => exact ⟨transform, destination, source⟩

theorem Limits.shapes_sent {wire : List Message} (initial : limits.Shapes LastSent.initial.extent)
    (allowed : ∀ message ∈ wire, limits.Allows message) : limits.Shapes (contentOf target wire).sent.extent := by
  have every : ∀ request ∈ requestsOn target wire, limits.Allows (.surface target request) := by
    intro request member
    obtain ⟨message, listed, named⟩ := List.mem_filterMap.mp member
    cases message with
    | surface upstream sent =>
        dsimp only at named
        split at named
        · rename_i same
          cases named
          exact same ▸ allowed _ listed
        · cases named
    | _ => cases named
  unfold contentOf
  generalize requestsOn target wire = requests at every
  have start : limits.Shapes SurfaceContent.initial.sent.extent := initial
  generalize SurfaceContent.initial = content at start
  induction requests generalizing content with
  | nil => exact start
  | cons request requests ih =>
      rw [List.forall_mem_cons] at every
      exact ih every.2 (content.receive request) (start.receive every.1)

end Contents

/-- The size of an upstream surface follows from its extent and from its buffer, if it has one. -/
def LastSent.localSize (sent : LastSent) : Option (Int × Int) :=
  sent.content.bind fun size => sent.extent.localSize size.1.toNat size.2.toNat

/-- A surface that keeps its shape fits a buffer where its size is that of the buffer at scale one. -/
def Extent.Fits (extent : Extent) (width height : UInt32) : Prop :=
  if extent.scaled then (extent.destination.1.toInt, extent.destination.2.toInt) = ((width.toNat : Int), (height.toNat : Int))
  else if extent.cropped then extent.source.2.2.1.whole? = some (width.toNat : Int) ∧
    extent.source.2.2.2.whole? = some (height.toNat : Int)
  else turns extent.transform = true → width = height

/-- One `render_fallback_surface` sends these requests on a lock surface. -/
def fallbackRequests (width height : UInt32) : List SurfaceRequest :=
  [.setBufferScale 1, .attach .fallback width height 0 0, .damageBuffer ⟨0, 0, int32Max, int32Max⟩, .commit]

/-- The requests of one `render_fallback_surface` stand in the transcript as these messages. -/
def fallbackMessages (id : OutputId) (width height : UInt32) : List Message :=
  (fallbackRequests width height).map (.surface (.lock id))

theorem renderFallbackSurface_wire {scene : Scene} {env : Environment} {id : OutputId} {output : SwaylockSurface}
    (present : scene.outputs.cell id = some output) (created : env.createBuffer id = true) :
    (renderFallbackSurface scene env id).wire = scene.wire ++ fallbackMessages id output.width output.height := by
  unfold renderFallbackSurface
  rw [present]
  dsimp only
  rw [if_pos created]
  rfl

/-- A fallback after a transcript gives the lock surface its size. -/
def FallbackSized (before : List Message) (id : OutputId) (width height : UInt32) : Prop :=
  (contentOf (.lock id) (before ++ fallbackMessages id width height)).current.bind LastSent.localSize =
    some ((width.toNat : Int), (height.toNat : Int))

theorem fallbackSized_iff {before : List Message} {id : OutputId} {width height : UInt32} :
    FallbackSized before id width height ↔ (contentOf (.lock id) before).sent.extent.Fits width height := by
  unfold FallbackSized fallbackMessages
  rw [contentOf_append]
  generalize contentOf (.lock id) before = content
  change ({ content.sent.extent with scale := 1 } : Extent).localSize width.toNat height.toNat = _ ↔ _
  generalize content.sent.extent = extent
  unfold Extent.localSize Extent.Fits
  have scaled : ({ extent with scale := 1 } : Extent).scaled = extent.scaled := rfl
  have cropped : ({ extent with scale := 1 } : Extent).cropped = extent.cropped := rfl
  rw [scaled, cropped]
  split
  · exact Option.some_inj
  split
  · exact localSize_cropped
  · have single : 1 ≤ (1 : Int32).toInt := by decide
    rw [Extent.bufferSize_eq single]
    dsimp only
    have whole (part : UInt32) : (1 : Int32).toInt * (part.toNat : Int) = part.toNat := Int.one_mul _
    rw [whole, whole]
    split
    · rename_i turned
      rw [Int.natCast_inj, Int.natCast_inj, UInt32.toNat_inj, UInt32.toNat_inj]
      exact ⟨fun lying _ => lying.2, fun square => ⟨(square turned).symm, square turned⟩⟩
    · rename_i upright
      exact ⟨fun _ turned => absurd turned upright, fun _ => ⟨rfl, rfl⟩⟩

/-- A plain look neither turns a buffer nor sets a part of a viewport. -/
def plainLimits : Limits where
  scale _ := True
  transform transform := turns transform = false
  destination pair := pair = (-1, -1)
  source area := area = (Extent.unset, Extent.unset, Extent.unset, Extent.unset)

/-- A plugin asks for plain looks only. -/
def asksPlainly (_ : SwaylockState) (occurrence : Occurrence) : Bool :=
  match occurrence.event with
  | .scene (.request _ (.surface _ (.setBufferTransform transform))) => !turns transform
  | .scene (.request _ (.object _ (.setDestination width height))) =>
      !destinationAccepted width height || (width, height) == (-1, -1)
  | .scene (.request _ (.object _ (.setSource x y width height))) =>
      !sourceAccepted x y width height || (x, y, width, height) == (Extent.unset, Extent.unset, Extent.unset, Extent.unset)
  | _ => true

theorem plainLimits_fits {extent : Extent} (shapes : plainLimits.Shapes extent) (width height : UInt32) :
    extent.Fits width height := by
  obtain ⟨transform, destination, source⟩ := shapes
  have scaled : extent.scaled = false := bne_eq_false_iff_eq.mpr destination
  have cropped : extent.cropped = false := bne_eq_false_iff_eq.mpr source
  unfold Extent.Fits
  rw [scaled, cropped, if_neg Bool.false_ne_true, if_neg Bool.false_ne_true]
  exact fun turned => nomatch turned.symm.trans transform

theorem plain_of_reachable {state : SwaylockState} (reachable : (swaylock.machine.guarded asksPlainly).Reachable state) :
    Limited plainLimits state.scene := by
  refine Limited.of_reachable ⟨trivial, rfl, rfl, rfl⟩ (fun state occurrence meets client request is => ?_) reachable
  obtain ⟨event, env⟩ := occurrence
  cases is
  cases request with
  | surface id call =>
      cases call with
      | setBufferTransform transform => exact (Bool.not_eq_true' _).mp meets
      | _ => trivial
  | object id call =>
      cases call with
      | setSource x y width height =>
          intro accepted
          have unset : (!sourceAccepted x y width height || (x, y, width, height) == _) = true := meets
          rw [accepted] at unset
          exact beq_iff_eq.mp unset
      | setDestination width height =>
          intro accepted
          have unset : (!destinationAccepted width height || (width, height) == (-1, -1)) = true := meets
          rw [accepted] at unset
          exact beq_iff_eq.mp unset
      | _ => trivial
  | _ => trivial

/-- A fallback gives the lock surface its size exactly where the shape that was sent before fits, and always while
plugins ask for plain looks only. -/
theorem fallbacks_sized (scene : Scene) (state : SwaylockState) :
    (∀ env id output, scene.outputs.cell id = some output → env.createBuffer id = true →
      ((contentOf (.lock id) (renderFallbackSurface scene env id).wire).current.bind LastSent.localSize =
          some ((output.width.toNat : Int), (output.height.toNat : Int)) ↔
        (contentOf (.lock id) scene.wire).sent.extent.Fits output.width output.height)) ∧
    ((swaylock.machine.guarded asksPlainly).Reachable state → ∀ before id width height after,
      state.scene.wire = before ++ fallbackMessages id width height ++ after →
        FallbackSized before id width height) := by
  constructor
  · intro env id output present created
    rw [renderFallbackSurface_wire present created]
    exact fallbackSized_iff
  · intro reachable before id width height after split
    refine fallbackSized_iff.mpr (plainLimits_fits ?_ width height)
    refine plainLimits.shapes_sent ⟨rfl, rfl, rfl⟩ fun message listed => (plain_of_reachable reachable).wire message ?_
    rw [split, List.append_assoc]
    exact List.mem_append_left _ listed

/-- A transcript holds the messages of a fallback in one piece. -/
def holdsFallback (wire : List Message) (id : OutputId) (width height : UInt32) (test : List Message → Bool) : Bool :=
  (List.range wire.length).any fun start =>
    (wire.drop start).take 4 == fallbackMessages id width height && test (wire.take start)

theorem holdsFallback_split {wire : List Message} {id : OutputId} {width height : UInt32} {test : List Message → Bool}
    (holds : holdsFallback wire id width height test = true) : ∃ before after,
      wire = before ++ fallbackMessages id width height ++ after ∧ test before = true := by
  obtain ⟨start, _, found⟩ := List.any_eq_true.mp holds
  obtain ⟨piece, tested⟩ := Bool.and_eq_true_iff.mp found
  refine ⟨wire.take start, (wire.drop start).drop 4, ?_, tested⟩
  rw [← beq_iff_eq.mp piece, List.append_assoc, List.take_append_drop, List.take_append_drop]

/-- The nested connection of a plugin that drew ends, and its output is resized without a client. -/
def resizedEvents (asked : List Event) (owned : List Owned) : List Occurrence :=
  (presentingEvents ++ asked).map Event.obliged ++
    [⟨.scene (.clientGone 0), { Environment.obliging with spawn := fun _ => none, owned := owned }⟩,
      (Event.scene .nestedDispatched).obliged, (Event.scene (.configure 0 8 200 80)).obliged]

/-- The fallback after a plain plugin has the size of its output. -/
theorem fallbacks_sized_plain : ∃ (state : SwaylockState) (before after : List Message),
    state.scene.wire = before ++ fallbackMessages 0 200 80 ++ after ∧ FallbackSized before 0 200 80 := by
  obtain ⟨state, reachable, passed⟩ := swaylock.play_guarded asksPlainly
    (resizedEvents [] [.surface 0, .buffer 0, .resource 0, .resource 1, .resource 2])
    (fun state => holdsFallback state.scene.wire 0 200 80 fun _ => true)
    (startState_initial _ _ _) (by decide +kernel : ((swaylock.guarded _).play defaultState _).any _ = true)
  obtain ⟨before, after, split, _⟩ := holdsFallback_split passed
  exact ⟨state, before, after, split, (fallbacks_sized state.scene state).2 reachable before 0 200 80 after split⟩

/-- The fallback after a plugin that scaled its surface keeps the destination of the plugin. -/
theorem fallback_keeps_destination : ¬ ∀ state : SwaylockState, swaylock.machine.Reachable state →
    ∀ before id width height after, state.scene.wire = before ++ fallbackMessages id width height ++ after →
      FallbackSized before id width height := by
  intro claim
  obtain ⟨state, reachable, passed⟩ := swaylock.play_reachable
    (resizedEvents [.scene (.request 0 (.surface 0 .getViewport)),
        .scene (.request 0 (.object 3 (.setDestination 100 50))), .scene (.request 0 (.surface 0 .commit))]
      [.surface 0, .buffer 0, .resource 0, .resource 1, .resource 2, .resource 3])
    (fun state => holdsFallback state.scene.wire 0 200 80 fun before =>
      (contentOf (.lock 0) (before ++ fallbackMessages 0 200 80)).current.bind LastSent.localSize == some (100, 50))
    (startState_initial _ _ _) (by decide +kernel : (swaylock.play defaultState _).any _ = true)
  obtain ⟨before, after, split, kept⟩ := holdsFallback_split passed
  have sized := claim state reachable before 0 200 80 after split
  unfold FallbackSized at sized
  rw [beq_iff_eq.mp kept] at sized
  cases sized

end SwaylockPlugin
