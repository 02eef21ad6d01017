import SwaylockPlugin.Proof.Effects

namespace SwaylockPlugin

open Library

/-- A commit that applies the content of a surface has these effects. -/
abbrev contentEffects : List Effect := [.upstream, .surface .content, .desc]

/-- A commit that applies the look of a surface has these effects. -/
abbrev lookEffects : List Effect := contentEffects ++ [.reshape, .surface .size]

/-- A commit that applies the frame callbacks has these effects. -/
abbrev frameEffects : List Effect := [.upstream, .surface .frames, .output .presented, .await]

/-- A commit that applies the attachment has these effects. -/
abbrev attachEffects : List Effect := [.upstream, .surface .attachment, .buffer]

/-- A commit that applies the stacks has these effects. -/
abbrev stackEffects : List Effect := [.restack, .surface .stack]

/-- A commit that applies the pending state has these effects. -/
abbrev applyEffects : List Effect := lookEffects ++ attachEffects ++ stackEffects ++ frameEffects

/-- A commit has these effects. -/
abbrev commitEffects : List Effect :=
  applyEffects ++ [.serial, .surface .role, .plugin, .disarm, .output .timer, .output .screen]

/-- An object that is destroyed has these effects. -/
abbrev destroyEffects : List Effect :=
  [.output .plugin, .buffer, .desc, .resource, .restack, .surface .tree, .surface .content,
    .surface .objects, .surface .frames, .surface .attachment, .callbacks, .freeSurface]

/-- A render has these effects. -/
abbrev renderEffects : List Effect := [.output .screen, .upstream]

/-- The fall back to a clientless mode has these effects. -/
abbrev fallBackEffects : List Effect :=
  renderEffects ++ [.client, .disarm, .output .timer, .display]

/-- A client that is started or cleaned up has these effects. -/
abbrev clientEffects : List Effect := [.client, .arm, .disarm, .output .client]

/-- Events of an output have these effects. -/
abbrev outputEffects : List Effect :=
  fallBackEffects ++ clientEffects ++ [.serial, .plugin, .surface .role, .addOutput, .output .presented, .await, .resource]

variable {scene : Scene}

theorem Changes.andThen {effects : List Effect} {first middle : Scene} {rest : Handled Scene}
    (before : Changes effects first middle) (after : Ensures rest (Changes effects middle)) :
    Ensures rest (Changes effects first) :=
  after.weaken fun _ changes => before.trans changes

section Apply

theorem changeImageDesc_changes (id : DescId) (change : ForwardImageDesc → ForwardImageDesc) :
    Ensures (scene.changeImageDesc id change) (Changes [.desc] scene) :=
  .read fun _ _ => .pure (.setImageDesc scene id change (by simp))

theorem deleteImageDescIfUnreferenced_changes (id : DescId) :
    Ensures (deleteImageDescIfUnreferenced scene id) (Changes [.desc] scene) := by
  apply Ensures.read
  intro desc _
  split
  · exact .pure (.refl scene)
  · exact .pure (.single (.descs (scene.imageDescs.free id) scene.nextDescription) (by simp))

theorem unlinkDesc_changes (remove : ForwardImageDesc → ForwardImageDesc) (desc : Option DescId) :
    Ensures (unlinkDesc scene remove desc) (Changes [.desc] scene) := by
  cases desc with
  | none => exact .pure (.refl scene)
  | some desc =>
      refine (changeImageDesc_changes desc remove).bind fun middle changed => ?_
      exact changed.andThen (deleteImageDescIfUnreferenced_changes desc)

theorem dropCommittedDesc_changes (id : SurfaceId) (desc : Option DescId) :
    Ensures (dropCommittedDesc scene id desc) (Changes [.desc] scene) := by
  cases desc with
  | none => exact .pure (.refl scene)
  | some desc => exact unlinkDesc_changes _ (some desc)

theorem takePendingDesc_changes (id : SurfaceId) (desc : Option DescId) :
    Ensures (takePendingDesc scene id desc) (Changes contentEffects scene) := by
  cases desc with
  | none => exact .pure (.setForward .content scene id (fun _ => rfl) (by simp))
  | some desc =>
      have taken : Changes contentEffects scene
          (scene.setCommitted id fun committed => { committed with imageDesc := some desc }) :=
        .setForward .content scene id (fun _ => rfl) (by simp)
      apply taken.andThen
      exact (changeImageDesc_changes desc _).weaken fun _ changed => changed.widen (by simp)

theorem sendImageDescription_changes (target : Target) (intent : UInt32) (desc : Option DescId) :
    Ensures (sendImageDescription scene target intent desc) (Changes contentEffects scene) := by
  cases desc with
  | none => exact .pure (.tell scene _ (by simp [Message.effect]))
  | some desc => exact .read fun record _ => .pure (.tell scene _ (by simp [Message.effect]))

theorem exchangeDesc_changes (id : SurfaceId) (committed pending : Option DescId) :
    Ensures (exchangeDesc scene id committed pending) (Changes contentEffects scene) := by
  unfold exchangeDesc
  split
  · refine (dropCommittedDesc_changes id committed).bind fun middle dropped => ?_
    have widened : Changes contentEffects scene middle := dropped.widen (by simp)
    exact widened.andThen (takePendingDesc_changes id pending)
  · exact .pure (.refl scene)

theorem applyImageDescription_changes (id : SurfaceId) (target : Target) (background : AugmentedSurface) :
    Ensures (applyImageDescription scene id target background) (Changes contentEffects scene) := by
  apply Ensures.read
  intro surface _
  split
  · apply Ensures.check
    intro _
    refine (sendImageDescription_changes target surface.pending.renderIntent surface.pending.imageDesc).bind fun sent told => ?_
    refine (told.andThen (exchangeDesc_changes id surface.committed.imageDesc surface.pending.imageDesc)).bind fun exchanged changed => ?_
    exact .pure (changed.trans (.setForward .content exchanged id (fun _ => rfl) (by simp)))
  · exact .pure (.refl scene)

theorem forwardChanged_changes (group : SurfaceGroup) (id : SurfaceId) (target : Target) (present : Bool)
    (changed : SurfaceState → SurfaceState → Bool)
    (requests : SurfaceState → SurfaceState → List SurfaceRequest)
    {record : SurfaceState → SurfaceState → SurfaceState}
    (kept : ∀ surface : ForwardSurface,
      group.mask { surface with committed := record surface.committed surface.pending } = group.mask surface)
    (listed : Effect.surface group ∈ lookEffects) :
    Ensures (forwardChanged scene id target present changed requests record) (Changes lookEffects scene) := by
  apply Ensures.read
  intro surface _
  split
  · apply Ensures.check
    intro _
    have sent : Changes lookEffects scene
        (scene.requestAll target (requests surface.committed surface.pending)) :=
      .requestAny scene target _ (by simp) (by simp)
    exact .pure (sent.trans (.setForward group _ id kept listed))
  · exact .pure (.refl scene)

theorem unlinkCommittedAttachment_changes (id : SurfaceId) (attachment : Attachment) :
    Ensures (unlinkCommittedAttachment scene id attachment) (Changes attachEffects scene) := by
  cases attachment with
  | null => exact .pure (.refl scene)
  | unreachable => exact .pure (.refl scene)
  | committed => exact .throw
  | buffer buffer => exact .read fun _ _ => .check fun _ => .pure (.setBuffer scene buffer _ (by simp))

theorem attachBuffer_changes (id : SurfaceId) (target : Target) (surface : ForwardSurface) (buffer : BufferId) :
    Ensures (attachBuffer scene id target surface buffer) (Changes attachEffects scene) := by
  apply Ensures.read
  intro record _
  apply Ensures.pure
  refine Changes.trans ?_ (.setBuffer _ buffer _ (by simp))
  refine Changes.trans ?_ (.setForward .attachment _ id (fun _ => rfl) (by simp))
  exact .tell scene _ (by simp [Message.effect])

theorem applyAttachment_changes (id : SurfaceId) (target : Target) :
    Ensures (applyAttachment scene id target) (Changes attachEffects scene) := by
  apply Ensures.read
  intro surface _
  cases surface.pending.attachment with
  | committed => exact .pure (.refl scene)
  | unreachable => exact .throw
  | null =>
      refine (unlinkCommittedAttachment_changes id surface.committed.attachment).bind fun middle unlinked => ?_
      apply Ensures.check
      intro _
      exact .pure (unlinked.trans (.setForward .attachment middle id (fun _ => rfl) (by simp)))
  | buffer buffer =>
      refine (unlinkCommittedAttachment_changes id surface.committed.attachment).bind fun middle unlinked => ?_
      exact unlinked.andThen (attachBuffer_changes id target surface buffer)

theorem applyOffset_changes (id : SurfaceId) (target : Target) :
    Ensures (applyOffset scene id target) (Changes contentEffects scene) := by
  apply Ensures.read
  intro surface _
  split
  · apply Ensures.pure
    refine Changes.trans ?_ (.setForward .content _ id (fun _ => rfl) (by simp))
    exact .tell scene _ (by simp [Message.effect])
  · exact .pure (.refl scene)

theorem applyDamage_changes (id : SurfaceId) (target : Target) :
    Ensures (applyDamage scene id target) (Changes contentEffects scene) := by
  apply Ensures.read
  intro surface _
  apply Ensures.pure
  refine Changes.trans ?_ (.setForward .content _ id (fun _ => rfl) (by simp))
  refine .requestAll scene target _ fun request member => ?_
  rcases List.mem_append.mp member with buffers | olds
  · obtain ⟨record, _, rfl⟩ := List.mem_map.mp buffers
    simp [Message.effect]
  · obtain ⟨record, _, rfl⟩ := List.mem_map.mp olds
    simp [Message.effect]

theorem ensureExtSubsurface_changes (parent child : SurfaceId) (entry : ForwardSurface) :
    Ensures (ensureExtSubsurface scene parent child entry) (Changes stackEffects scene) := by
  unfold ensureExtSubsurface
  split
  · exact .pure (.refl scene)
  · apply Ensures.read
    intro surface _
    apply Ensures.read
    intro output _
    apply Ensures.pure
    refine Changes.trans ?_ (.setForward .stack _ child (fun _ => rfl) (by simp))
    exact .tell scene _ (by simp [Message.effect])

theorem applyPendingSubsurfEntry_changes (parent child : SurfaceId) :
    Ensures (applyPendingSubsurfEntry scene parent child) (Changes stackEffects scene) := by
  apply Ensures.read
  intro entry _
  refine (ensureExtSubsurface_changes parent child entry).bind fun middle ensured => ?_
  apply Ensures.pure
  refine Changes.trans ?_ (.setForward .stack _ child (fun _ => rfl) (by simp))
  refine Changes.trans ?_ (.tell _ _ (by simp [Message.effect]))
  exact ensured.trans (.tell _ _ (by simp [Message.effect]))

theorem unlinkCommittedEntries_changes (children : List SurfaceId) :
    Changes stackEffects scene (unlinkCommittedEntries scene children) := by
  have unlinks (state : Scene) (child : SurfaceId) : Changes stackEffects state
      (state.setForward child fun entry =>
        { entry with subsurfCommittedEntry := { entry.subsurfCommittedEntry with link := none } }) :=
    .setForward .stack state child (fun _ => rfl) (by simp)
  exact .foldl unlinks children scene

theorem linkCommittedEntry_changes (parent child : SurfaceId) {insert : SurfaceState → SurfaceState}
    (kept : ∀ committed, (insert committed).unstacked = committed.unstacked) :
    Changes stackEffects scene (linkCommittedEntry scene parent child insert) := by
  have linked : Changes stackEffects scene (scene.setForward child fun entry =>
      { entry with subsurfCommittedEntry := { entry.subsurfCommittedEntry with link := some parent } }) :=
    .setForward .stack scene child (fun _ => rfl) (by simp)
  apply linked.trans
  apply Changes.setForward .stack
  · intro surface
    simp only [SurfaceGroup.mask, kept]
  · simp

theorem applySubsurfacesAbove_changes (id : SurfaceId) (last : Target) (children : List SurfaceId) :
    Ensures (applySubsurfacesAbove scene id last children) (Changes stackEffects scene) := by
  induction children generalizing scene last with
  | nil => exact .pure (.refl scene)
  | cons child children ih =>
      refine (applyPendingSubsurfEntry_changes id child).bind fun middle applied => ?_
      refine Changes.andThen ?_ (ih (.ext child))
      refine Changes.trans ?_ (linkCommittedEntry_changes id child fun _ => rfl)
      exact applied.trans (.tell middle _ (by simp [Message.effect]))

theorem applySubsurfacesBelow_changes (id : SurfaceId) (last : Target) (children : List SurfaceId) :
    Ensures (applySubsurfacesBelow scene id last children) (Changes stackEffects scene) := by
  induction children generalizing scene last with
  | nil => exact .pure (.refl scene)
  | cons child children ih =>
      refine (applyPendingSubsurfEntry_changes id child).bind fun middle applied => ?_
      refine Changes.andThen ?_ (ih (.ext child))
      refine Changes.trans ?_ (linkCommittedEntry_changes id child fun _ => rfl)
      exact applied.trans (.tell middle _ (by simp [Message.effect]))

theorem applySubsurfaces_changes (id : SurfaceId) (target : Target) :
    Ensures (applySubsurfaces scene id target) (Changes stackEffects scene) := by
  apply Ensures.read
  intro surface _
  have cleared : Changes stackEffects scene
      ((unlinkCommittedEntries scene
        (surface.committed.subsurfacesAbove ++ surface.committed.subsurfacesBelow.reverse)).setCommitted id
          fun committed => { committed with subsurfacesAbove := [], subsurfacesBelow := [] }) :=
    (unlinkCommittedEntries_changes _).trans (.setForward .stack _ id (fun _ => rfl) (by simp))
  refine (cleared.andThen (applySubsurfacesAbove_changes id target surface.pending.subsurfacesAbove)).bind fun above changed => ?_
  exact changed.andThen (applySubsurfacesBelow_changes id target surface.pending.subsurfacesBelow.reverse)

theorem startFramePending_changes (output : Option OutputId) :
    Ensures (startFramePending scene output) (Changes [.output .presented] scene) := by
  cases output with
  | none => exact .pure (.refl scene)
  | some output =>
      apply Ensures.read
      intro record _
      split
      · exact .pure (.refl scene)
      · exact .pure (.setOutput .presented scene output (fun _ => rfl) (by simp))

theorem applyFrameCallbacks_changes (id : SurfaceId) (target : Target) :
    Ensures (applyFrameCallbacks scene id target) (Changes frameEffects scene) := by
  apply Ensures.read
  intro surface _
  split
  · exact .pure (.refl scene)
  · have sent : Changes frameEffects scene (scene.request target .frame) :=
      .tell scene _ (by simp [Message.effect])
    refine (startFramePending_changes surface.swaySurface).bind fun middle started => ?_
    apply Ensures.pure
    refine Changes.trans ?_ (.setForward .frames _ id (fun _ => rfl) (by simp))
    exact (sent.trans (started.widen (by simp))).trans (.single (.await _) (by simp))

/-- The look of a surface is applied in six steps. -/
def applyLook (scene : Scene) (id : SurfaceId) (target : Target) (background : AugmentedSurface) :
    Handled Scene := do
  let scene ← applyBufferScale scene id target
  let scene ← applyBufferTransform scene id target
  let scene ← applyViewportDestination scene id target background
  let scene ← applyViewportSource scene id target background
  let scene ← applyColorRepresentation scene id target background
  applyImageDescription scene id target background

theorem applyPendingSurfaceUpdates_split (id : SurfaceId) (target : Target) (background : AugmentedSurface) :
    applyPendingSurfaceUpdates scene id target background = (do
      let scene ← applyLook scene id target background
      let scene ← applyAttachment scene id target
      let scene ← applyOffset scene id target
      let scene ← applyDamage scene id target
      let scene ← applySubsurfaces scene id target
      applyFrameCallbacks scene id target) := by
  simp only [applyPendingSurfaceUpdates, applyLook, bind_assoc]

theorem applyLook_changes (id : SurfaceId) (target : Target) (background : AugmentedSurface) :
    Ensures (applyLook scene id target background) (Changes lookEffects scene) := by
  refine .via (Changes lookEffects scene) ?_ fun scaled changed => ?_
  · exact forwardChanged_changes .size id target _ _ _ (fun _ => rfl) (by simp)
  refine .via (Changes lookEffects scene) ?_ fun transformed changed => ?_
  · exact changed.andThen (forwardChanged_changes .size id target _ _ _ (fun _ => rfl) (by simp))
  refine .via (Changes lookEffects scene) ?_ fun destined changed => ?_
  · exact changed.andThen (forwardChanged_changes .size id target _ _ _ (fun _ => rfl) (by simp))
  refine .via (Changes lookEffects scene) ?_ fun sourced changed => ?_
  · exact changed.andThen (forwardChanged_changes .size id target _ _ _ (fun _ => rfl) (by simp))
  refine .via (Changes lookEffects scene) ?_ fun represented changed => ?_
  · exact changed.andThen (forwardChanged_changes .content id target _ _ _ (fun _ => rfl) (by simp))
  exact changed.andThen ((applyImageDescription_changes id target background).weaken fun _ after => after.widen (by simp))

theorem applyPendingSurfaceUpdates_changes (id : SurfaceId) (target : Target) (background : AugmentedSurface) :
    Ensures (applyPendingSurfaceUpdates scene id target background) (Changes applyEffects scene) := by
  have ofLook {first second : Scene} (changes : Changes lookEffects first second) :
      Changes applyEffects first second := changes.widen (by simp)
  have ofContent {first second : Scene} (changes : Changes contentEffects first second) :
      Changes applyEffects first second := changes.widen (by simp)
  have ofAttach {first second : Scene} (changes : Changes attachEffects first second) :
      Changes applyEffects first second := changes.widen (by simp)
  have ofStack {first second : Scene} (changes : Changes stackEffects first second) :
      Changes applyEffects first second := changes.widen (by simp)
  have ofFrames {first second : Scene} (changes : Changes frameEffects first second) :
      Changes applyEffects first second := changes.widen (by simp)
  rw [applyPendingSurfaceUpdates_split]
  refine ((applyLook_changes id target background).weaken fun _ => ofLook).bind fun looked changed => ?_
  refine (changed.andThen ((applyAttachment_changes id target).weaken fun _ => ofAttach)).bind fun attached changed => ?_
  refine (changed.andThen ((applyOffset_changes id target).weaken fun _ => ofContent)).bind fun offset changed => ?_
  refine (changed.andThen ((applyDamage_changes id target).weaken fun _ => ofContent)).bind fun damaged changed => ?_
  refine (changed.andThen ((applySubsurfaces_changes id target).weaken fun _ => ofStack)).bind fun stacked changed => ?_
  exact changed.andThen ((applyFrameCallbacks_changes id target).weaken fun _ => ofFrames)

end Apply

section Commit

theorem takeSerial_changes (client : Option BgClientId) :
    Ensures (takeSerial scene client) fun taken => Changes [.serial] scene taken.1 := by
  apply Ensures.read
  intro id _
  apply Ensures.read
  intro record _
  exact .pure (.single (.serial id) (by simp))

theorem sendInitialConfigure_changes (id : SurfaceId) (output : OutputId) :
    Ensures (sendInitialConfigure scene id output)
      (Changes [.serial, .surface .role, .output .screen, .plugin] scene) := by
  apply Ensures.read
  intro record _
  refine (takeSerial_changes _).bind fun taken serial => ?_
  have widened : Changes [.serial, .surface .role, .output .screen, .plugin] scene taken.1 :=
    serial.widen (by simp)
  apply Ensures.read
  intro surface _
  apply Ensures.check
  intro _
  apply Ensures.pure
  refine Changes.trans ?_ (.setForward .role _ id (fun _ => rfl) (by simp))
  refine Changes.trans ?_ (.tell _ _ (by simp [Message.effect]))
  refine Changes.trans ?_ (.setOutput .screen _ output (fun _ => rfl) (by simp))
  exact widened.trans (.setForward .role _ id (fun _ => rfl) (by simp))

theorem ackPendingConfigure_changes (output : OutputId) :
    Ensures (ackPendingConfigure scene output) (Changes renderEffects scene) := by
  apply Ensures.read
  intro record _
  split
  · apply Ensures.pure
    refine Changes.trans ?_ (.setOutput .screen _ output (fun _ => rfl) (by simp))
    exact .tell _ _ (by simp [Message.effect])
  · exact .pure (.refl scene)

theorem disarmSubmissionTimer_changes (output : OutputId) :
    Ensures (disarmSubmissionTimer scene output) (Changes [.disarm, .output .timer] scene) := by
  apply Ensures.read
  intro record _
  apply Ensures.pure
  refine Changes.trans ?_ (.setOutput .timer _ output (fun _ => rfl) (by simp))
  exact .removeTimer? scene record.clientSubmissionTimer (by simp)

theorem acceptCommit_changes (id : SurfaceId) (output : OutputId) :
    Ensures (acceptCommit scene id output) (Changes (renderEffects ++ [.disarm, .output .timer]) scene) := by
  apply Ensures.read
  intro surface _
  have marked : Changes renderEffects scene (if surface.committed.attachment != .null then
      scene.setOutput output fun output => { output with hasBuffer := true } else scene) := by
    split
    · exact .setOutput .screen scene output (fun _ => rfl) (by simp)
    · exact .refl scene
  refine (marked.andThen (ackPendingConfigure_changes output)).bind fun acknowledged changed => ?_
  have widened : Changes (renderEffects ++ [.disarm, .output .timer]) scene acknowledged :=
    changed.widen (by simp)
  refine .via (Changes (renderEffects ++ [.disarm, .output .timer]) scene) ?_ fun disarmed changed => ?_
  · exact widened.andThen ((disarmSubmissionTimer_changes output).weaken fun _ after => after.widen (by simp))
  · exact .pure (changed.trans (.tell disarmed _ (by simp [Message.effect])))

theorem commitLayerSurface_changes (id : SurfaceId) (output : OutputId) :
    Ensures (commitLayerSurface scene id output) fun result => Changes commitEffects scene result.1 := by
  apply Ensures.read
  intro record _
  refine (applyPendingSurfaceUpdates_changes id (.lock output) record.surface).bind fun applied changed => ?_
  have widened : Changes commitEffects scene applied := changed.widen (by simp)
  apply Ensures.read
  intro surface _
  refine .via (fun _ => True) (fun _ _ => trivial) fun verdict _ => ?_
  cases verdict with
  | some error => exact .pure (widened.trans (.postError applied _ _ (by simp)))
  | none =>
      refine (acceptCommit_changes id output).bind fun accepted after => .pure ?_
      exact widened.trans (after.widen (by simp))

theorem commitSubsurface_changes (id : SurfaceId) (surface : ForwardSurface) :
    Ensures (commitSubsurface scene id surface) (Changes applyEffects scene) := by
  unfold commitSubsurface
  split
  · refine (applyPendingSurfaceUpdates_changes id (.ext id) surface.extSurface).bind fun applied changed => ?_
    exact .pure (changed.trans (.tell applied _ (by simp [Message.effect])))
  · exact .pure (.refl scene)

theorem commitInRole_changes (id : SurfaceId) (surface : ForwardSurface) (output : OutputId) :
    Ensures (commitInRole scene id surface output) fun result => Changes commitEffects scene result.1 := by
  unfold commitInRole
  split
  · refine (sendInitialConfigure_changes id output).bind fun configured changed => .pure ?_
    exact changed.widen (by simp)
  · split
    · split
      · exact .pure (.refl scene)
      · exact .pure (.postError scene _ _ (by simp))
    · exact commitLayerSurface_changes id output

theorem nestedSurfaceCommit_changes (id : SurfaceId) :
    Ensures (nestedSurfaceCommit scene id) fun result => Changes commitEffects scene result.1 := by
  apply Ensures.read
  intro surface _
  split
  · exact .pure (.refl scene)
  · refine (commitSubsurface_changes id surface).bind fun middle changed => ?_
    have widened : Changes commitEffects scene middle := changed.widen (by simp)
    apply Ensures.read
    intro current _
    split
    · exact .pure widened
    · exact (commitInRole_changes id current _).weaken fun result after => widened.trans after

end Commit

section Surface

theorem changeBuffer_changes (id : BufferId) (change : ForwardBuffer → ForwardBuffer) :
    Ensures (scene.changeBuffer id change) (Changes [.buffer] scene) :=
  .read fun _ _ => .pure (.setBuffer scene id change (by simp))

theorem releasePendingBuffer_changes (id : SurfaceId) (attachment : Attachment) :
    Ensures (releasePendingBuffer scene id attachment) (Changes [.buffer] scene) := by
  cases attachment with
  | null => exact .pure (.refl scene)
  | committed => exact .pure (.refl scene)
  | unreachable => exact .throw
  | buffer buffer =>
      refine (changeBuffer_changes buffer _).bind fun middle changed => ?_
      apply Ensures.read
      intro record _
      split
      · exact .check fun _ => .pure (changed.trans (.single (.buffers _) (by simp)))
      · exact .pure changed

theorem nestedSurfaceAttach_changes (id : SurfaceId) (buffer : Option BufferId) :
    Ensures (nestedSurfaceAttach scene id buffer) (Changes attachEffects scene) := by
  apply Ensures.read
  intro surface _
  cases buffer with
  | none =>
      dsimp only
      split
      · exact .pure (.refl scene)
      · exact .throw
  | some buffer =>
      dsimp only
      split
      · exact .pure (.refl scene)
      · refine (releasePendingBuffer_changes id surface.pending.attachment).bind fun released changed => ?_
        have widened : Changes attachEffects scene released := changed.widen (by simp)
        refine (changeBuffer_changes buffer _).bind fun linked after => .pure ?_
        refine Changes.trans ?_ (.setForward .attachment linked id (fun _ => rfl) (by simp))
        exact widened.trans (after.widen (by simp))

theorem nestedSurfaceDamage_changes (id : SurfaceId) (record : DamageRecord) :
    Changes [.surface .content] scene (nestedSurfaceDamage scene id record) :=
  .setForward .content scene id (fun _ => rfl) (by simp)

theorem nestedSurfaceDamageBuffer_changes (id : SurfaceId) (record : DamageRecord) :
    Changes [.surface .content] scene (nestedSurfaceDamageBuffer scene id record) :=
  .setForward .content scene id (fun _ => rfl) (by simp)

theorem nestedSurfaceFrame_changes (client : WlClientId) (id : SurfaceId) :
    Changes [.resource, .surface .frames] scene (nestedSurfaceFrame scene client id) := by
  refine Changes.trans ?_ (.setForward .frames _ id (fun _ => rfl) (by simp))
  exact .createResource scene client _ (by simp)

theorem markUnreachable_changes (buffer : BufferId) (id : SurfaceId) :
    Ensures (markUnreachable scene buffer id) (Changes [.surface .attachment, .buffer] scene) := by
  apply Ensures.read
  intro surface _
  apply Ensures.pure
  refine Changes.trans ?_ (.setBuffer _ buffer _ (by simp))
  refine Changes.trans ?_ (.setForward .attachment _ id (fun _ => rfl) (by simp))
  split
  · refine Changes.trans ?_ (.setBuffer _ buffer _ (by simp))
    exact .setForward .attachment scene id (fun _ => rfl) (by simp)
  · exact .refl scene

theorem bufferHandleResourceDestroy_changes (buffer : BufferId) :
    Ensures (bufferHandleResourceDestroy scene buffer) (Changes [.surface .attachment, .buffer] scene) := by
  apply Ensures.read
  intro record _
  refine .via (Changes [.surface .attachment, .buffer] scene) ?_ fun marked changed => ?_
  · exact Changes.foldlM (fun _ id => markUnreachable_changes buffer id) record.committedSurfaces scene
  · apply Ensures.read
    intro left _
    split
    · exact .pure (changed.trans (.single (.buffers _) (by simp)))
    · exact .pure (changed.trans (.setBuffer marked buffer _ (by simp)))

theorem unlinkEntry_changes {change : ForwardSurface → ForwardSurface}
    (kept : ∀ surface, SurfaceGroup.tree.mask (change surface) = SurfaceGroup.tree.mask surface)
    (link : Option SurfaceId) :
    Ensures (unlinkEntry scene change link) (Changes [.restack, .surface .tree] scene) := by
  cases link with
  | none => exact .pure (.refl scene)
  | some owner => exact .read fun _ _ => .pure (.setForward .tree scene owner kept (by simp))

theorem destroySubsurfaceParts_changes (id : SurfaceId) :
    Ensures (destroySubsurfaceParts scene id) (Changes [.restack, .surface .tree] scene) := by
  apply Ensures.read
  intro surface _
  have told : Changes [.restack, .surface .tree] scene
      (if surface.extSubsurface then scene.tell (.subsurface id .destroy) else scene) := by
    split
    · exact .tell scene _ (by simp [Message.effect])
    · exact .refl scene
  have cleared : Changes [.restack, .surface .tree] scene
      ((if surface.extSubsurface then scene.tell (.subsurface id .destroy) else scene).setForward id
        fun surface => { surface with extSubsurface := false, extSurface := .none }) :=
    told.trans (.setForward .tree _ id (fun _ => rfl) (by simp))
  refine .via (Changes [.restack, .surface .tree] scene) ?_ fun pending changed => ?_
  · refine cleared.andThen (unlinkEntry_changes ?_ _)
    exact fun _ => rfl
  refine .via (Changes [.restack, .surface .tree] scene) ?_ fun committed changed => ?_
  · refine changed.andThen (unlinkEntry_changes ?_ _)
    exact fun _ => rfl
  exact .pure (changed.trans (.setForward .tree committed id (fun _ => rfl) (by simp)))

theorem clearPluginSurface_changes (output : Option OutputId) :
    Ensures (clearPluginSurface scene output) (Changes [.output .plugin] scene) := by
  cases output with
  | none => exact .pure (.refl scene)
  | some output => exact .read fun _ _ => .pure (.setOutput .plugin scene output (fun _ => rfl) (by simp))

theorem unlinkAttachment_changes (remove : ForwardBuffer → ForwardBuffer) (attachment : Attachment) :
    Ensures (unlinkAttachment scene remove attachment) (Changes [.buffer] scene) := by
  cases attachment with
  | null => exact .pure (.refl scene)
  | unreachable => exact .pure (.refl scene)
  | committed => exact .pure (.refl scene)
  | buffer buffer => exact .read fun _ _ => .check fun _ => .pure (.setBuffer scene buffer _ (by simp))

theorem clearUserData_changes (role : Role) (resource : Option ResourceId) :
    Ensures (clearUserData scene role resource) (Changes [.resource] scene) := by
  cases resource with
  | none => exact .pure (.refl scene)
  | some resource => exact .read fun _ _ => .pure (.single (.resources _) (by simp))

theorem surfaceHandleResourceDestroy_changes (id : SurfaceId) :
    Ensures (surfaceHandleResourceDestroy scene id) (Changes destroyEffects scene) := by
  apply Ensures.read
  intro surface _
  have ofPlugin {first second : Scene} (changes : Changes [.output .plugin] first second) :
      Changes destroyEffects first second := changes.widen (by simp)
  have ofBuffer {first second : Scene} (changes : Changes [.buffer] first second) :
      Changes destroyEffects first second := changes.widen (by simp)
  have ofDesc {first second : Scene} (changes : Changes [.desc] first second) :
      Changes destroyEffects first second := changes.widen (by simp)
  have ofResource {first second : Scene} (changes : Changes [.resource] first second) :
      Changes destroyEffects first second := changes.widen (by simp)
  have ofTree {first second : Scene} (changes : Changes [.restack, .surface .tree] first second) :
      Changes destroyEffects first second := changes.widen (by simp)
  refine ((clearPluginSurface_changes _).weaken fun _ => ofPlugin).bind fun hidden changed => ?_
  refine (changed.andThen ((unlinkAttachment_changes _ _).weaken fun _ => ofBuffer)).bind fun released changed => ?_
  refine (changed.andThen ((unlinkAttachment_changes _ _).weaken fun _ => ofBuffer)).bind fun detached changed => ?_
  refine (changed.andThen ((unlinkDesc_changes _ _).weaken fun _ => ofDesc)).bind fun pending changed => ?_
  refine (changed.andThen ((unlinkDesc_changes _ _).weaken fun _ => ofDesc)).bind fun committed changed => ?_
  refine (changed.andThen ((clearUserData_changes _ _).weaken fun _ => ofResource)).bind fun first changed => ?_
  refine (changed.andThen ((clearUserData_changes _ _).weaken fun _ => ofResource)).bind fun second changed => ?_
  refine (changed.andThen ((clearUserData_changes _ _).weaken fun _ => ofResource)).bind fun third changed => ?_
  refine (changed.andThen ((clearUserData_changes _ _).weaken fun _ => ofResource)).bind fun fourth changed => ?_
  refine (changed.andThen ((clearUserData_changes _ _).weaken fun _ => ofResource)).bind fun fifth changed => ?_
  refine (changed.andThen ((destroySubsurfaceParts_changes id).weaken fun _ => ofTree)).bind fun parted changed => ?_
  exact .pure (changed.trans (.single (.freeSurface id) (by simp)))

theorem frameCallbackHandleResourceDestroy_changes (id : ResourceId) :
    Changes [.surface .frames, .callbacks] scene (frameCallbackHandleResourceDestroy scene id) := by
  have swept : Changes [.surface .frames, .callbacks] scene
      { scene with forwardSurfaces := scene.forwardSurfaces.mapAll fun _ surface =>
        { surface with frameCallbacks := surface.frameCallbacks.erase id } } :=
    .single (@Change.sweep scene .frames _ fun _ _ => rfl) (by simp)
  exact swept.trans (.single (@Change.callbacks _ _ fun _ _ => rfl) (by simp))

end Surface

end SwaylockPlugin
