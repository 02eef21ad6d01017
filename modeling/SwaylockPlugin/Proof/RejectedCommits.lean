import SwaylockPlugin.Proof.CommitSizes

namespace SwaylockPlugin

open Library

/-- A commit spares a lock surface when it sends nothing to it, so that no later commit shows anything of it, and leaves
the committed record. -/
structure Spares (id : SurfaceId) (output : OutputId) (scene next : Scene) : Prop where
  requests : requestsOn (.lock output) next.wire = requestsOn (.lock output) scene.wire
  content : contentOf (.lock output) next.wire = contentOf (.lock output) scene.wire
  committed : (next.forwardSurfaces.cell id).map ForwardSurface.committed =
    (scene.forwardSurfaces.cell id).map ForwardSurface.committed

/-- The pending state of a surface is the committed one. -/
structure ForwardSurface.Unchanged (surface : ForwardSurface) : Prop where
  look : surface.pending.look = surface.committed.look
  attachment : surface.pending.attachment = .committed
  offset : surface.moves = false
  above : surface.pending.subsurfacesAbove = surface.committed.subsurfacesAbove
  below : surface.pending.subsurfacesBelow = surface.committed.subsurfacesBelow

namespace ForwardSurface

variable {surface current : ForwardSurface} {size : UInt32 × UInt32}

theorem takeLook_eq {committed pending : SurfaceState} (same : pending.look = committed.look) :
    committed.takeLook pending = committed := by
  cases committed
  cases pending
  unfold SurfaceState.look at same
  simp only [Look.mk.injEq] at same
  simp only [SurfaceState.takeLook, same]

theorem presented_offset (late : surface.version ≥ 5) :
    (surface.presented size).committed.offsetX = surface.pending.offsetX ∧
      (surface.presented size).committed.offsetY = surface.pending.offsetY := by
  have pending : (surface.takeContent size).pending = surface.pending := by
    have kept := congrArg ForwardSurface.pending (surface.takeLook.takeAttachment_kept size)
    exact kept
  have version : (surface.takeContent size).version = surface.version := by
    have kept := congrArg ForwardSurface.version (surface.takeLook.takeAttachment_kept size)
    exact kept
  change (surface.takeContent size).takeOffset.committed.offsetX = _ ∧
    (surface.takeContent size).takeOffset.committed.offsetY = _
  rw [← pending]
  unfold takeOffset
  split
  · exact ⟨rfl, rfl⟩
  · rename_i still
    simpa only [moves, version, late, decide_true, Bool.and_true, Bool.or_eq_true, bne_iff_ne, ne_eq, not_or, not_not] using still

theorem takeContent_committed (attachment : surface.pending.attachment = .committed) :
    surface.takeContent size = surface.takeLook := by
  unfold takeContent takeAttachment
  rw [show surface.takeLook.pending.attachment = .committed from attachment]

theorem presented_unchanged (unchanged : surface.Unchanged) : (surface.presented size).committed = surface.committed := by
  have looked : surface.takeLook = surface := by
    unfold takeLook
    rw [takeLook_eq unchanged.look]
  have content : (surface.takeContent size).takeOffset = surface := by
    rw [takeContent_committed unchanged.attachment, looked, takeOffset, unchanged.offset, if_neg Bool.false_ne_true]
  unfold presented
  rw [content]
  unfold takeStacks
  rw [unchanged.above, unchanged.below]

theorem unchanged_of_presented (pending : current.pending = surface.pending) (version : current.version = surface.version)
    (attachment : surface.pending.attachment = .committed)
    (same : (current.presented size).committed = surface.committed) : surface.Unchanged := by
  have taken : (current.takeContent size).takeOffset.pending = surface.pending := by
    have kept := congrArg ForwardSurface.pending (current.takeContent_kept size)
    exact kept.trans pending
  refine ⟨?_, attachment, ?_, ?_, ?_⟩
  · rw [← same, presented_look, pending]
  · by_cases late : surface.version ≥ 5
    · obtain ⟨left, top⟩ := @presented_offset current size (version ▸ late)
      rw [same, pending] at left top
      rw [moves, left, top, bne_self_eq_false, bne_self_eq_false]
      rfl
    · rw [moves, decide_eq_false late, Bool.and_false]
  · rw [← same, ← taken]
    rfl
  · rw [← same, ← taken]
    rfl

theorem contentRequests_nil_iff (drawn : surface.pending.attachment ≠ .null)
    (reachable : surface.pending.attachment ≠ .unreachable) : surface.contentRequests size = [] ↔
      surface.pending.attachment = .committed ∧ surface.moves = false ∧ surface.damageRequests = [] ∧
        surface.frameCallbacks = [] := by
  unfold contentRequests
  rw [List.append_eq_nil_iff, List.append_eq_nil_iff, List.append_eq_nil_iff]
  cases attachment : surface.pending.attachment with
  | null => exact absurd attachment drawn
  | unreachable => exact absurd attachment reachable
  | buffer => simp [attachRequests, attachment]
  | committed =>
      have still : surface.takeLook.moves = surface.moves := rfl
      rw [takeContent_committed attachment, attachRequests, attachment, offsetRequests, frameRequests, still]
      simp [and_assoc]

theorem lookRequests_self (description : UpstreamDesc) (look : Look) : lookRequests description look look = [] := by
  simp [lookRequests]

theorem presents_nothing_iff (pending : current.pending = surface.pending) (version : current.version = surface.version)
    (kept : surface.Unchanged → current.committed = surface.committed) (drawn : surface.pending.attachment ≠ .null)
    (reachable : surface.pending.attachment ≠ .unreachable) (description : UpstreamDesc) :
    lookRequests description current.committed.look current.pending.look ++ current.contentRequests size = [] ∧
        (current.presented size).committed = surface.committed ↔
      surface.Unchanged ∧ current.damageRequests = [] ∧ current.frameCallbacks = [] := by
  have content := @contentRequests_nil_iff current size (pending ▸ drawn) (pending ▸ reachable)
  rw [List.append_eq_nil_iff, content]
  constructor
  · rintro ⟨⟨_, attachment, _, damage, frames⟩, same⟩
    exact ⟨unchanged_of_presented pending version (pending ▸ attachment) same, damage, frames⟩
  · rintro ⟨unchanged, damage, frames⟩
    have same := kept unchanged
    have again : current.Unchanged := by
      obtain ⟨look, attachment, offset, above, below⟩ := unchanged
      refine ⟨?_, ?_, ?_, ?_, ?_⟩
      · rw [pending, same, look]
      · rw [pending, attachment]
      · rw [← offset, moves, moves, pending, same, version]
      · rw [pending, same, above]
      · rw [pending, same, below]
    refine ⟨⟨?_, again.attachment, again.offset, damage, frames⟩, (presented_unchanged again).trans same⟩
    rw [again.look, lookRequests_self]

end ForwardSurface

section Rejections

variable {scene middle next : Scene} {id : SurfaceId} {surface current : ForwardSurface} {output : OutputId}
  {error : CommitError}

theorem spares_iff {requests : List SurfaceRequest}
    (sent : requestsOn (.lock output) next.wire = requestsOn (.lock output) scene.wire ++ requests)
    (before : scene.forwardSurfaces.cell id = some surface) (after : next.forwardSurfaces.cell id = some current) :
    Spares id output scene next ↔ requests = [] ∧ current.committed = surface.committed := by
  constructor
  · rintro ⟨kept, _, same⟩
    rw [before, after] at same
    exact ⟨List.append_right_eq_self.mp (sent.symm.trans kept), Option.some.inj same⟩
  · rintro ⟨rfl, same⟩
    rw [List.append_nil] at sent
    refine ⟨sent, ?_, ?_⟩
    · rw [contentOf, contentOf, sent]
    · rw [before, after, Option.map_some, Option.map_some, same]

theorem requestsOn_foreign {target other : Target} {messages : List Message} (apart : target ≠ other)
    (addressed : ∀ message ∈ messages, message.addresses target = true) : requestsOn other messages = [] := by
  refine List.filterMap_eq_nil_iff.mpr fun message member => ?_
  have named := addressed message member
  cases message with
  | surface upstream request =>
      cases of_decide_eq_true named
      exact if_neg apart
  | _ => rfl

/-- A commit in the layer role is rejected before anything of it is applied or after all of it is. -/
theorem commitInRole_rejected (between : middle.forwardSurfaces.cell id = some current)
    (rejects : commitInRole middle id current output = .ok (next, .rejected error)) :
    current.pending.attachment = .null ∧ current.committed.attachment ≠ .null ∧
        next = middle.postError current.client (.commit .unmapped) ∨
      current.pending.attachment ≠ .null ∧ current.pending.attachment ≠ .unreachable ∧
        ∃ description size after, requestsOn (.lock output) next.wire = requestsOn (.lock output) middle.wire ++
            (lookRequests description current.committed.look current.pending.look ++ current.contentRequests size) ∧
          next.forwardSurfaces.cell id = some after ∧ after.committed = (current.presented size).committed := by
  unfold commitInRole at rejects
  split at rejects
  · obtain ⟨_, _, rejects⟩ := bind_ok.mp rejects
    cases rejects
  split at rejects
  · rename_i unmapped
    split at rejects
    · cases rejects
    · rename_i shown
      cases rejects
      exact .inl ⟨beq_iff_eq.mp unmapped, fun absent => shown (beq_iff_eq.mpr absent), rfl⟩
  rename_i drawn
  obtain ⟨record, _, rejects⟩ := bind_ok.mp rejects
  obtain ⟨applied, applies, rejects⟩ := bind_ok.mp rejects
  obtain ⟨checked, found, rejects⟩ := bind_ok.mp rejects
  obtain ⟨reachable, description, size, _, stacking⟩ :=
    applyPendingSurfaceUpdates_stacks between record.surface applied applies
  obtain ⟨after, there, same⟩ := stacking.seen
  obtain ⟨messages, wire, requests, _⟩ := stacking.wire
  obtain ⟨verdict, _, rejects⟩ := bind_ok.mp rejects
  cases verdict with
  | none =>
      obtain ⟨_, _, rejects⟩ := bind_ok.mp rejects
      cases rejects
  | some error =>
      cases rejects
      have committed := congrArg ForwardSurface.committed same
      refine .inr ⟨fun absent => drawn (beq_iff_eq.mpr absent), reachable, description, size, after, ?_, there, committed⟩
      change requestsOn _ (applied.wire ++ [.plugin _]) = _
      rw [requestsOn_append, wire, requestsOn_append, requests]
      exact List.append_nil _

theorem commitSubsurface_presents (present : scene.forwardSurfaces.cell id = some surface)
    (parent : surface.subsurfaceParent.isSome = true) (nested : commitSubsurface scene id surface = .ok middle)
    (between : middle.forwardSurfaces.cell id = some current) :
    requestsOn (.lock output) middle.wire = requestsOn (.lock output) scene.wire ∧
      ∃ size, current.unplaced = (surface.presented size).unplaced := by
  unfold commitSubsurface at nested
  rw [if_pos parent] at nested
  obtain ⟨framed, applies, nested⟩ := bind_ok.mp nested
  cases nested
  obtain ⟨_, _, size, _, stacking⟩ := applyPendingSurfaceUpdates_stacks present surface.extSurface framed applies
  obtain ⟨record, there, same⟩ := stacking.seen
  cases between.symm.trans there
  obtain ⟨messages, wire, _, addressed⟩ := stacking.wire
  refine ⟨?_, size, same⟩
  change requestsOn _ (framed.wire ++ [.surface (.ext id) .commit]) = _
  rw [requestsOn_append, wire, requestsOn_append, requestsOn_foreign (fun same => by cases same) addressed, List.append_nil]
  exact List.append_nil _

/-- A rejected commit spares the lock surface exactly where it unmaps its surface or nothing is pending. -/
theorem rejected_commit_spares_iff (present : scene.forwardSurfaces.cell id = some surface)
    (role : surface.swaySurface = some output) (rejects : nestedSurfaceCommit scene id = .ok (next, .rejected error)) :
    Spares id output scene next ↔ surface.subsurfaceParent = none ∧ surface.pending.attachment = .null ∨
      surface.Unchanged ∧
        (surface.subsurfaceParent = none → surface.damageRequests = [] ∧ surface.frameCallbacks = []) := by
  obtain ⟨old, found, rejects⟩ := bind_ok.mp rejects
  cases present.symm.trans (demand_ok.mp found)
  split at rejects
  · cases rejects
  obtain ⟨middle, nested, rejects⟩ := bind_ok.mp rejects
  obtain ⟨current, found, rejects⟩ := bind_ok.mp rejects
  have between := demand_ok.mp found
  cases parent : surface.subsurfaceParent with
  | none =>
      rw [commitSubsurface, parent] at nested
      cases nested
      cases present.symm.trans between
      rw [role] at rejects
      rcases commitInRole_rejected present rejects with ⟨unmapped, _, rfl⟩ | ⟨drawn, reachable, description, size, parts⟩
      · have still : (scene.postError surface.client (.commit .unmapped)).forwardSurfaces.cell id = some surface := present
        refine iff_of_true ((spares_iff ?_ present still).mpr ⟨rfl, rfl⟩) (.inl ⟨rfl, unmapped⟩)
        exact requestsOn_append _ scene.wire [.plugin _]
      · obtain ⟨after, sent, there, same⟩ := parts
        rw [spares_iff sent present there, same,
          ForwardSurface.presents_nothing_iff rfl rfl (fun _ => rfl) drawn reachable]
        constructor
        · exact fun settled => .inr ⟨settled.1, fun _ => settled.2⟩
        · rintro (⟨_, unmapped⟩ | ⟨unchanged, unsent⟩)
          · exact absurd unmapped drawn
          · exact ⟨unchanged, unsent rfl⟩
  | some other =>
      obtain ⟨silent, first, taken⟩ := commitSubsurface_presents present (parent ▸ rfl) nested between
      have pending : current.pending = surface.pending :=
        (congrArg ForwardSurface.pending taken).trans ForwardSurface.presented_pending
      have committed : current.committed = (surface.presented first).committed := by
        have kept := congrArg ForwardSurface.committed taken
        exact kept
      have version : current.version = surface.version := by
        have kept := congrArg ForwardSurface.version (surface.takeContent_kept first)
        exact (congrArg ForwardSurface.version taken).trans kept
      have serves : current.swaySurface = some output :=
        ((congrArg (fun surface => surface.roleCore.role) taken).trans
          (congrArg RoleCore.role ForwardSurface.presented_roleCore)).trans role
      rw [serves] at rejects
      rcases commitInRole_rejected between rejects with ⟨unmapped, shown, _⟩ | ⟨drawn, reachable, description, size, parts⟩
      · -- the commit as a subsurface took the missing attachment over
        have attached := congrArg AttachmentCore.committed (@ForwardSurface.presented_attachments surface first)
        rw [ForwardSurface.takeAttachment_attachments, ← pending, unmapped] at attached
        have missing : current.committed.attachment = .null :=
          (congrArg SurfaceState.attachment committed).trans attached
        exact absurd missing shown
      · obtain ⟨after, sent, there, same⟩ := parts
        rw [silent] at sent
        rw [pending] at drawn reachable
        rw [spares_iff sent present there, same, ForwardSurface.presents_nothing_iff pending version
          (fun unchanged => committed.trans (ForwardSurface.presented_unchanged unchanged)) drawn reachable]
        have damage : current.damageRequests = [] := congrArg ForwardSurface.damageRequests taken
        have frames : current.frameCallbacks = [] := congrArg ForwardSurface.frameCallbacks taken
        constructor
        · exact fun settled => .inr ⟨settled.1, nofun⟩
        · rintro (⟨absent, _⟩ | ⟨unchanged, _⟩)
          · cases absent
          · exact ⟨unchanged, damage, frames⟩

/-- A commit ends with an error that is posted to the plugin. -/
def endsRejected (scene : Scene) (id : SurfaceId) : Bool :=
  match nestedSurfaceCommit scene id with
  | .ok (_, .rejected _) => true
  | _ => false

theorem rejected_of_test (rejected : endsRejected scene id = true) :
    ∃ next error, nestedSurfaceCommit scene id = .ok (next, .rejected error) := by
  unfold endsRejected at rejected
  split at rejected
  · rename_i next error commits
    exact ⟨next, error, commits⟩
  · cases rejected

/-- A plugin destroys the buffer that it drew, and its output is resized. -/
def undrawnEvents : List Event :=
  presentingEvents ++ [.scene (.request 0 (.destroyBuffer 0)), .scene (.configure 0 8 200 80),
    .scene (.request 0 (.object 1 (.ackConfigure 100002)))]

/-- A commit without pending state in the old size is rejected and spares the lock surface. -/
theorem rejected_commit_spares_iff_undrawn : ∃ (state : SwaylockState) (next : Scene) (error : CommitError),
    nestedSurfaceCommit state.scene 0 = .ok (next, .rejected error) ∧ Spares 0 0 state.scene next := by
  obtain ⟨state, reachable, passed⟩ := swaylock.play_reachable (undrawnEvents.map Event.obliged)
    (fun state => endsRejected state.scene 0 && (state.scene.forwardSurfaces.cell 0).any fun surface : ForwardSurface =>
      surface.swaySurface == some 0 && decide (surface.pending.look = surface.committed.look ∧
        surface.pending.attachment = .committed ∧ surface.moves = false ∧
        surface.pending.subsurfacesAbove = surface.committed.subsurfacesAbove ∧
        surface.pending.subsurfacesBelow = surface.committed.subsurfacesBelow) &&
      decide (surface.damageRequests = [] ∧ surface.frameCallbacks = []))
    (startState_initial _ _ _) (by decide +kernel : (swaylock.play defaultState _).any _ = true)
  simp only [Bool.and_eq_true, Option.any_eq_true, beq_iff_eq, decide_eq_true_eq] at passed
  obtain ⟨rejected, surface, present, ⟨role, look, attachment, offset, above, below⟩, unsent⟩ := passed
  obtain ⟨next, error, rejects⟩ := rejected_of_test rejected
  exact ⟨state, next, error, rejects, (rejected_commit_spares_iff present role rejects).mpr
    (.inr ⟨⟨look, attachment, offset, above, below⟩, fun _ => unsent⟩)⟩

/-- A plugin that draws attaches a buffer of another size. -/
def oversizedEvents : List Event :=
  presentingEvents ++ ([.createBuffer 60 60, .surface 0 (.attach (some 1))] : List Request).map fun request =>
    .scene (.request 0 request)

/-- A commit that is rejected for its size leaves its buffer attached to the lock surface. -/
theorem rejected_buffer_attached : ¬ ∀ (state : SwaylockState) (id : SurfaceId) (surface : ForwardSurface)
    (output : OutputId) (next : Scene) (error : CommitError), swaylock.machine.Reachable state →
      state.scene.forwardSurfaces.cell id = some surface → surface.swaySurface = some output →
        nestedSurfaceCommit state.scene id = .ok (next, .rejected error) → Spares id output state.scene next := by
  intro claim
  obtain ⟨state, reachable, passed⟩ := swaylock.play_reachable (oversizedEvents.map Event.obliged)
    (fun state => ((state.scene.forwardSurfaces.cell 0).any fun surface => surface.swaySurface == some 0) &&
      match nestedSurfaceCommit state.scene 0 with
      | .ok (next, .rejected _) => requestsOn (.lock 0) next.wire != requestsOn (.lock 0) state.scene.wire
      | _ => false)
    (startState_initial _ _ _) (by decide +kernel : (swaylock.play defaultState _).any _ = true)
  simp only [Bool.and_eq_true, Option.any_eq_true, beq_iff_eq] at passed
  obtain ⟨⟨surface, present, role⟩, sent⟩ := passed
  split at sent
  · rename_i next error rejects
    exact bne_iff_ne.mp sent (claim state 0 surface 0 next error reachable present role rejects).requests
  · cases sent

end Rejections

end SwaylockPlugin
