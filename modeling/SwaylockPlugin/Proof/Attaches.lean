import SwaylockPlugin.Proof.Attachments
import SwaylockPlugin.Proof.Callbacks

namespace SwaylockPlugin

open Library

/-- An attach request names the attachment of its argument. -/
def attachmentOf : Option BufferId → Attachment
  | none => .null
  | some buffer => .buffer buffer

/-- The resource of a buffer is gone and no other surface has the buffer pending. -/
def Scene.LastPending (scene : Scene) (id : SurfaceId) (buffer : BufferId) : Prop :=
  (∃ record, scene.forwardBuffers.cell buffer = some record ∧ record.resource = false) ∧
    ∀ other, scene.pendingBuffer other = some buffer → other = id

/-- No surface has a buffer committed. -/
def Scene.Uncommitted (scene : Scene) (buffer : BufferId) : Prop :=
  ∀ other, scene.committedBuffer other ≠ some buffer

/-- An attach request makes its argument the pending attachment, links the surface in the list of that buffer only and
releases the previous buffer exactly where nothing else refers to it. -/
structure Attaches (scene : Scene) (id : SurfaceId) (surface : ForwardSurface) (argument : Option BufferId)
    (next : Scene) : Prop where
  pending : ∃ current, next.forwardSurfaces.cell id = some current ∧ current.pending.attachment = attachmentOf argument
  live : ∀ buffer, argument = some buffer → (next.forwardBuffers.cell buffer).isSome = true
  linked : ∀ buffer record, next.forwardBuffers.cell buffer = some record →
    record.pendingSurfaces.count id = (argument == some buffer).toNat
  released : ∀ old, surface.pending.attachment = .buffer old → argument ≠ some old →
    (next.forwardBuffers.cell old = none ↔ scene.LastPending id old ∧ scene.Uncommitted old)

/-- An attach request is safe unless it removes an attachment or the last pending reference of a buffer that is
committed after its resource is gone. -/
def AttachSafe (scene : Scene) (id : SurfaceId) (surface : ForwardSurface) (argument : Option BufferId) : Prop :=
  (argument = none → surface.pending.attachment = .null) ∧
    ∀ old, surface.pending.attachment = .buffer old → argument ≠ some old → scene.LastPending id old →
      scene.Uncommitted old

section Attach

variable {scene released next : Scene} {id : SurfaceId} {surface : ForwardSurface} {buffer : BufferId}
  {record : ForwardBuffer}

theorem Attached.lastPending_iff (attached : Attached scene) (found : scene.forwardBuffers.cell buffer = some record) :
    scene.LastPending id buffer ↔
      (!record.resource && (record.pendingSurfaces.erase id).isEmpty) = true := by
  unfold Scene.LastPending
  rw [found, Bool.and_eq_true, Bool.not_eq_true', List.isEmpty_iff, attached.rolls.pendings.erase_eq_nil_iff found]
  refine and_congr_left fun _ => ⟨fun ⟨other, same, gone⟩ => ?_, fun gone => ⟨record, rfl, gone⟩⟩
  exact Option.some.inj same ▸ gone

theorem Attached.uncommitted_iff (attached : Attached scene) (found : scene.forwardBuffers.cell buffer = some record) :
    scene.Uncommitted buffer ↔ record.committedSurfaces.isEmpty = true := by
  rw [List.isEmpty_iff]
  exact (attached.rolls.committeds.eq_nil_iff found).symm

theorem releasePendingBuffer_buffer (found : scene.forwardBuffers.cell buffer = some record) :
    releasePendingBuffer scene id (.buffer buffer) =
      if !record.resource && (record.pendingSurfaces.erase id).isEmpty then
        check record.committedSurfaces.isEmpty >>= fun _ =>
          .ok { scene with forwardBuffers := (scene.forwardBuffers.modify buffer fun record =>
            { record with pendingSurfaces := record.pendingSurfaces.erase id }).free buffer }
      else .ok (scene.setBuffer buffer fun record =>
        { record with pendingSurfaces := record.pendingSurfaces.erase id }) := by
  have there : (scene.forwardBuffers.modify buffer fun record =>
      { record with pendingSurfaces := record.pendingSurfaces.erase id }).cell buffer =
        some { record with pendingSurfaces := record.pendingSurfaces.erase id } := by
    rw [Heap.cell_modify_self, found]
    rfl
  change ((demand _ (scene.forwardBuffers.cell buffer) >>= fun _ => pure (scene.setBuffer buffer fun record =>
    { record with pendingSurfaces := record.pendingSurfaces.erase id })) >>= _) = _
  rw [found]
  change (demand _ ((scene.forwardBuffers.modify buffer _).cell buffer) >>= _) = _
  rw [there]
  rfl

/-- The last pending reference of a buffer frees it, and the code asserts that no surface has it committed. -/
theorem Attached.releases_last (attached : Attached scene) (last : scene.LastPending id buffer) :
    (∃ released, releasePendingBuffer scene id (.buffer buffer) = .ok released) ↔ scene.Uncommitted buffer := by
  have ⟨⟨record, found, _⟩, _⟩ := last
  rw [releasePendingBuffer_buffer found, if_pos ((attached.lastPending_iff found).mp last), attached.uncommitted_iff found]
  constructor
  · rintro ⟨released, computed⟩
    obtain ⟨_, bare, _⟩ := bind_ok.mp computed
    exact require_ok.mp bare
  · intro bare
    rw [bare]
    exact ⟨_, rfl⟩

/-- A released buffer is freed exactly where it was pending on the surface only and its resource is gone. -/
theorem Attached.released_iff (attached : Attached scene) (names : scene.pendingBuffer id = some buffer)
    (computed : releasePendingBuffer scene id (.buffer buffer) = .ok released) :
    (released.forwardBuffers.cell buffer = none ↔ scene.LastPending id buffer ∧ scene.Uncommitted buffer) ∧
      released.forwardSurfaces = scene.forwardSurfaces ∧
      ∀ other, other ≠ buffer → released.forwardBuffers.cell other = scene.forwardBuffers.cell other := by
  obtain ⟨record, found, _⟩ := attached.rolls.pendings.present names
  rw [attached.lastPending_iff found, attached.uncommitted_iff found]
  rw [releasePendingBuffer_buffer found] at computed
  split at computed
  · rename_i last
    obtain ⟨_, bare, freed⟩ := bind_ok.mp computed
    cases freed
    refine ⟨iff_of_true (Heap.cell_free_self _ _) ⟨last, require_ok.mp bare⟩, rfl, fun other apart => ?_⟩
    exact (Heap.cell_free_other _ apart).trans (Heap.cell_modify_other _ _ apart)
  · rename_i more
    cases computed
    refine ⟨iff_of_false (fun gone => ?_) fun both => more both.1, rfl, fun other apart => Heap.cell_modify_other _ _ apart⟩
    change (scene.forwardBuffers.modify buffer _).cell buffer = none at gone
    rw [Heap.cell_modify_self, found] at gone
    cases gone

theorem nestedSurfaceAttach_some (present : scene.forwardSurfaces.cell id = some surface)
    (changed : surface.pending.attachment ≠ .buffer buffer) : nestedSurfaceAttach scene id (some buffer) = .ok next ↔
      ∃ released, releasePendingBuffer scene id surface.pending.attachment = .ok released ∧
        (∃ record, released.forwardBuffers.cell buffer = some record) ∧
        next = (released.setBuffer buffer fun record =>
          { record with pendingSurfaces := id :: record.pendingSurfaces }).setPending id fun pending =>
            { pending with attachment := .buffer buffer } := by
  unfold nestedSurfaceAttach Scene.forward
  rw [present]
  change (if surface.pending.attachment == .buffer buffer then _ else _) = _ ↔ _
  rw [if_neg fun same => changed (beq_iff_eq.mp same), bind_ok]
  refine exists_congr fun released => and_congr_right fun _ => ?_
  change ((demand _ (released.forwardBuffers.cell buffer) >>= fun _ => _) >>= fun scene => _) = _ ↔ _
  cases released.forwardBuffers.cell buffer with
  | none => exact iff_of_false nofun (by simp)
  | some record =>
      refine ⟨fun computed => ⟨⟨record, rfl⟩, (Except.ok.inj computed).symm⟩, fun ⟨_, same⟩ => ?_⟩
      rw [same]
      rfl

theorem Attached.attaches (attached : Attached scene) (present : scene.forwardSurfaces.cell id = some surface)
    {argument : Option BufferId} (computed : nestedSurfaceAttach scene id argument = .ok next) :
    (∃ current, next.forwardSurfaces.cell id = some current ∧ current.pending.attachment = attachmentOf argument) ∧
      ∀ old, surface.pending.attachment = .buffer old → argument ≠ some old →
        (next.forwardBuffers.cell old = none ↔ scene.LastPending id old ∧ scene.Uncommitted old) := by
  cases argument with
  | none =>
      unfold nestedSurfaceAttach Scene.forward at computed
      rw [present] at computed
      change (if surface.pending.attachment == .null then _ else _) = _ at computed
      split at computed
      · rename_i empty
        cases computed
        have empty := beq_iff_eq.mp empty
        refine ⟨⟨surface, present, empty⟩, fun old pending => ?_⟩
        cases empty.symm.trans pending
      · cases computed
  | some buffer =>
      by_cases same : surface.pending.attachment = .buffer buffer
      · unfold nestedSurfaceAttach Scene.forward at computed
        rw [present] at computed
        change (if surface.pending.attachment == .buffer buffer then _ else _) = _ at computed
        rw [if_pos (beq_iff_eq.mpr same)] at computed
        cases computed
        refine ⟨⟨surface, present, same⟩, fun old pending other => ?_⟩
        exact absurd (congrArg some (Attachment.buffer.inj (same.symm.trans pending))) other
      · obtain ⟨released, releasing, _, rfl⟩ := (nestedSurfaceAttach_some present same).mp computed
        refine ⟨?_, fun old pending other => ?_⟩
        · have kept : released.forwardSurfaces = scene.forwardSurfaces := by
            obtain ⟨buffers, rfl, _⟩ := releasePendingBuffer_attached attached present released releasing
            rfl
          refine ⟨{ surface with pending := { surface.pending with attachment := .buffer buffer } }, ?_, rfl⟩
          change (released.forwardSurfaces.modify id _).cell id = _
          rw [kept, Heap.cell_modify_self, present]
          rfl
        · rw [pending] at releasing
          have names : scene.pendingBuffer id = some old :=
            (Scene.pendingBuffer_of present).trans (congrArg Attachment.buffer? pending)
          rw [← (attached.released_iff names releasing).1]
          change (released.forwardBuffers.modify buffer _).cell old = none ↔ _
          rw [Heap.cell_modify_other _ _ fun same => other (congrArg some same.symm)]

theorem Attached.safe_of_attach (attached : Attached scene) (present : scene.forwardSurfaces.cell id = some surface)
    {argument : Option BufferId} (computed : nestedSurfaceAttach scene id argument = .ok next) :
    AttachSafe scene id surface argument := by
  have empty (none_ : argument = none) : surface.pending.attachment = .null := by
    subst none_
    unfold nestedSurfaceAttach Scene.forward at computed
    rw [present] at computed
    change (if surface.pending.attachment == .null then _ else _) = _ at computed
    split at computed
    · rename_i empty
      exact beq_iff_eq.mp empty
    · cases computed
  refine ⟨empty, fun old pending other last => ?_⟩
  cases argument with
  | none => cases pending.symm.trans (empty rfl)
  | some buffer =>
      have changed : surface.pending.attachment ≠ .buffer buffer := by
        rw [pending]
        exact fun same => other (congrArg some (Attachment.buffer.inj same).symm)
      obtain ⟨released, releasing, _⟩ := (nestedSurfaceAttach_some present changed).mp computed
      rw [pending] at releasing
      exact (attached.releases_last last).mp ⟨released, releasing⟩

theorem Attached.attach_of_safe (attached : Attached scene) (present : scene.forwardSurfaces.cell id = some surface)
    {argument : Option BufferId} (live : ∀ buffer, argument = some buffer → ∃ record, scene.forwardBuffers.cell buffer = some record)
    (safe : AttachSafe scene id surface argument) : ∃ next, nestedSurfaceAttach scene id argument = .ok next := by
  cases argument with
  | none =>
      refine ⟨scene, ?_⟩
      unfold nestedSurfaceAttach Scene.forward
      rw [present]
      exact if_pos (beq_iff_eq.mpr (safe.1 rfl))
  | some buffer =>
      obtain ⟨record, there⟩ := live buffer rfl
      by_cases same : surface.pending.attachment = .buffer buffer
      · refine ⟨scene, ?_⟩
        unfold nestedSurfaceAttach Scene.forward
        rw [present]
        exact if_pos (beq_iff_eq.mpr same)
      · have releases : ∃ released, releasePendingBuffer scene id surface.pending.attachment = .ok released ∧
            released.forwardBuffers.cell buffer = scene.forwardBuffers.cell buffer := by
          cases pending : surface.pending.attachment with
          | null => exact ⟨scene, rfl, rfl⟩
          | committed => exact ⟨scene, rfl, rfl⟩
          | unreachable => exact absurd pending (attached.marks id surface present).1
          | buffer old =>
              have apart : buffer ≠ old := fun equal => same (equal ▸ pending)
              have names : scene.pendingBuffer id = some old :=
                (Scene.pendingBuffer_of present).trans (congrArg Attachment.buffer? pending)
              have releasing : ∃ released, releasePendingBuffer scene id (.buffer old) = .ok released := by
                by_cases last : scene.LastPending id old
                · refine (attached.releases_last last).mpr (safe.2 old pending ?_ last)
                  exact fun equal => apart (Option.some.inj equal)
                · obtain ⟨record, found, _⟩ := attached.rolls.pendings.present names
                  rw [releasePendingBuffer_buffer found, if_neg fun test => last ((attached.lastPending_iff found).mpr test)]
                  exact ⟨_, rfl⟩
              obtain ⟨released, releasing⟩ := releasing
              exact ⟨released, releasing, (attached.released_iff names releasing).2.2 buffer apart⟩
        obtain ⟨released, releasing, kept⟩ := releases
        exact ⟨_, (nestedSurfaceAttach_some present same).mpr ⟨released, releasing, ⟨record, kept.trans there⟩, rfl⟩⟩

end Attach

/-- In every reachable state an attach request does its work exactly where it is safe. -/
theorem attach_completes {state : SwaylockState} (reachable : swaylock.machine.Reachable state) {id : SurfaceId}
    {surface : ForwardSurface} (present : state.scene.forwardSurfaces.cell id = some surface) {argument : Option BufferId}
    (allowed : ∀ buffer, argument = some buffer → ownsBuffer state.scene surface.client buffer = true) :
    (∃ next, nestedSurfaceAttach state.scene id argument = .ok next ∧ Attaches state.scene id surface argument next) ↔
      AttachSafe state.scene id surface argument := by
  have attached := attached_of_reachable reachable
  have live (buffer : BufferId) (same : argument = some buffer) :
      ∃ record, state.scene.forwardBuffers.cell buffer = some record := by
    obtain ⟨record, there, _⟩ := (Option.any_eq_true _ _).mp (allowed buffer same)
    exact ⟨record, there⟩
  constructor
  · rintro ⟨next, computed, _⟩
    exact attached.safe_of_attach present computed
  · intro safe
    obtain ⟨next, computed⟩ := attached.attach_of_safe present live safe
    obtain ⟨⟨current, there, pending⟩, released⟩ := attached.attaches present computed
    have after := nestedSurfaceAttach_attached attached id argument next computed
    have names : next.pendingBuffer id = argument := by
      rw [Scene.pendingBuffer_of there, pending]
      cases argument <;> rfl
    refine ⟨next, computed, ⟨current, there, pending⟩, fun buffer same => ?_, fun buffer record found => ?_, released⟩
    · obtain ⟨record, found, _⟩ := after.rolls.pendings.present (names.trans same)
      exact Option.isSome_of_eq_some found
    · have counted := after.rolls.pendings buffer id
      rw [found, names] at counted
      exact counted

/-- A surface with a committed buffer may attach another one. -/
theorem attach_completes_again : ∃ (state : SwaylockState) (surface : ForwardSurface),
    state.scene.forwardSurfaces.cell 0 = some surface ∧ surface.pending.attachment = .buffer 0 ∧
      ((∃ next, nestedSurfaceAttach state.scene 0 (some 1) = .ok next ∧ Attaches state.scene 0 surface (some 1) next) ↔
        AttachSafe state.scene 0 surface (some 1)) := by
  obtain ⟨state, reachable, passed⟩ := swaylock.play_reachable
    ((presentingEvents ++ [Event.scene (.request 0 (.createBuffer 100 50))]).map Event.obliged)
    (fun state => (state.scene.forwardSurfaces.cell 0).any fun surface =>
      surface.pending.attachment == .buffer 0 && ownsBuffer state.scene surface.client 1)
    (startState_initial _ _ _) (by decide +kernel : (swaylock.play defaultState _).any _ = true)
  obtain ⟨surface, present, tested⟩ := (Option.any_eq_true _ _).mp passed
  obtain ⟨pending, owned⟩ := Bool.and_eq_true_iff.mp tested
  refine ⟨state, surface, present, beq_iff_eq.mp pending, attach_completes reachable present fun buffer same => ?_⟩
  exact Option.some.inj same ▸ owned

/-- A surface that attaches nothing after a buffer follows a null pointer. -/
theorem detach_follows_null : ¬ ∀ state : SwaylockState, swaylock.machine.Reachable state → ∀ id surface argument,
    state.scene.forwardSurfaces.cell id = some surface →
      (∀ buffer, argument = some buffer → ownsBuffer state.scene surface.client buffer = true) →
        ∃ next, nestedSurfaceAttach state.scene id argument = .ok next ∧ Attaches state.scene id surface argument next := by
  intro claim
  obtain ⟨state, reachable, passed⟩ := swaylock.play_reachable (presentingEvents.map Event.obliged)
    (fun state => (state.scene.forwardSurfaces.cell 0).isSome &&
      match nestedSurfaceAttach state.scene 0 none with
      | .ok _ => false
      | .error _ => true)
    (startState_initial _ _ _) (by decide +kernel : (swaylock.play defaultState _).any _ = true)
  obtain ⟨there, failed⟩ := Bool.and_eq_true_iff.mp passed
  obtain ⟨surface, present⟩ := Option.isSome_iff_exists.mp there
  obtain ⟨next, computed, _⟩ := claim state reachable 0 surface none present nofun
  rw [computed] at failed
  cases failed

theorem Attachment.buffer?_eq_some {attachment : Attachment} {buffer : BufferId} :
    attachment.buffer? = some buffer ↔ attachment = .buffer buffer := by
  cases attachment <;> simp [Attachment.buffer?]

/-- A surface has a buffer as its pending or committed attachment exactly where the buffer lists the surface, every such
buffer and every listed surface is live, and a buffer without its resource is pending on a surface. -/
theorem attachments_linked {state : SwaylockState} (reachable : swaylock.machine.Reachable state) :
    (∀ id surface, state.scene.forwardSurfaces.cell id = some surface → ∀ buffer,
      (surface.pending.attachment = .buffer buffer ↔ ∃ record,
        state.scene.forwardBuffers.cell buffer = some record ∧ id ∈ record.pendingSurfaces) ∧
      (surface.committed.attachment = .buffer buffer ↔ ∃ record,
        state.scene.forwardBuffers.cell buffer = some record ∧ id ∈ record.committedSurfaces)) ∧
    ∀ buffer record, state.scene.forwardBuffers.cell buffer = some record →
      (record.resource = true ∨ record.pendingSurfaces ≠ []) ∧ record.pendingSurfaces.Nodup ∧
      record.committedSurfaces.Nodup ∧ ∀ id ∈ record.pendingSurfaces ++ record.committedSurfaces,
        (state.scene.forwardSurfaces.cell id).isSome = true := by
  have attached := attached_of_reachable reachable
  obtain ⟨pendings, committeds⟩ := attached.rolls
  have live {id : SurfaceId} {attachment : ForwardSurface → Attachment} {buffer : BufferId}
      (names : (state.scene.forwardSurfaces.cell id).bind (fun surface => (attachment surface).buffer?) = some buffer) :
      (state.scene.forwardSurfaces.cell id).isSome = true := by
    obtain ⟨surface, present, _⟩ := Option.bind_eq_some_iff.mp names
    rw [present]
    rfl
  refine ⟨fun id surface present buffer => ⟨?_, ?_⟩, fun buffer record found => ⟨attached.kept buffer record found, ?_⟩⟩
  · rw [← Attachment.buffer?_eq_some, ← Scene.pendingBuffer_of present]
    exact ⟨pendings.present, fun ⟨record, found, listed⟩ => pendings.names found listed⟩
  · rw [← Attachment.buffer?_eq_some, ← Scene.committedBuffer_of present]
    exact ⟨committeds.present, fun ⟨record, found, listed⟩ => committeds.names found listed⟩
  · refine ⟨pendings.nodup found, committeds.nodup found, fun id member => ?_⟩
    rcases List.mem_append.mp member with pending | committed
    · exact live (pendings.names found pending)
    · exact live (committeds.names found committed)

/-- A surface that shows a buffer has it pending and committed. -/
theorem attachments_linked_presented : ∃ (state : SwaylockState) (record : ForwardBuffer),
    state.scene.forwardBuffers.cell 0 = some record ∧ 0 ∈ record.committedSurfaces ∧ record.committedSurfaces.Nodup := by
  obtain ⟨state, reachable, passed⟩ := swaylock.play_reachable (presentingEvents.map Event.obliged)
    (fun state => (state.scene.forwardSurfaces.cell 0).any fun surface => surface.committed.attachment == .buffer 0)
    (startState_initial _ _ _) (by decide +kernel : (swaylock.play defaultState _).any _ = true)
  obtain ⟨surface, present, tested⟩ := (Option.any_eq_true _ _).mp passed
  obtain ⟨surfaces, buffers⟩ := attachments_linked reachable
  obtain ⟨record, found, listed⟩ := (surfaces 0 surface present 0).2.mp (beq_iff_eq.mp tested)
  exact ⟨state, record, found, listed, (buffers 0 record found).2.2.1⟩

end SwaylockPlugin
