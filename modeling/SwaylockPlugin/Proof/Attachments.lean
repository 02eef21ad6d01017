import SwaylockPlugin.Library.Listing
import SwaylockPlugin.Proof.Parts

namespace SwaylockPlugin

open Library

/-- An attachment names its buffer, and the marks of a buffer that is gone name none. -/
def Attachment.buffer? : Attachment → Option BufferId
  | .buffer id => some id
  | _ => none

/-- A surface holds a pending and a committed attachment. -/
def ForwardSurface.held (surface : ForwardSurface) : Attachment × Attachment :=
  (surface.pending.attachment, surface.committed.attachment)

namespace Scene

/-- A live surface names the buffer of its pending attachment. -/
def pendingBuffer (scene : Scene) (id : SurfaceId) : Option BufferId :=
  (scene.forwardSurfaces.cell id).bind fun surface => surface.held.1.buffer?

/-- A live surface names the buffer of its committed attachment. -/
def committedBuffer (scene : Scene) (id : SurfaceId) : Option BufferId :=
  (scene.forwardSurfaces.cell id).bind fun surface => surface.held.2.buffer?

variable {first second scene : Scene} {id : SurfaceId} {surface : ForwardSurface}

theorem buffers_congr (same : ∀ id, (second.forwardSurfaces.cell id).map ForwardSurface.held =
    (first.forwardSurfaces.cell id).map ForwardSurface.held) :
    second.pendingBuffer = first.pendingBuffer ∧ second.committedBuffer = first.committedBuffer := by
  have named (part : Attachment × Attachment → Attachment) :
      (fun id => (second.forwardSurfaces.cell id).bind fun surface => (part surface.held).buffer?) =
        fun id => (first.forwardSurfaces.cell id).bind fun surface => (part surface.held).buffer? := by
    funext id
    have bound := congrArg (Option.bind · fun held => (part held).buffer?) (same id)
    simp only [Option.bind_map] at bound
    exact bound
  exact ⟨named Prod.fst, named Prod.snd⟩

theorem pendingBuffer_of (present : scene.forwardSurfaces.cell id = some surface) :
    scene.pendingBuffer id = surface.pending.attachment.buffer? := by
  unfold pendingBuffer
  rw [present]
  rfl

theorem committedBuffer_of (present : scene.forwardSurfaces.cell id = some surface) :
    scene.committedBuffer id = surface.committed.attachment.buffer? := by
  unfold committedBuffer
  rw [present]
  rfl

theorem pendingBuffer_setForward (present : scene.forwardSurfaces.cell id = some surface)
    (change : ForwardSurface → ForwardSurface) : (scene.setForward id change).pendingBuffer =
      Function.update scene.pendingBuffer id (change surface).pending.attachment.buffer? := by
  funext other
  unfold pendingBuffer
  change ((scene.forwardSurfaces.modify id change).cell other).bind _ = _
  rw [Heap.cell_modify]
  by_cases same : other = id
  · rw [if_pos same, same, present, Function.update_self]
    rfl
  · rw [if_neg same, Function.update_of_ne same]

theorem committedBuffer_setForward (present : scene.forwardSurfaces.cell id = some surface)
    (change : ForwardSurface → ForwardSurface) : (scene.setForward id change).committedBuffer =
      Function.update scene.committedBuffer id (change surface).committed.attachment.buffer? := by
  funext other
  unfold committedBuffer
  change ((scene.forwardSurfaces.modify id change).cell other).bind _ = _
  rw [Heap.cell_modify]
  by_cases same : other = id
  · rw [if_pos same, same, present, Function.update_self]
    rfl
  · rw [if_neg same, Function.update_of_ne same]

end Scene

/-- The lists of the buffers hold exactly the surfaces that name the buffers. -/
structure Rolls (buffers : Heap ForwardBuffer) (pending committed : SurfaceId → Option BufferId) : Prop where
  pendings : Enlists buffers ForwardBuffer.pendingSurfaces pending
  committeds : Enlists buffers ForwardBuffer.committedSurfaces committed

namespace Rolls

variable {buffers : Heap ForwardBuffer} {pending committed : SurfaceId → Option BufferId} {id : SurfaceId}
  {buffer : BufferId} {record : ForwardBuffer}

theorem dropPending (rolls : Rolls buffers pending committed) (names : pending id = some buffer) :
    Rolls (buffers.modify buffer fun record => { record with pendingSurfaces := record.pendingSurfaces.erase id })
      (Function.update pending id none) committed :=
  ⟨rolls.pendings.remove names fun _ => rfl, rolls.committeds.modify buffer fun _ => rfl⟩

theorem dropCommitted (rolls : Rolls buffers pending committed) (names : committed id = some buffer) :
    Rolls (buffers.modify buffer fun record => { record with committedSurfaces := record.committedSurfaces.erase id })
      pending (Function.update committed id none) :=
  ⟨rolls.pendings.modify buffer fun _ => rfl, rolls.committeds.remove names fun _ => rfl⟩

theorem addPending (rolls : Rolls buffers pending committed) (free : pending id = none)
    (found : buffers.cell buffer = some record) :
    Rolls (buffers.modify buffer fun record => { record with pendingSurfaces := id :: record.pendingSurfaces })
      (Function.update pending id (some buffer)) committed :=
  ⟨rolls.pendings.add free found fun _ => rfl, rolls.committeds.modify buffer fun _ => rfl⟩

theorem addCommitted (rolls : Rolls buffers pending committed) (free : committed id = none)
    (found : buffers.cell buffer = some record) :
    Rolls (buffers.modify buffer fun record => { record with committedSurfaces := id :: record.committedSurfaces })
      pending (Function.update committed id (some buffer)) :=
  ⟨rolls.pendings.modify buffer fun _ => rfl, rolls.committeds.add free found fun _ => rfl⟩

theorem modify (rolls : Rolls buffers pending committed) (target : BufferId) {change : ForwardBuffer → ForwardBuffer}
    (pendings : ∀ record, (change record).pendingSurfaces = record.pendingSurfaces)
    (committeds : ∀ record, (change record).committedSurfaces = record.committedSurfaces) :
    Rolls (buffers.modify target change) pending committed :=
  ⟨rolls.pendings.modify target pendings, rolls.committeds.modify target committeds⟩

theorem free (rolls : Rolls buffers pending committed) (found : buffers.cell buffer = some record)
    (pendings : record.pendingSurfaces = []) (committeds : record.committedSurfaces = []) :
    Rolls (buffers.free buffer) pending committed :=
  ⟨rolls.pendings.free found pendings, rolls.committeds.free found committeds⟩

end Rolls

/-- The surfaces and the buffers of a scene refer to each other, no attachment holds the mark of the other kind, and every
buffer has its resource or a surface on which it is pending. -/
structure Attached (scene : Scene) : Prop where
  rolls : Rolls scene.forwardBuffers scene.pendingBuffer scene.committedBuffer
  marks : ∀ id surface, scene.forwardSurfaces.cell id = some surface →
    surface.held.1 ≠ .unreachable ∧ surface.held.2 ≠ .committed
  kept : ∀ buffer record, scene.forwardBuffers.cell buffer = some record →
    record.resource = true ∨ record.pendingSurfaces ≠ []

namespace Attached

variable {first second scene : Scene}

theorem congr (attached : Attached first) (same : ∀ id, (second.forwardSurfaces.cell id).map ForwardSurface.held =
    (first.forwardSurfaces.cell id).map ForwardSurface.held) (buffers : second.forwardBuffers = first.forwardBuffers) :
    Attached second := by
  obtain ⟨pending, committed⟩ := Scene.buffers_congr same
  refine ⟨?_, fun id surface present => ?_, ?_⟩
  · rw [buffers, pending, committed]
    exact attached.rolls
  · have seen := same id
    rw [present] at seen
    obtain ⟨old, there, held⟩ := Option.map_eq_some_iff.mp seen.symm
    exact held ▸ attached.marks id old there
  · rw [buffers]
    exact attached.kept

/-- These effects touch the attachments. -/
abbrev touching : List Effect := [.surface .attachment, .createSurface, .freeSurface, .buffer]

theorem of_changes {effects : List Effect} (attached : Attached first) (changes : Changes effects first second)
    (apart : ∀ effect ∈ effects, effect ∉ touching) : Attached second := by
  refine attached.congr (changes.surfaces ForwardSurface.held (fun group listed surface => ?_) ?_ ?_).1
    (changes.buffers fun listed => apart _ listed (by simp))
  · cases group with
    | attachment => exact absurd (by simp) (apart _ listed)
    | _ => rfl
  · exact fun listed => apart _ listed (by simp)
  · exact fun listed => apart _ listed (by simp)

theorem of_aside (attached : Attached first) (aside : Aside first second) : Attached second := by
  refine attached.congr (fun id => ?_) aside.buffers
  have masked := congrArg (Option.map ForwardSurface.held) (aside.forward id)
  simp only [Option.map_map] at masked
  exact masked

end Attached

section Handlers

variable {first second scene : Scene} {id : SurfaceId} {surface : ForwardSurface}

theorem Attached.createSurface (attached : Attached scene) (client : WlClientId) (version : Nat) :
    Attached (compositorCreateSurface scene client version) := by
  have named (part : Attachment × Attachment → Attachment) (none_ : part (.null, .null) = .null) :
      (fun id => ((compositorCreateSurface scene client version).forwardSurfaces.cell id).bind fun surface =>
        (part surface.held).buffer?) = fun id => (scene.forwardSurfaces.cell id).bind fun surface =>
          (part surface.held).buffer? := by
    funext id
    change ((scene.forwardSurfaces.alloc _).cell id).bind _ = _
    rw [Heap.cell_alloc]
    split
    · rename_i fresh
      rw [fresh, Heap.cell_next]
      exact congrArg Attachment.buffer? none_
    · rfl
  refine ⟨?_, fun id surface present => ?_, attached.kept⟩
  · have pending : (compositorCreateSurface scene client version).pendingBuffer = scene.pendingBuffer :=
      named Prod.fst rfl
    have committed : (compositorCreateSurface scene client version).committedBuffer = scene.committedBuffer :=
      named Prod.snd rfl
    rw [pending, committed]
    exact attached.rolls
  · obtain ⟨_, rfl⟩ | ⟨_, there⟩ := scene.forwardSurfaces.old_of_alloc present
    · exact ⟨nofun, nofun⟩
    · exact attached.marks id surface there

theorem Attached.createBuffer (attached : Attached scene) (client : WlClientId) (width height : Int32) :
    Attached (createForwardBuffer scene client width height) := by
  refine ⟨⟨attached.rolls.pendings.alloc rfl, attached.rolls.committeds.alloc rfl⟩, attached.marks, ?_⟩
  intro buffer record present
  obtain ⟨_, rfl⟩ | ⟨_, there⟩ := scene.forwardBuffers.old_of_alloc present
  · exact .inl rfl
  · exact attached.kept buffer record there

theorem releasePendingBuffer_attached (attached : Attached scene) (present : scene.forwardSurfaces.cell id = some surface) :
    Ensures (releasePendingBuffer scene id surface.pending.attachment) fun next =>
      ∃ buffers, next = { scene with forwardBuffers := buffers } ∧
        Rolls buffers (Function.update scene.pendingBuffer id none) scene.committedBuffer ∧
        ∀ buffer record, buffers.cell buffer = some record → record.resource = true ∨ record.pendingSurfaces ≠ [] := by
  have named := Scene.pendingBuffer_of present
  have nothing (none_ : scene.pendingBuffer id = none) : ∃ buffers, scene = { scene with forwardBuffers := buffers } ∧
      Rolls buffers (Function.update scene.pendingBuffer id none) scene.committedBuffer ∧
      ∀ buffer record, buffers.cell buffer = some record → record.resource = true ∨ record.pendingSurfaces ≠ [] := by
    refine ⟨scene.forwardBuffers, rfl, ?_, attached.kept⟩
    rw [← none_, Function.update_eq_self]
    exact attached.rolls
  cases pending : surface.pending.attachment with
  | null => exact .pure (nothing (named.trans (congrArg Attachment.buffer? pending)))
  | committed => exact .pure (nothing (named.trans (congrArg Attachment.buffer? pending)))
  | unreachable => exact .throw
  | buffer buffer =>
      have names : scene.pendingBuffer id = some buffer := named.trans (congrArg Attachment.buffer? pending)
      have left := attached.rolls.dropPending names
      have others {other : BufferId} {record : ForwardBuffer} (apart : other ≠ buffer)
          (there : (scene.forwardBuffers.modify buffer fun record =>
            { record with pendingSurfaces := record.pendingSurfaces.erase id }).cell other = some record) :
          record.resource = true ∨ record.pendingSurfaces ≠ [] := by
        rw [Heap.cell_modify_other _ _ apart] at there
        exact attached.kept other record there
      refine .via (fun next => next = scene.setBuffer buffer fun record =>
        { record with pendingSurfaces := record.pendingSurfaces.erase id }) ?_ ?_
      · exact .read fun _ _ => .pure rfl
      rintro _ rfl
      refine .read fun record found => ?_
      split
      · rename_i last
        simp only [Bool.and_eq_true, Bool.not_eq_true', List.isEmpty_iff] at last
        refine .check fun bare => .pure ⟨_, rfl, left.free found last.2 (List.isEmpty_iff.mp bare), ?_⟩
        intro other kept there
        have before := Heap.old_of_free _ there
        refine others (fun same => ?_) before
        rw [same, Heap.cell_free_self] at there
        cases there
      · rename_i more
        simp only [Bool.and_eq_true, Bool.not_eq_true', List.isEmpty_iff, not_and] at more
        refine .pure ⟨_, rfl, left, fun other kept there => ?_⟩
        by_cases same : other = buffer
        · rw [same] at there
          cases there.symm.trans found
          cases has : record.resource with
          | true => exact .inl rfl
          | false => exact .inr (more has)
        · exact others same there

theorem nestedSurfaceAttach_attached (attached : Attached scene) (id : SurfaceId) (buffer : Option BufferId) :
    Ensures (nestedSurfaceAttach scene id buffer) Attached := by
  refine .read fun surface present => ?_
  cases buffer with
  | none =>
      dsimp only
      split
      · exact .pure attached
      · exact .throw
  | some buffer =>
      dsimp only
      split
      · exact .pure attached
      refine (releasePendingBuffer_attached attached present).bind fun released left => ?_
      obtain ⟨buffers, rfl, rolls, kept⟩ := left
      refine .via (fun next => (∃ record, buffers.cell buffer = some record) ∧
          next = Scene.setBuffer { scene with forwardBuffers := buffers } buffer fun record =>
            { record with pendingSurfaces := id :: record.pendingSurfaces }) ?_ ?_
      · exact .read fun record found => .pure ⟨⟨record, found⟩, rfl⟩
      rintro _ ⟨⟨record, found⟩, rfl⟩
      have entered := rolls.addPending (Function.update_self ..) found
      rw [Function.update_idem] at entered
      refine .pure ⟨?_, fun other current there => ?_, fun other entry there => ?_⟩
      · have pending := scene.pendingBuffer_setForward present fun surface =>
          { surface with pending := { surface.pending with attachment := .buffer buffer } }
        have committed := scene.committedBuffer_setForward present fun surface =>
          { surface with pending := { surface.pending with attachment := .buffer buffer } }
        rw [← scene.committedBuffer_of present, Function.update_eq_self] at committed
        exact ⟨entered.pendings.congr (congrFun pending), entered.committeds.congr (congrFun committed)⟩
      · obtain ⟨old, before, ⟨_, rfl⟩ | ⟨_, rfl⟩⟩ := scene.forwardSurfaces.old_of_modify there
        · exact ⟨nofun, (attached.marks other old before).2⟩
        · exact attached.marks other current before
      · obtain ⟨old, before, ⟨_, rfl⟩ | ⟨_, rfl⟩⟩ := buffers.old_of_modify there
        · exact .inr (List.cons_ne_nil _ _)
        · exact kept other entry before

theorem kept_modify {buffers : Heap ForwardBuffer} (target : BufferId) {change : ForwardBuffer → ForwardBuffer}
    (same : ∀ record, (change record).resource = record.resource ∧ (change record).pendingSurfaces = record.pendingSurfaces)
    (kept : ∀ buffer record, buffers.cell buffer = some record → record.resource = true ∨ record.pendingSurfaces ≠ []) :
    ∀ buffer record, (buffers.modify target change).cell buffer = some record →
      record.resource = true ∨ record.pendingSurfaces ≠ [] := by
  intro buffer record there
  obtain ⟨old, before, ⟨_, rfl⟩ | ⟨_, rfl⟩⟩ := buffers.old_of_modify there
  · rw [(same old).1, (same old).2]
    exact kept buffer old before
  · exact kept buffer record before

theorem unlinkCommittedAttachment_attached (attached : Attached scene)
    (present : scene.forwardSurfaces.cell id = some surface) :
    Ensures (unlinkCommittedAttachment scene id surface.committed.attachment) fun next =>
      ∃ buffers, next = { scene with forwardBuffers := buffers } ∧
        Rolls buffers scene.pendingBuffer (Function.update scene.committedBuffer id none) ∧
        ∀ buffer record, buffers.cell buffer = some record → record.resource = true ∨ record.pendingSurfaces ≠ [] := by
  have named := Scene.committedBuffer_of present
  have nothing (none_ : scene.committedBuffer id = none) : ∃ buffers, scene = { scene with forwardBuffers := buffers } ∧
      Rolls buffers scene.pendingBuffer (Function.update scene.committedBuffer id none) ∧
      ∀ buffer record, buffers.cell buffer = some record → record.resource = true ∨ record.pendingSurfaces ≠ [] := by
    refine ⟨scene.forwardBuffers, rfl, ?_, attached.kept⟩
    rw [← none_, Function.update_eq_self]
    exact attached.rolls
  cases committed : surface.committed.attachment with
  | null => exact .pure (nothing (named.trans (congrArg Attachment.buffer? committed)))
  | unreachable => exact .pure (nothing (named.trans (congrArg Attachment.buffer? committed)))
  | committed => exact .throw
  | buffer buffer =>
      have left := attached.rolls.dropCommitted (named.trans (congrArg Attachment.buffer? committed))
      exact .read fun record _ => .check fun _ =>
        .pure ⟨_, rfl, left, kept_modify buffer (fun _ => ⟨rfl, rfl⟩) attached.kept⟩

theorem Attached.commit {buffers : Heap ForwardBuffer} (attached : Attached scene)
    (present : scene.forwardSurfaces.cell id = some surface) (change : ForwardSurface → ForwardSurface)
    (pending : ∀ surface, (change surface).pending.attachment = surface.pending.attachment)
    (committed : ∀ surface, (change surface).committed.attachment ≠ .committed)
    (rolls : Rolls buffers scene.pendingBuffer
      (Function.update scene.committedBuffer id (change surface).committed.attachment.buffer?))
    (kept : ∀ buffer record, buffers.cell buffer = some record → record.resource = true ∨ record.pendingSurfaces ≠ []) :
    Attached { scene.setForward id change with forwardBuffers := buffers } := by
  refine ⟨?_, fun other current there => ?_, kept⟩
  · have named := scene.pendingBuffer_setForward present change
    rw [pending surface, ← scene.pendingBuffer_of present, Function.update_eq_self] at named
    have recorded := scene.committedBuffer_setForward present change
    exact ⟨rolls.pendings.congr (congrFun named), rolls.committeds.congr (congrFun recorded)⟩
  · obtain ⟨old, before, ⟨_, rfl⟩ | ⟨_, rfl⟩⟩ := scene.forwardSurfaces.old_of_modify there
    · have marks := attached.marks other old before
      exact ⟨fun mark => marks.1 ((pending old).symm.trans mark), committed old⟩
    · exact attached.marks other current before

theorem applyAttachment_attached (attached : Attached scene) (id : SurfaceId) (target : Target) :
    Ensures (applyAttachment scene id target) Attached := by
  refine .read fun surface present => ?_
  cases pending : surface.pending.attachment with
  | committed => exact .pure attached
  | unreachable => exact .throw
  | null =>
      refine (unlinkCommittedAttachment_attached attached present).bind fun unlinked left => .check fun _ => .pure ?_
      obtain ⟨buffers, rfl, rolls, kept⟩ := left
      exact attached.commit present _ (fun _ => rfl) (fun _ => nofun) rolls kept
  | buffer buffer =>
      refine (unlinkCommittedAttachment_attached attached present).bind fun unlinked left => ?_
      obtain ⟨buffers, rfl, rolls, kept⟩ := left
      refine .read fun record found => .pure ?_
      have entered := rolls.addCommitted (Function.update_self ..) found
      rw [Function.update_idem] at entered
      have linked := attached.commit present (fun current => { current with
          committed := { current.committed with
            offsetX := if current.version < 5 then current.pending.offsetX else current.committed.offsetX
            offsetY := if current.version < 5 then current.pending.offsetY else current.committed.offsetY
            attachment := .buffer buffer }
          committedBufferWidth := record.width
          committedBufferHeight := record.height }) (fun _ => rfl) (fun _ => nofun) entered
        (kept_modify buffer (fun _ => ⟨rfl, rfl⟩) kept)
      exact linked.congr (fun _ => rfl) rfl

/-- A buffer whose resource goes away still has these committed surfaces, while the other buffers are as before. -/
structure Unmarking (start : Heap ForwardBuffer) (buffer : BufferId) (left : List SurfaceId) (scene : Scene) : Prop where
  rolls : Rolls scene.forwardBuffers scene.pendingBuffer scene.committedBuffer
  marks : ∀ id surface, scene.forwardSurfaces.cell id = some surface →
    surface.held.1 ≠ .unreachable ∧ surface.held.2 ≠ .committed
  found : ∃ record, scene.forwardBuffers.cell buffer = some record ∧ record.committedSurfaces = left
  others : ∀ other, other ≠ buffer → scene.forwardBuffers.cell other = start.cell other

theorem Unmarking.markPending {start : Heap ForwardBuffer} {buffer : BufferId} {left : List SurfaceId}
    (unmarking : Unmarking start buffer left scene) (present : scene.forwardSurfaces.cell id = some surface)
    (pending : surface.pending.attachment = .buffer buffer) :
    Unmarking start buffer left ((scene.setPending id fun pending => { pending with attachment := .committed }).setBuffer
      buffer fun record => { record with pendingSurfaces := record.pendingSurfaces.erase id }) := by
  obtain ⟨rolls, marks, ⟨record, found, committed⟩, others⟩ := unmarking
  have names : scene.pendingBuffer id = some buffer :=
    (Scene.pendingBuffer_of present).trans (congrArg Attachment.buffer? pending)
  have dropped := rolls.dropPending names
  refine ⟨?_, fun other current there => ?_, ⟨{ record with pendingSurfaces := record.pendingSurfaces.erase id }, ?_,
    committed⟩, fun other apart => ?_⟩
  · have named := scene.pendingBuffer_setForward present fun surface =>
      { surface with pending := { surface.pending with attachment := .committed } }
    have recorded := scene.committedBuffer_setForward present fun surface =>
      { surface with pending := { surface.pending with attachment := .committed } }
    rw [← scene.committedBuffer_of present, Function.update_eq_self] at recorded
    exact ⟨dropped.pendings.congr (congrFun named), dropped.committeds.congr (congrFun recorded)⟩
  · obtain ⟨old, before, ⟨_, rfl⟩ | ⟨_, rfl⟩⟩ := scene.forwardSurfaces.old_of_modify there
    · exact ⟨nofun, (marks other old before).2⟩
    · exact marks other current before
  · change (scene.forwardBuffers.modify buffer _).cell buffer = _
    rw [Heap.cell_modify_self, found]
    rfl
  · change (scene.forwardBuffers.modify buffer _).cell other = _
    rw [Heap.cell_modify_other _ _ apart]
    exact others other apart

theorem Unmarking.markCommitted {start : Heap ForwardBuffer} {buffer : BufferId} {left : List SurfaceId}
    (unmarking : Unmarking start buffer (id :: left) scene) (present : scene.forwardSurfaces.cell id = some surface) :
    Unmarking start buffer left ((scene.setCommitted id fun committed => { committed with attachment := .unreachable }).setBuffer
      buffer fun record => { record with committedSurfaces := record.committedSurfaces.erase id }) := by
  obtain ⟨rolls, marks, ⟨record, found, committed⟩, others⟩ := unmarking
  have names : scene.committedBuffer id = some buffer :=
    rolls.committeds.names found (committed ▸ List.mem_cons_self)
  have dropped := rolls.dropCommitted names
  refine ⟨?_, fun other current there => ?_, ⟨{ record with committedSurfaces := record.committedSurfaces.erase id }, ?_,
    ?_⟩, fun other apart => ?_⟩
  · have named := scene.pendingBuffer_setForward present fun surface =>
      { surface with committed := { surface.committed with attachment := .unreachable } }
    have recorded := scene.committedBuffer_setForward present fun surface =>
      { surface with committed := { surface.committed with attachment := .unreachable } }
    rw [← scene.pendingBuffer_of present, Function.update_eq_self] at named
    exact ⟨dropped.pendings.congr (congrFun named), dropped.committeds.congr (congrFun recorded)⟩
  · obtain ⟨old, before, ⟨_, rfl⟩ | ⟨_, rfl⟩⟩ := scene.forwardSurfaces.old_of_modify there
    · exact ⟨(marks other old before).1, nofun⟩
    · exact marks other current before
  · change (scene.forwardBuffers.modify buffer _).cell buffer = _
    rw [Heap.cell_modify_self, found]
    rfl
  · change record.committedSurfaces.erase id = left
    rw [committed, List.erase_cons_head]
  · change (scene.forwardBuffers.modify buffer _).cell other = _
    rw [Heap.cell_modify_other _ _ apart]
    exact others other apart

theorem markUnreachable_unmarking {start : Heap ForwardBuffer} {buffer : BufferId} {left : List SurfaceId}
    (unmarking : Unmarking start buffer (id :: left) scene) :
    Ensures (markUnreachable scene buffer id) (Unmarking start buffer left) := by
  obtain ⟨record, found, listed⟩ := unmarking.found
  have names : scene.committedBuffer id = some buffer :=
    unmarking.rolls.committeds.names found (listed ▸ List.mem_cons_self)
  refine .read fun surface present => ?_
  dsimp only
  split
  · rename_i same
    have committed : surface.committed.attachment = .buffer buffer := by
      have named := (Scene.committedBuffer_of present).symm.trans names
      cases shown : surface.committed.attachment with
      | buffer other =>
          rw [shown] at named
          exact congrArg Attachment.buffer (Option.some.inj named)
      | _ =>
          rw [shown] at named
          cases named
    have marked := unmarking.markPending present ((beq_iff_eq.mp same).trans committed)
    have still := scene.forwardSurfaces.cell_modify_self id fun surface =>
      { surface with pending := { surface.pending with attachment := .committed } }
    rw [present] at still
    exact .pure (marked.markCommitted still)
  · exact .pure (unmarking.markCommitted present)

theorem bufferHandleResourceDestroy_attached (attached : Attached scene) (buffer : BufferId) :
    Ensures (bufferHandleResourceDestroy scene buffer) Attached := by
  refine .read fun record found => ?_
  have loop (items : List SurfaceId) (state : Scene) (unmarking : Unmarking scene.forwardBuffers buffer items state) :
      Ensures (items.foldlM (fun scene id => markUnreachable scene buffer id) state)
        (Unmarking scene.forwardBuffers buffer []) := by
    induction items generalizing state with
    | nil => exact .pure unmarking
    | cons id items ih =>
        rw [List.foldlM_cons]
        exact (markUnreachable_unmarking unmarking).bind ih
  refine (loop _ scene ⟨attached.rolls, attached.marks, ⟨record, found, rfl⟩, fun _ _ => rfl⟩).bind fun marked done => ?_
  obtain ⟨rolls, marks, ⟨record, found, bare⟩, others⟩ := done
  have apart {other : BufferId} {kept : ForwardBuffer} (other_ : other ≠ buffer)
      (there : marked.forwardBuffers.cell other = some kept) : kept.resource = true ∨ kept.pendingSurfaces ≠ [] :=
    attached.kept other kept ((others other other_).symm.trans there)
  refine .read fun last present => ?_
  cases found.symm.trans present
  split
  · rename_i empty
    refine .pure ⟨rolls.free found (List.isEmpty_iff.mp empty) bare, marks, fun other kept there => ?_⟩
    refine apart (fun same => ?_) (Heap.old_of_free _ there)
    rw [same] at there
    change (marked.forwardBuffers.free buffer).cell buffer = _ at there
    rw [Heap.cell_free_self] at there
    cases there
  · rename_i waits
    refine .pure ⟨rolls.modify buffer (fun _ => rfl) fun _ => rfl, marks, fun other kept there => ?_⟩
    obtain ⟨old, before, ⟨rfl, rfl⟩ | ⟨other_, rfl⟩⟩ := marked.forwardBuffers.old_of_modify there
    · cases found.symm.trans before
      exact .inr fun empty => waits (List.isEmpty_iff.mpr empty)
    · exact apart other_ before

theorem unlinkAttachment_ok {remove : ForwardBuffer → ForwardBuffer} {attachment : Attachment} {next : Scene}
    (unlinked : unlinkAttachment scene remove attachment = .ok next) :
    attachment.buffer? = none ∧ next = scene ∨ ∃ buffer record, attachment = .buffer buffer ∧
      scene.forwardBuffers.cell buffer = some record ∧ record.resource = true ∧ next = scene.setBuffer buffer remove := by
  cases attachment with
  | buffer buffer =>
      obtain ⟨record, found, unlinked⟩ := bind_ok.mp unlinked
      obtain ⟨_, has, unlinked⟩ := bind_ok.mp unlinked
      cases unlinked
      exact .inr ⟨buffer, record, rfl, demand_ok.mp found, require_ok.mp has, rfl⟩
  | _ =>
      cases unlinked
      exact .inl ⟨rfl, rfl⟩

theorem unlinkPending_rolls {pending committed : SurfaceId → Option BufferId} {next : Scene} {attachment : Attachment}
    (rolls : Rolls scene.forwardBuffers pending committed) (named : pending id = attachment.buffer?)
    (unlinked : unlinkAttachment scene
      (fun record => { record with pendingSurfaces := record.pendingSurfaces.erase id }) attachment = .ok next) :
    Rolls next.forwardBuffers (Function.update pending id none) committed := by
  rcases unlinkAttachment_ok unlinked with ⟨none_, rfl⟩ | ⟨buffer, _, rfl, _, _, rfl⟩
  · rw [← none_, ← named, Function.update_eq_self]
    exact rolls
  · exact rolls.dropPending named

theorem unlinkCommitted_rolls {pending committed : SurfaceId → Option BufferId} {next : Scene} {attachment : Attachment}
    (rolls : Rolls scene.forwardBuffers pending committed) (named : committed id = attachment.buffer?)
    (unlinked : unlinkAttachment scene
      (fun record => { record with committedSurfaces := record.committedSurfaces.erase id }) attachment = .ok next) :
    Rolls next.forwardBuffers pending (Function.update committed id none) := by
  rcases unlinkAttachment_ok unlinked with ⟨none_, rfl⟩ | ⟨buffer, _, rfl, _, _, rfl⟩
  · rw [← none_, ← named, Function.update_eq_self]
    exact rolls
  · exact rolls.dropCommitted named

theorem unlinkAttachment_kept {remove : ForwardBuffer → ForwardBuffer} {attachment : Attachment} {next : Scene}
    (same : ∀ record, (remove record).resource = record.resource)
    (kept : ∀ buffer record, scene.forwardBuffers.cell buffer = some record →
      record.resource = true ∨ record.pendingSurfaces ≠ [])
    (unlinked : unlinkAttachment scene remove attachment = .ok next) :
    ∀ buffer record, next.forwardBuffers.cell buffer = some record →
      record.resource = true ∨ record.pendingSurfaces ≠ [] := by
  rcases unlinkAttachment_ok unlinked with ⟨_, rfl⟩ | ⟨buffer, shown, _, found, has, rfl⟩
  · exact kept
  · intro other record there
    obtain ⟨old, before, ⟨rfl, rfl⟩ | ⟨_, rfl⟩⟩ := scene.forwardBuffers.old_of_modify there
    · cases found.symm.trans before
      exact .inl ((same shown).trans has)
    · exact kept other record before

theorem unlinkAttachment_surfaces {remove : ForwardBuffer → ForwardBuffer} {attachment : Attachment} {next : Scene}
    (unlinked : unlinkAttachment scene remove attachment = .ok next) : next.forwardSurfaces = scene.forwardSurfaces := by
  rcases unlinkAttachment_ok unlinked with ⟨_, rfl⟩ | ⟨_, _, _, _, _, rfl⟩ <;> rfl

theorem Scene.buffers_free (scene : Scene) (id : SurfaceId) :
    ({ scene with forwardSurfaces := scene.forwardSurfaces.free id }).pendingBuffer =
        Function.update scene.pendingBuffer id none ∧
      ({ scene with forwardSurfaces := scene.forwardSurfaces.free id }).committedBuffer =
        Function.update scene.committedBuffer id none := by
  have named (part : Attachment × Attachment → Attachment) :
      (fun other => ((scene.forwardSurfaces.free id).cell other).bind fun surface => (part surface.held).buffer?) =
        Function.update (fun other => (scene.forwardSurfaces.cell other).bind fun surface => (part surface.held).buffer?)
          id none := by
    funext other
    rw [Heap.cell_free]
    by_cases same : other = id
    · rw [if_pos same, same, Function.update_self]
      rfl
    · rw [if_neg same, Function.update_of_ne same]
  exact ⟨named Prod.fst, named Prod.snd⟩

theorem surfaceHandleResourceDestroy_attached (attached : Attached scene) (id : SurfaceId) :
    Ensures (surfaceHandleResourceDestroy scene id) Attached := by
  intro last computed
  obtain ⟨surface, hidden, released, detached, undescribed, cleared, parted, destroys⟩ :=
    surfaceHandleResourceDestroy_parts id last computed
  have start : Attached hidden := attached.of_changes destroys.output (by simp)
  have present : ∃ old, hidden.forwardSurfaces.cell id = some old ∧ old.held = surface.held := by
    have seen := (destroys.output.surfaces ForwardSurface.held (by simp) (by simp) (by simp)).1 id
    rw [destroys.before] at seen
    exact Option.map_eq_some_iff.mp seen
  obtain ⟨old, there, held⟩ := present
  have pending : hidden.pendingBuffer id = surface.pending.attachment.buffer? :=
    (Scene.pendingBuffer_of there).trans (congrArg (fun held => held.1.buffer?) held)
  have committed : hidden.committedBuffer id = surface.committed.attachment.buffer? :=
    (Scene.committedBuffer_of there).trans (congrArg (fun held => held.2.buffer?) held)
  have rolls := unlinkCommitted_rolls (unlinkPending_rolls start.rolls pending destroys.pending) committed destroys.committed
  have left := unlinkAttachment_kept ?_ start.kept destroys.pending
  have kept := unlinkAttachment_kept ?_ left destroys.committed
  rotate_left
  · exact fun _ => rfl
  · exact fun _ => rfl
  have rest : Changes [.desc, .resource, .restack, .surface .tree] detached parted := by
    have undescribed : Changes [.desc, .resource, .restack, .surface .tree] detached undescribed :=
      destroys.descs.widen (by simp)
    have cleared := destroys.clears.widen
      (by simp : ∀ effect ∈ [Effect.resource], effect ∈ [.desc, .resource, .restack, .surface .tree])
    have parted := (destroySubsurfaceParts_changes id _ destroys.tree).widen
      (by simp : ∀ effect ∈ [Effect.restack, .surface .tree], effect ∈ [.desc, .resource, .restack, .surface .tree])
    exact (undescribed.trans cleared).trans parted
  have surfaces : detached.forwardSurfaces = hidden.forwardSurfaces :=
    (unlinkAttachment_surfaces destroys.committed).trans (unlinkAttachment_surfaces destroys.pending)
  have same (other : SurfaceId) : (parted.forwardSurfaces.cell other).map ForwardSurface.held =
      (hidden.forwardSurfaces.cell other).map ForwardSurface.held := by
    rw [← surfaces]
    refine (rest.surfaces ForwardSurface.held (fun group listed surface => ?_) (by simp) (by simp)).1 other
    cases group with
    | attachment => simp at listed
    | _ => rfl
  have buffers : parted.forwardBuffers = detached.forwardBuffers := rest.buffers (by simp)
  obtain ⟨namesPending, namesCommitted⟩ := Scene.buffers_congr same
  obtain ⟨freedPending, freedCommitted⟩ := parted.buffers_free id
  have freed := destroys.freed
  subst freed
  refine ⟨?_, fun other current found => ?_, ?_⟩
  · rw [freedPending, freedCommitted, namesPending, namesCommitted]
    exact buffers ▸ rolls
  · have seen := same other
    rw [Heap.old_of_free _ found] at seen
    obtain ⟨before, stood, held⟩ := Option.map_eq_some_iff.mp seen.symm
    exact held ▸ start.marks other before stood
  · exact buffers ▸ kept

end Handlers

namespace Attached

variable {first second scene : Scene}

theorem destroyed (attached : Attached scene) (owned : Owned) : Ensures (destroyOwned scene owned) Attached := by
  intro last ended
  cases destroyOwned_cases owned last ended with
  | surface handled => exact surfaceHandleResourceDestroy_attached attached _ last handled
  | buffer handled => exact bufferHandleResourceDestroy_attached attached _ last handled
  | imageDesc changes => exact attached.of_changes changes (by simp)
  | @parted id surface parted handled =>
      have freed : Changes [.resource] parted (parted.destroyResource id) := .destroyResource parted id (by simp)
      exact (attached.of_changes (destroySubsurfaceParts_changes surface parted handled) (by simp)).of_changes freed (by simp)
  | @resource id handled changes =>
      have freed : Changes [.resource] handled (handled.destroyResource id) := .destroyResource handled id (by simp)
      exact (attached.of_changes changes (by simp)).of_changes freed (by simp)

theorem emptied {env : Environment} (attached : Attached first) (emptied : Emptied env first second) : Attached second := by
  obtain ⟨before, after, early, destroyed, late⟩ := emptied
  have kept := Ensures.foldlM_holds (fun _ item start => Attached.destroyed start item) env.owned
    (attached.of_aside early) after destroyed
  exact kept.of_aside late

theorem updated {id : SurfaceId} {target : Target} (attached : Attached first) (updated : Updated id target first second) :
    Attached second := by
  obtain ⟨looked, attached_, damaged, stacked, framed, applied, after⟩ := updated
  have look := attached.of_changes applied.look (by simp)
  have committed := applyAttachment_attached look id target attached_ applied.attachment
  have damage := committed.of_changes applied.damage (by simp)
  have stacking := damage.of_changes (applySubsurfaces_changes id target stacked applied.stacking) (by simp)
  have frames := stacking.of_changes (applyFrameCallbacks_changes id target framed applied.frames) (by simp)
  exact frames.of_changes after (by simp)

theorem committed (attached : Attached first) (id : SurfaceId) :
    Ensures (nestedSurfaceCommit first id) fun result => Attached result.1 := by
  refine (nestedSurfaceCommit_parts id).weaken fun result parts => ?_
  obtain ⟨surface, current, middle, commits⟩ := parts
  have between : Attached middle := by
    rcases commits.nested with ⟨_, rfl⟩ | ⟨_, _, updated⟩
    · exact attached
    · exact attached.updated updated
  rcases commits.layer with ⟨_, changes⟩ | ⟨_, output, _, updated⟩
  · exact between.of_changes changes (by simp)
  · exact between.updated updated

theorem request {client : WlClientId} {request : Request} (attached : Attached first)
    (step : RequestStep first client request second) : Attached second := by
  cases step with
  | plain changes => exact attached.of_changes changes (by simp)
  | bound => exact attached.of_changes (Allotted.bound _ client _).changes (by simp)
  | layered layered => exact attached.of_changes layered.allotted.changes (by simp)
  | surface version => exact attached.createSurface client version
  | buffer width height => exact attached.createBuffer client width height
  | attached _ _ handled => exact nestedSurfaceAttach_attached attached _ _ second handled
  | framed id => exact attached.of_changes (nestedSurfaceFrame_changes client id) (by simp)
  | committed _ handled => exact attached.committed _ _ handled
  | parented _ _ handled =>
      exact attached.of_changes (subcompositorGetSubsurface_changes client _ _ second handled) (by simp)
  | extended _ extended => exact attached.of_changes extended.changes (by simp)
  | placedAbove _ _ handled => exact attached.of_changes (nestedSubsurfacePlaceAbove_changes client _ _ second handled) (by simp)
  | placedBelow _ _ handled => exact attached.of_changes (nestedSubsurfacePlaceBelow_changes client _ _ second handled) (by simp)
  | destroyed _ before handled => exact (attached.of_changes before (by simp)).destroyed _ second handled

theorem step {state next : SwaylockState} {env : Environment} {event : Event} (attached : Attached state.scene)
    (step : ObjectStep state env event next) : Attached next.scene := by
  cases step with
  | aside changes => exact attached.of_aside changes
  | emptied _ _ _ emptied => exact attached.emptied emptied
  | presented handled => exact attached.of_changes (bgFrameHandleDone_changes env _ next.scene handled) (by simp)
  | request _ handled => exact attached.request (handleRequest_step _ _ next.scene handled)

end Attached

theorem attached_of_reachable {state : SwaylockState} (reachable : swaylock.machine.Reachable state) :
    Attached state.scene := by
  refine reachable.invariant (fun state => Attached state.scene) (fun start initial => ?_)
    fun _ _ _ attached moved => attached.step (objectStep_of_step moved)
  have free (id : SurfaceId) : start.scene.forwardSurfaces.cell id = none := by
    rw [initial.surfaces.1]
    rfl
  refine ⟨⟨?_, ?_⟩, fun id surface present => ?_, fun buffer record present => ?_⟩
  · rw [initial.objects.1]
    exact .empty fun id => congrArg (Option.bind · _) (free id)
  · rw [initial.objects.1]
    exact .empty fun id => congrArg (Option.bind · _) (free id)
  · cases (free id).symm.trans present
  · rw [initial.objects.1] at present
    cases present

end SwaylockPlugin
