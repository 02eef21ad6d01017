import SwaylockPlugin.Proof.Guard

namespace SwaylockPlugin

open Library

variable {meets : CycleView → CycleEvent → Prop} {hidden : Option OutputId}

/-- A change keeps the drawn size of the surface that it changes. -/
def KeepsDrawn (change : ForwardSurface → ForwardSurface) : Prop :=
  ∀ record, 0 < record.committedBufferWidth ∧ 0 < record.committedBufferHeight →
    0 < (change record).committedBufferWidth ∧ 0 < (change record).committedBufferHeight

theorem Scene.Drawn.setForward {scene : Scene} {surface : SurfaceId} (drawn : scene.Drawn surface) (id : SurfaceId)
    {change : ForwardSurface → ForwardSurface} (keeps : KeepsDrawn change) :
    (scene.setForward id change).Drawn surface := by
  intro changed found
  obtain ⟨old, there, ⟨_, rfl⟩ | ⟨_, rfl⟩⟩ := scene.forwardSurfaces.old_of_modify found
  · exact keeps old (drawn old there)
  · exact drawn changed there

theorem Scene.Drawn.setPending {scene : Scene} {surface : SurfaceId} (drawn : scene.Drawn surface) (id : SurfaceId)
    (change : SurfaceState → SurfaceState) : (scene.setPending id change).Drawn surface :=
  drawn.setForward id fun _ size => size

theorem Scene.Drawn.setCommitted {scene : Scene} {surface : SurfaceId} (drawn : scene.Drawn surface) (id : SurfaceId)
    (change : SurfaceState → SurfaceState) : (scene.setCommitted id change).Drawn surface :=
  drawn.setForward id fun _ size => size

theorem Scene.Drawn.setBuffer {scene : Scene} {surface : SurfaceId} (drawn : scene.Drawn surface) (id : BufferId)
    (change : ForwardBuffer → ForwardBuffer) : (scene.setBuffer id change).Drawn surface :=
  drawn

theorem SurfaceGuard.setForward {scene : Scene} (guard : SurfaceGuard scene) (id : SurfaceId)
    {change : ForwardSurface → ForwardSurface} (keeps : KeepsDrawn change)
    (kept : ∀ record, scene.forwardSurfaces.cell id = some record → record.Guarded → (change record).Guarded) :
    SurfaceGuard (scene.setForward id change) where
  records := scene.forwardSurfaces.every_modify id change kept guard.records
  sized := guard.sized
  shown buffer record present surface member := by
    obtain ⟨below, drawn⟩ := guard.shown buffer record present surface member
    exact ⟨below, drawn.setForward id keeps⟩

theorem setForward_advances (scene : Scene) (id : SurfaceId) {change : ForwardSurface → ForwardSurface}
    (keeps : KeepsDrawn change) (view : ∀ record, Steady ForwardSurface.roleView record (change record))
    (kept : ∀ record, scene.forwardSurfaces.cell id = some record → record.Guarded → (change record).Guarded) :
    Advances meets hidden scene (scene.setForward id change) :=
  Frame.advances (.setForward scene id view) fun guard => guard.setForward id keeps kept

theorem nestedSurfaceAttach_advances (scene : Scene) (id : SurfaceId) (buffer : Option BufferId) :
    Ensures (nestedSurfaceAttach scene id buffer) (Advances meets hidden scene) := by
  refine .read fun surface _ => ?_
  cases buffer with
  | none =>
      dsimp only
      split
      · exact .pure (.refl scene)
      · exact .throw
  | some buffer =>
      dsimp only
      split
      · exact .pure (.refl scene)
      · refine (releasePendingBuffer_quiet scene id surface.pending.attachment).bind fun released quiet => ?_
        refine (changeBuffer_quiet released buffer fun record => .ofPending record _).bind fun joined changed => ?_
        refine .pure (Advances.trans (Quiet.advances (quiet.trans changed)) ?_)
        apply setForward_advances joined id
        · exact fun record size => size
        · exact fun record => ⟨rfl, fun sound => sound⟩
        · intro record _ guarded
          exact ⟨guarded.untouched, ⟨nofun, guarded.attached.drawn⟩, guarded.sound⟩

theorem markUnreachable_advances (scene : Scene) (buffer : BufferId) (id : SurfaceId) (drawn : scene.Drawn id) :
    Ensures (markUnreachable scene buffer id) fun next => Advances meets hidden scene next ∧
      ∀ surface, scene.Drawn surface → next.Drawn surface := by
  have marked (scene : Scene) (drawn : scene.Drawn id) (change : SurfaceState → SurfaceState)
      (view : ∀ pending, pending.Sound → (change pending).Sound) :
      Advances meets hidden scene (scene.setForward id fun surface => { surface with
        pending := change surface.pending
        committed := { surface.committed with attachment := .unreachable } }) := by
    apply setForward_advances scene id
    · exact fun record size => size
    · exact fun record => ⟨rfl, fun sound => ⟨view _ sound.1, sound.2⟩⟩
    · intro record present guarded
      exact ⟨guarded.untouched, ⟨nofun, fun _ => drawn record present⟩,
        view _ guarded.sound.1, guarded.sound.2⟩
  refine .read fun surface _ => ?_
  dsimp only
  split
  · refine .pure ⟨?_, ?_⟩
    · have both : ((((scene.setPending id fun pending => { pending with attachment := .committed }).setBuffer buffer
          fun record => { record with pendingSurfaces := record.pendingSurfaces.erase id }).setCommitted id
          fun committed => { committed with attachment := .unreachable })) =
          (scene.setForward id fun surface => { surface with
            pending := { surface.pending with attachment := .committed }
            committed := { surface.committed with attachment := .unreachable } }).setBuffer buffer
          fun record => { record with pendingSurfaces := record.pendingSurfaces.erase id } := by
        simp only [Scene.setPending, Scene.setCommitted, Scene.setForward, Scene.setBuffer, Heap.modify_modify]
        rfl
      rw [both]
      apply Advances.trans
        (marked scene drawn (fun pending => { pending with attachment := .committed }) fun _ sound => sound)
      apply Quiet.advances
      exact Frame.trans (.setBuffer _ buffer fun record => .ofPending record _)
        (.setBuffer _ buffer fun record => .ofCommitted record id)
    · intro other before
      exact (((before.setPending id _).setBuffer buffer _).setCommitted id _).setBuffer buffer _
  · refine .pure ⟨?_, ?_⟩
    · apply Advances.trans (marked scene drawn (fun pending => pending) fun _ sound => sound)
      exact Quiet.advances (.setBuffer _ buffer fun record => .ofCommitted record id)
    · intro other before
      exact (before.setCommitted id _).setBuffer buffer _

theorem bufferHandleResourceDestroy_advances (scene : Scene) (buffer : BufferId) :
    Ensures (bufferHandleResourceDestroy scene buffer) (Advances meets hidden scene) := by
  apply Advances.under
  intro guard
  refine .read fun record present => ?_
  have drawn : ∀ surface ∈ record.committedSurfaces, scene.Drawn surface := by
    intro surface member
    exact (guard.surfaces.shown buffer record present surface member).2
  have marked (surfaces : List SurfaceId) (scene : Scene) (drawn : ∀ surface ∈ surfaces, scene.Drawn surface) :
      Ensures (surfaces.foldlM (fun scene id => markUnreachable scene buffer id) scene)
        (Advances meets hidden scene) := by
    induction surfaces generalizing scene with
    | nil => exact .pure (.refl scene)
    | cons surface surfaces ih =>
        rw [List.foldlM_cons]
        refine .via (fun next => Advances meets hidden scene next ∧ ∀ other, scene.Drawn other → next.Drawn other)
          (markUnreachable_advances scene buffer surface (drawn surface List.mem_cons_self)) fun next marked => ?_
        have still : ∀ other ∈ surfaces, next.Drawn other := by
          intro other member
          exact marked.2 other (drawn other (List.mem_cons_of_mem surface member))
        exact (ih next still).weaken fun final rest => marked.1.trans rest
  refine (marked record.committedSurfaces scene drawn).bind fun next advanced => .read fun last _ => ?_
  split
  · exact .pure (advanced.trans (Quiet.advances (.freeBuffer next buffer)))
  · exact .pure (advanced.trans (Quiet.advances (.setBuffer next buffer fun record => ⟨rfl, rfl, fun _ => id⟩)))

theorem createForwardBuffer_advances (scene : Scene) (client : WlClientId) {width height : Int32}
    (positive : 0 < width.toUInt32 ∧ 0 < height.toUInt32) :
    Advances meets hidden scene (createForwardBuffer scene client width height) := by
  intro guard
  refine ⟨rfl, id, ⟨⟨guard.links.nodup, guard.links.listed, guard.links.linked, guard.links.served,
    guard.links.unnamed⟩, guard.surfaces.records, ?_, ?_⟩, fun id _ => ⟨[], .rest _⟩, fun _ _ => ⟨rfl, rfl⟩⟩
  · intro id buffer present
    change (scene.forwardBuffers.alloc _).cell id = some buffer at present
    rw [Heap.cell_alloc] at present
    split at present
    · cases present
      exact positive
    · exact guard.surfaces.sized id buffer present
  · intro id buffer present surface member
    change (scene.forwardBuffers.alloc _).cell id = some buffer at present
    rw [Heap.cell_alloc] at present
    split at present
    · cases present
      cases member
    · exact guard.surfaces.shown id buffer present surface member

theorem ForwardSurface.allocated_guarded (client : WlClientId) (version : Nat) :
    (ForwardSurface.allocated client version).Guarded where
  untouched _ := ⟨rfl, rfl, rfl⟩
  attached := ⟨nofun, fun present => absurd rfl present⟩
  sound := ⟨⟨.inl rfl, .inl rfl⟩, ⟨.inl rfl, .inl rfl⟩⟩

theorem compositorCreateSurface_advances (scene : Scene) (client : WlClientId) (version : Nat) :
    Advances meets none scene (compositorCreateSurface scene client version) := by
  intro guard
  have cell (id : SurfaceId) : (compositorCreateSurface scene client version).forwardSurfaces.cell id =
      if id = scene.forwardSurfaces.next then some (.allocated client version)
      else scene.forwardSurfaces.cell id := rfl
  have old {id : SurfaceId} {record : ForwardSurface} (present : scene.forwardSurfaces.cell id = some record) :
      (compositorCreateSurface scene client version).forwardSurfaces.cell id = some record :=
    scene.forwardSurfaces.cell_alloc_of_live _ present
  have links : LinkGuard none (compositorCreateSurface scene client version) := by
    refine ⟨guard.links.nodup, guard.links.listed, ?_, ?_, guard.links.unnamed⟩
    · intro id core surface present shown link
      obtain ⟨record, found, role⟩ := guard.links.linked id core surface present shown link
      exact ⟨record, old found, role⟩
    · intro id surface record present role
      rw [cell] at present
      split at present
      · cases present
        cases role
      · exact guard.links.served id surface record present role
  have surfaces : SurfaceGuard (compositorCreateSurface scene client version) := by
    refine ⟨?_, guard.surfaces.sized, ?_⟩
    · intro id record present
      rw [cell] at present
      split at present
      · cases present
        exact ForwardSurface.allocated_guarded client version
      · exact guard.surfaces.records id record present
    · intro id buffer present surface member
      obtain ⟨below, drawn⟩ := guard.surfaces.shown id buffer present surface member
      refine ⟨Nat.lt_succ_of_lt below, ?_⟩
      intro record found
      rw [cell, if_neg (Nat.ne_of_lt below)] at found
      exact drawn record found
  refine ⟨rfl, id, ⟨links, surfaces⟩, fun id _ => ⟨[], ?_⟩, fun id same => (nomatch same)⟩
  have same : (compositorCreateSurface scene client version).cycleView id = scene.cycleView id := by
    refine @Scene.cycleView_congr scene _ id rfl rfl ?_ rfl
    · intro surface link
      obtain ⟨core, present, linked⟩ := Option.bind_eq_some_iff.mp link
      obtain ⟨record, found, _⟩ := guard.links.linked id core surface present nofun linked
      unfold Scene.pluginView
      rw [found, old found]
  rw [same]
  exact .rest _

end SwaylockPlugin
