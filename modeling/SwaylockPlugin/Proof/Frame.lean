import SwaylockPlugin.Abstract.Core
import SwaylockPlugin.Construction.Dispatch

namespace SwaylockPlugin

open Library

/-- A viewport is sound when each of its two sizes is unset or positive, as its setters demand. -/
def SurfaceState.Sound (state : SurfaceState) : Prop :=
  (state.viewportDestWidth = -1 ∨ 0 < state.viewportDestWidth ∧ 0 < state.viewportDestHeight) ∧
    (state.viewportSourceW = wlFixedFromInt (-1) ∨ 0 < state.viewportSourceW ∧ 0 < state.viewportSourceH)

/-- A plugin surface is sound when both of its states are. -/
def ForwardSurface.Sound (surface : ForwardSurface) : Prop :=
  surface.pending.Sound ∧ surface.committed.Sound

/-- A change steadies a view when it keeps the view and the soundness of a plugin surface. -/
def Steady {View : Type} (view : ForwardSurface → View) (surface changed : ForwardSurface) : Prop :=
  view changed = view surface ∧ (surface.Sound → changed.Sound)

/-- A buffer that shrinks keeps its size and joins the list of no further committed surface. -/
structure ForwardBuffer.Shrinks (old buffer : ForwardBuffer) : Prop where
  width : buffer.width = old.width
  height : buffer.height = old.height
  committed : buffer.committedSurfaces ⊆ old.committedSurfaces

theorem ForwardBuffer.Shrinks.refl (buffer : ForwardBuffer) : buffer.Shrinks buffer :=
  ⟨rfl, rfl, List.Subset.refl _⟩

theorem ForwardBuffer.Shrinks.trans {one two three : ForwardBuffer} (first : one.Shrinks two)
    (second : two.Shrinks three) : one.Shrinks three :=
  ⟨second.width.trans first.width, second.height.trans first.height,
    List.Subset.trans second.committed first.committed⟩

theorem ForwardBuffer.Shrinks.ofPending (buffer : ForwardBuffer) (surfaces : List SurfaceId) :
    buffer.Shrinks { buffer with pendingSurfaces := surfaces } :=
  ⟨rfl, rfl, List.Subset.refl _⟩

theorem ForwardBuffer.Shrinks.ofCommitted (buffer : ForwardBuffer) (surface : SurfaceId) :
    buffer.Shrinks { buffer with committedSurfaces := buffer.committedSurfaces.erase surface } :=
  ⟨rfl, rfl, List.erase_subset⟩

/-- A frame keeps the cores of the outputs and a view of the plugin surfaces, and it says only some messages. -/
structure Frame {View : Type} (speaks : Message → Bool) (view : ForwardSurface → View) (first second : Scene) :
    Prop where
  args : second.args = first.args
  display : second.display = first.display
  surfaces : second.surfaces = first.surfaces
  nextOutput : second.outputs.next = first.outputs.next
  nextSurface : second.forwardSurfaces.next = first.forwardSurfaces.next
  outputs : ∀ id, (second.outputs.cell id).map SwaylockSurface.core =
    (first.outputs.cell id).map SwaylockSurface.core
  forward : ∀ id, (second.forwardSurfaces.cell id).map view = (first.forwardSurfaces.cell id).map view
  sound : ∀ id surface, second.forwardSurfaces.cell id = some surface →
    (∀ old, first.forwardSurfaces.cell id = some old → old.Sound) → surface.Sound
  buffers : ∀ id buffer, second.forwardBuffers.cell id = some buffer →
    ∃ old, first.forwardBuffers.cell id = some old ∧ old.Shrinks buffer
  wire : ∃ messages, second.wire = first.wire ++ messages ∧ ∀ message ∈ messages, speaks message = true

/-- The fields that a frame looks at stand in one tuple. -/
def Scene.framed (scene : Scene) :=
  (scene.args, scene.display, scene.surfaces, scene.outputs, scene.forwardSurfaces, scene.forwardBuffers, scene.wire)

namespace Frame

variable {View : Type} {speaks : Message → Bool} {view : ForwardSurface → View} {first second third : Scene}

theorem refl (scene : Scene) : Frame speaks view scene scene where
  args := rfl
  display := rfl
  surfaces := rfl
  nextOutput := rfl
  nextSurface := rfl
  outputs _ := rfl
  forward _ := rfl
  sound _ surface present holds := holds surface present
  buffers _ buffer present := ⟨buffer, present, .refl buffer⟩
  wire := ⟨[], by simp, by simp⟩

theorem trans (one : Frame speaks view first second) (two : Frame speaks view second third) : Frame speaks view first third where
  args := two.args.trans one.args
  display := two.display.trans one.display
  surfaces := two.surfaces.trans one.surfaces
  nextOutput := two.nextOutput.trans one.nextOutput
  nextSurface := two.nextSurface.trans one.nextSurface
  outputs id := (two.outputs id).trans (one.outputs id)
  forward id := (two.forward id).trans (one.forward id)
  sound id surface present holds :=
    two.sound id surface present fun middle found => one.sound id middle found holds
  buffers id buffer present := by
    obtain ⟨middle, found, late⟩ := two.buffers id buffer present
    obtain ⟨old, start, early⟩ := one.buffers id middle found
    exact ⟨old, start, early.trans late⟩
  wire := by
    obtain ⟨early, grown, earlyAside⟩ := one.wire
    obtain ⟨late, grownAgain, lateAside⟩ := two.wire
    refine ⟨early ++ late, by rw [grownAgain, grown, List.append_assoc], ?_⟩
    intro message member
    rcases List.mem_append.mp member with before | after
    · exact earlyAside message before
    · exact lateAside message after

theorem coarsen {Coarse : Type} (forget : View → Coarse) (frame : Frame speaks view first second) :
    Frame speaks (fun surface => forget (view surface)) first second where
  args := frame.args
  display := frame.display
  surfaces := frame.surfaces
  nextOutput := frame.nextOutput
  nextSurface := frame.nextSurface
  outputs := frame.outputs
  forward id := by
    have same := congrArg (Option.map forget) (frame.forward id)
    simpa only [Option.map_map, Function.comp_def] using same
  sound := frame.sound
  buffers := frame.buffers
  wire := frame.wire

theorem unrelated (same : second.framed = first.framed) : Frame speaks view first second := by
  simp only [Scene.framed, Prod.mk.injEq] at same
  obtain ⟨args, display, surfaces, outputs, forward, buffers, wire⟩ := same
  refine ⟨args, display, surfaces, by rw [outputs], by rw [forward], fun id => by rw [outputs],
    fun id => by rw [forward], fun id surface present holds => holds surface (forward ▸ present), ?_, [], ?_, by simp⟩
  · intro id buffer present
    rw [buffers] at present
    exact ⟨buffer, present, .refl buffer⟩
  · rw [wire, List.append_nil]

theorem setOutput (scene : Scene) (id : OutputId) {change : SwaylockSurface → SwaylockSurface}
    (kept : ∀ output, (change output).core = output.core) : Frame speaks view scene (scene.setOutput id change) where
  args := rfl
  display := rfl
  surfaces := rfl
  nextOutput := rfl
  nextSurface := rfl
  outputs := scene.outputs.view_modify id change _ fun output _ => kept output
  forward _ := rfl
  sound _ surface present holds := holds surface present
  buffers _ buffer present := ⟨buffer, present, .refl buffer⟩
  wire := ⟨[], (List.append_nil _).symm, by simp⟩

theorem setForward (scene : Scene) (id : SurfaceId) {change : ForwardSurface → ForwardSurface}
    (kept : ∀ surface, Steady view surface (change surface)) :
    Frame speaks view scene (scene.setForward id change) where
  args := rfl
  display := rfl
  surfaces := rfl
  nextOutput := rfl
  nextSurface := rfl
  outputs _ := rfl
  forward := scene.forwardSurfaces.view_modify id change _ fun surface _ => (kept surface).1
  sound other surface present holds := by
    obtain ⟨old, found, ⟨_, rfl⟩ | ⟨_, rfl⟩⟩ := scene.forwardSurfaces.old_of_modify present
    · exact (kept old).2 (holds old found)
    · exact holds surface found
  buffers _ buffer present := ⟨buffer, present, .refl buffer⟩
  wire := ⟨[], (List.append_nil _).symm, by simp⟩

theorem freeForward (frame : Frame speaks view first second) (id : SurfaceId) :
    Frame speaks view { first with forwardSurfaces := first.forwardSurfaces.free id }
      { second with forwardSurfaces := second.forwardSurfaces.free id } where
  args := frame.args
  display := frame.display
  surfaces := frame.surfaces
  nextOutput := frame.nextOutput
  nextSurface := frame.nextSurface
  outputs := frame.outputs
  forward other := by
    change ((second.forwardSurfaces.free id).cell other).map view = ((first.forwardSurfaces.free id).cell other).map view
    rw [Heap.cell_free, Heap.cell_free]
    split
    · rfl
    · exact frame.forward other
  sound other surface present holds := by
    change (second.forwardSurfaces.free id).cell other = some surface at present
    change ∀ old, (first.forwardSurfaces.free id).cell other = some old → old.Sound at holds
    rw [Heap.cell_free] at present holds
    split at present
    · cases present
    · rename_i other_
      rw [if_neg other_] at holds
      exact frame.sound other surface present holds
  buffers := frame.buffers
  wire := frame.wire

theorem setForwardBoth (frame : Frame speaks view first second) (id : SurfaceId) {change : ForwardSurface → ForwardSurface}
    (congruent : ∀ one two, view one = view two → view (change one) = view (change two))
    (steady : ∀ surface, (change surface).Sound ↔ surface.Sound) :
    Frame speaks view (first.setForward id change) (second.setForward id change) where
  args := frame.args
  display := frame.display
  surfaces := frame.surfaces
  nextOutput := frame.nextOutput
  nextSurface := frame.nextSurface
  outputs := frame.outputs
  forward other := by
    have same := frame.forward other
    change ((second.forwardSurfaces.modify id change).cell other).map view =
      ((first.forwardSurfaces.modify id change).cell other).map view
    rw [Heap.cell_modify, Heap.cell_modify]
    split
    · cases one : first.forwardSurfaces.cell other with
      | none =>
          rw [one, Option.map_none, Option.map_eq_none_iff] at same
          rw [same]
      | some old =>
          rw [one, Option.map_some, Option.map_eq_some_iff] at same
          obtain ⟨new, two, kept⟩ := same
          rw [two]
          exact congrArg some (congruent _ _ kept)
    · exact same
  sound other surface present holds := by
    obtain ⟨old, found, changed⟩ := second.forwardSurfaces.old_of_modify present
    have sound : old.Sound := by
      apply frame.sound other old found
      intro before there
      have after := holds (if other = id then change before else before) (by
        change (first.forwardSurfaces.modify id change).cell other = _
        rw [Heap.cell_modify, there]
        split <;> rfl)
      split at after
      · exact (steady before).mp after
      · exact after
    rcases changed with ⟨_, rfl⟩ | ⟨_, rfl⟩
    · exact (steady old).mpr sound
    · exact sound
  buffers := frame.buffers
  wire := frame.wire

theorem sweepForward (scene : Scene) {change : Nat → ForwardSurface → ForwardSurface}
    (kept : ∀ id surface, Steady view surface (change id surface)) :
    Frame speaks view scene { scene with forwardSurfaces := scene.forwardSurfaces.mapAll change } where
  args := rfl
  display := rfl
  surfaces := rfl
  nextOutput := rfl
  nextSurface := rfl
  outputs _ := rfl
  forward := scene.forwardSurfaces.view_mapAll change _ fun id surface => (kept id surface).1
  sound id surface present holds := by
    change (scene.forwardSurfaces.mapAll change).cell id = some surface at present
    rw [Heap.cell_mapAll, Option.map_eq_some_iff] at present
    obtain ⟨old, found, rfl⟩ := present
    exact (kept id old).2 (holds old found)
  buffers _ buffer present := ⟨buffer, present, .refl buffer⟩
  wire := ⟨[], (List.append_nil _).symm, by simp⟩

theorem setBuffer (scene : Scene) (id : BufferId) {change : ForwardBuffer → ForwardBuffer}
    (shrinks : ∀ buffer : ForwardBuffer, buffer.Shrinks (change buffer)) :
    Frame speaks view scene (scene.setBuffer id change) where
  args := rfl
  display := rfl
  surfaces := rfl
  nextOutput := rfl
  nextSurface := rfl
  outputs _ := rfl
  forward _ := rfl
  sound _ surface present holds := holds surface present
  buffers other buffer present := by
    obtain ⟨old, found, ⟨_, rfl⟩ | ⟨_, rfl⟩⟩ := scene.forwardBuffers.old_of_modify present
    · exact ⟨old, found, shrinks old⟩
    · exact ⟨buffer, found, .refl buffer⟩
  wire := ⟨[], (List.append_nil _).symm, by simp⟩

theorem freeBuffer (scene : Scene) (id : BufferId) :
    Frame speaks view scene { scene with forwardBuffers := scene.forwardBuffers.free id } where
  args := rfl
  display := rfl
  surfaces := rfl
  nextOutput := rfl
  nextSurface := rfl
  outputs _ := rfl
  forward _ := rfl
  sound _ surface present holds := holds surface present
  buffers other buffer present := by
    change (scene.forwardBuffers.free id).cell other = some buffer at present
    by_cases same : other = id
    · rw [same, Heap.cell_free_self] at present
      cases present
    · rw [Heap.cell_free_other _ same] at present
      exact ⟨buffer, present, .refl buffer⟩
  wire := ⟨[], (List.append_nil _).symm, by simp⟩

theorem tell (scene : Scene) {message : Message} (spoken : speaks message = true) :
    Frame speaks view scene (scene.tell message) where
  args := rfl
  display := rfl
  surfaces := rfl
  nextOutput := rfl
  nextSurface := rfl
  outputs _ := rfl
  forward _ := rfl
  sound _ surface present holds := holds surface present
  buffers _ buffer present := ⟨buffer, present, .refl buffer⟩
  wire := ⟨[message], rfl, by simpa using spoken⟩

theorem postError (scene : Scene) (client : WlClientId) (error : PluginError) :
    Frame Message.aside view scene (scene.postError client error) where
  args := rfl
  display := rfl
  surfaces := rfl
  nextOutput := rfl
  nextSurface := rfl
  outputs _ := rfl
  forward _ := rfl
  sound _ surface present holds := holds surface present
  buffers _ buffer present := ⟨buffer, present, .refl buffer⟩
  wire := ⟨[.plugin (.error client error)], rfl, by simp [Message.aside]⟩

theorem removeTimer? (scene : Scene) (timer : Option TimerId) : Frame speaks view scene (scene.removeTimer? timer) := by
  cases timer with
  | none => exact refl scene
  | some timer => exact unrelated rfl

end Frame

/-- A quiet change keeps the whole core of every plugin surface. -/
abbrev Quiet : Scene → Scene → Prop := Frame Message.aside ForwardSurface.core

end SwaylockPlugin
