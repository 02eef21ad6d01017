import SwaylockPlugin.Proof.Roles

namespace SwaylockPlugin

open Library

variable {meets : CycleView → CycleEvent → Prop} {scene : Scene} {id : OutputId} {output : SwaylockSurface}

theorem frameCommit_advances (lenient : Lenient meets) (present : scene.outputs.cell id = some output)
    (buffer : output.hasBuffer = true) :
    Advances meets none scene (scene.requestAll (.lock id) [.frame, .commit]) := by
  apply (Own.requestAll scene id [.frame, .commit]).advances (Scene.outputCore_isSome present)
  · exact fun guard => ⟨guard.records, guard.sized, guard.shown⟩
  · intro _
    rw [Scene.cycleView_requestAll]
    have core := Scene.outputCore_of_present present
    exact ⟨[.render], .single ⟨.render core buffer, lenient.minor _ _ rfl⟩⟩

theorem render_advances (lenient : Lenient meets) (scene : Scene) (id : OutputId) :
    Advances meets none scene (render scene id) := by
  unfold render
  split
  · exact .refl scene
  · rename_i output present
    split
    · exact .refl scene
    · rename_i drawn
      simp only [Bool.or_eq_true, not_or, Bool.not_eq_true', Bool.not_eq_false] at drawn
      have buffer : output.hasBuffer = true := drawn.1.1.2
      have marked : Quiet scene (scene.setOutput id fun output => { output with dirty := false, frame := true }) :=
        .setOutput scene id fun _ => rfl
      have stays : (scene.setOutput id fun output => { output with dirty := false, frame := true }).outputs.cell id =
          some { output with dirty := false, frame := true } := by
        change (scene.outputs.modify id _).cell id = _
        rw [Heap.cell_modify_self, present]
        rfl
      exact (Quiet.advances marked).trans (frameCommit_advances lenient stays buffer)

theorem renderDirty_advances (lenient : Lenient meets) (scene : Scene) (id : OutputId) :
    Advances meets none scene (renderDirty scene id) := by
  have marked : Quiet scene (scene.setOutput id fun output => { output with dirty := true }) :=
    .setOutput scene id fun _ => rfl
  exact (Quiet.advances marked).trans (render_advances lenient _ id)

theorem damageState_advances (lenient : Lenient meets) (scene : Scene) :
    Advances meets none scene (damageState scene) :=
  foldl_keeps Advances.refl Advances.trans (renderDirty_advances lenient) scene.surfaces scene

theorem ackNewest_advances (lenient : Lenient meets) (down : scene.display = false) (id : OutputId) :
    Advances meets none scene (ackNewest scene id) := by
  unfold ackNewest
  split
  · exact .refl scene
  · rename_i output present
    split
    · rename_i newer
      have told : Own id scene (scene.tell (.ackConfigure id output.newestSerial)) :=
        .tell scene id fun other apart => if_neg (Ne.symm apart)
      refine Own.advances (?_ : Own id scene _) (Scene.outputCore_isSome present) ?_ ?_
      · exact told.trans (.setOutput _ id fun _ => rfl)
      · exact fun guard => ⟨guard.records, guard.sized, guard.shown⟩
      · intro _
        have stays : (scene.tell (.ackConfigure id output.newestSerial)).outputs.cell id = some output := present
        rw [Scene.cycleView_setOutput _ stays rfl, Scene.cycleView_tell]
        have core := Scene.outputCore_of_present present
        have step := @CycleStep.ackNewest (scene.cycleView id) output.core down core newer
        have entry : (Message.ackConfigure id output.newestSerial).entry id =
            some (.acknowledged output.newestSerial) := if_pos rfl
        rw [entry]
        exact ⟨[.ackNewest], .single ⟨step, lenient.minor _ _ rfl⟩⟩
    · exact .refl scene

theorem renderFallbackSurface_advances (lenient : Lenient meets) (down : scene.display = false) (env : Environment)
    (id : OutputId)
    (ready : ∀ output, scene.outputs.cell id = some output → output.hasNewerSerial = false ∧
      (sized output.width output.height = true ∨ issuedIn (entriesOf id scene.wire) ≠ [])) :
    Advances meets none scene (renderFallbackSurface scene env id) := by
  unfold renderFallbackSurface
  split
  · exact .refl scene
  · rename_i output present
    split
    · obtain ⟨idle, configured⟩ := ready output present
      refine Own.advances (?_ : Own id scene _) (Scene.outputCore_isSome present) ?_ ?_
      · exact (Own.requestAll scene id _).trans (.setOutput _ id fun _ => rfl)
      · exact fun guard => ⟨guard.records, guard.sized, guard.shown⟩
      · intro _
        have core := Scene.outputCore_of_present present
        have step := @CycleStep.fallback (scene.cycleView id) output.core down core idle configured
        refine ⟨[.fallback], .single ⟨?_, lenient.minor _ _ rfl⟩⟩
        rw [@Scene.cycleView_setOutput (scene.requestAll (.lock id) _) id output present _ rfl,
          Scene.cycleView_requestAll]
        exact step
    · exact .refl scene

/-- A scene without a display advances and stays without one. -/
def DownAdvances (meets : CycleView → CycleEvent → Prop) (first second : Scene) : Prop :=
  first.display = false → Advances meets none first second ∧ second.display = false

theorem DownAdvances.refl (scene : Scene) : DownAdvances meets scene scene :=
  fun down => ⟨.refl scene, down⟩

theorem DownAdvances.trans {first second third : Scene} (one : DownAdvances meets first second)
    (two : DownAdvances meets second third) : DownAdvances meets first third := by
  intro down
  obtain ⟨early, still⟩ := one down
  obtain ⟨late, stays⟩ := two still
  exact ⟨early.trans late, stays⟩

theorem render_display (scene : Scene) (id : OutputId) : (render scene id).display = scene.display := by
  unfold render
  split
  · rfl
  · split <;> rfl

theorem renderFallbackSurface_display (scene : Scene) (env : Environment) (id : OutputId) :
    (renderFallbackSurface scene env id).display = scene.display := by
  unfold renderFallbackSurface
  split
  · rfl
  · split <;> rfl

theorem ackNewest_display (scene : Scene) (id : OutputId) : (ackNewest scene id).display = scene.display := by
  unfold ackNewest
  split
  · rfl
  · split <;> rfl

theorem ackNewest_current (present : scene.outputs.cell id = some output) :
    (ackNewest scene id).outputs.cell id = some { output with hasNewerSerial := false } := by
  unfold ackNewest
  rw [present]
  dsimp only
  cases newer : output.hasNewerSerial with
  | true =>
      rw [if_pos rfl]
      change (scene.outputs.modify id _).cell id = _
      rw [Heap.cell_modify_self, present]
      rfl
  | false =>
      rw [if_neg Bool.false_ne_true, present, ← newer]

theorem fallBackSurface_advances (lenient : Lenient meets) (env : Environment) (scene : Scene) (id : OutputId) :
    DownAdvances meets scene (fallBackSurface scene env id) := by
  intro down
  have drawn (scene : Scene) (down : scene.display = false) :
      Advances meets none scene (renderDirty scene id) ∧ (renderDirty scene id).display = false :=
    ⟨renderDirty_advances lenient scene id, (render_display _ id).trans down⟩
  unfold fallBackSurface
  split
  · exact ⟨.refl scene, down⟩
  · rename_i output present
    split
    · exact ⟨.refl scene, down⟩
    · rename_i positive
      split
      · exact drawn scene down
      · have size : sized output.width output.height = true := by
          simp only [Bool.or_eq_true, beq_iff_eq, not_or] at positive
          simp only [sized, Bool.and_eq_true, decide_eq_true_eq]
          exact ⟨UInt32.pos_iff_ne_zero.mpr positive.1, UInt32.pos_iff_ne_zero.mpr positive.2⟩
        have acked := ackNewest_advances lenient down id
        have still : (ackNewest scene id).display = false := (ackNewest_display scene id).trans down
        have filled : Advances meets none (ackNewest scene id) (renderFallbackSurface (ackNewest scene id) env id) := by
          apply renderFallbackSurface_advances lenient still env id
          intro current found
          rw [ackNewest_current present] at found
          cases found
          exact ⟨rfl, .inl size⟩
        have last := drawn (renderFallbackSurface (ackNewest scene id) env id)
          ((renderFallbackSurface_display _ env id).trans still)
        exact ⟨(acked.trans filled).trans last.1, last.2⟩

theorem cancelSubmissionTimer_quiet (scene : Scene) (id : OutputId) : Quiet scene (cancelSubmissionTimer scene id) := by
  unfold cancelSubmissionTimer
  split
  · exact .refl scene
  · exact (Frame.removeTimer? scene _).trans (.setOutput _ id fun _ => rfl)

theorem destroyDisplay_advances (lenient : Lenient meets) (scene : Scene) :
    Advances meets none scene (destroyDisplay scene) := by
  intro guard
  refine ⟨rfl, fun _ => rfl, ⟨⟨guard.links.nodup, guard.links.listed, guard.links.linked, guard.links.served,
    guard.links.unnamed⟩, guard.surfaces.records, guard.surfaces.sized, guard.surfaces.shown⟩, ?_,
    fun _ same => (nomatch same)⟩
  intro id _
  exact ⟨[.teardown], .single ⟨.teardown, lenient.minor _ _ rfl⟩⟩

theorem setupClientlessMode_advances (lenient : Lenient meets) (scene : Scene) (env : Environment) :
    Advances meets none scene (setupClientlessMode scene env) := by
  unfold setupClientlessMode
  split
  · dsimp only
    have resumed : Quiet scene (resumeAllClients scene env) := resumeAllClients_quiet scene env
    have cancelled : Quiet (resumeAllClients scene env)
        ((resumeAllClients scene env).surfaces.foldl cancelSubmissionTimer (resumeAllClients scene env)) :=
      foldl_keeps Frame.refl Frame.trans cancelSubmissionTimer_quiet _ _
    have ended := (Quiet.advances (resumed.trans cancelled)).trans
      (destroyDisplay_advances lenient _)
    have fallen (surfaces : List OutputId) (scene : Scene) :
        DownAdvances meets scene (surfaces.foldl (fun scene id => fallBackSurface scene env id) scene) :=
      foldl_keeps DownAdvances.refl DownAdvances.trans (fallBackSurface_advances lenient env) surfaces scene
    exact ended.trans (fallen _ _ rfl).1
  · exact .refl scene

end SwaylockPlugin
