import SwaylockPlugin.Proof.Configures
import SwaylockPlugin.Proof.OutputFootprints

namespace SwaylockPlugin

open Library

/-- An output has a plugin surface that was sent its initial configure. -/
def ConfiguredPlugin (scene : Scene) (output : OutputId) (id : SurfaceId) : Prop :=
  ∃ record surface, scene.outputs.cell output = some record ∧ record.pluginSurface = some id ∧
    scene.forwardSurfaces.cell id = some surface ∧ surface.hasBeenConfigured = true

/-- A plugin surface is sent a size under a serial that its table relates to the upstream configure. -/
def Relayed (id : SurfaceId) (serial width height : UInt32) (scene next : Scene) : Prop :=
  ∃ pluginSerial told surface, next.wire = scene.wire ++ told ∧
    .plugin (.configure id pluginSerial width height) ∈ told ∧ next.forwardSurfaces.cell id = some surface ∧
    ⟨pluginSerial, serial, width, height, false⟩ ∈ surface.serialTable

/-- A configure event has these effects beside those on the plugin surface. -/
abbrev settleEffects : List Effect := renderEffects ++ [.arm, .output .timer]

section Settle

variable {first second : Scene}

theorem Changes.settled_surfaces (changes : Changes settleEffects first second) (surface : SurfaceId) :
    second.forwardSurfaces.cell surface = first.forwardSurfaces.cell surface := by
  have same := (changes.surfaces id (by simp) (by simp) (by simp)).1 surface
  rwa [Option.map_id] at same

theorem Changes.settled_outputs (changes : Changes settleEffects first second) (id : OutputId) :
    (second.outputs.cell id).map SwaylockSurface.pluginSurface =
      (first.outputs.cell id).map SwaylockSurface.pluginSurface := by
  refine changes.outputs SwaylockSurface.pluginSurface (fun group listed output => ?_) (by simp) (by simp) id
  cases group with
  | client => simp at listed
  | plugin => simp at listed
  | presented => simp at listed
  | timer => rfl
  | screen => rfl

theorem configuredPlugin_iff {scene : Scene} {output : OutputId} {id : SurfaceId} : ConfiguredPlugin scene output id ↔
    (scene.outputs.cell output).map SwaylockSurface.pluginSurface = some (some id) ∧
      ∃ surface, scene.forwardSurfaces.cell id = some surface ∧ surface.hasBeenConfigured = true := by
  constructor
  · rintro ⟨record, surface, present, linked, found, configured⟩
    exact ⟨by rw [present, Option.map_some, linked], surface, found, configured⟩
  · rintro ⟨linked, surface, found, configured⟩
    obtain ⟨record, present, pointer⟩ := Option.map_eq_some_iff.mp linked
    exact ⟨record, surface, present, pointer, found, configured⟩

theorem Changes.settled_configured (changes : Changes settleEffects first second) {output : OutputId} {id : SurfaceId} :
    ConfiguredPlugin second output id ↔ ConfiguredPlugin first output id := by
  rw [configuredPlugin_iff, configuredPlugin_iff, changes.settled_outputs, changes.settled_surfaces]

theorem Changes.settled_unrelayed (changes : Changes settleEffects first second) (id : SurfaceId)
    (serial width height : UInt32) : ¬ Relayed id serial width height first second := by
  rintro ⟨pluginSerial, told, _, grown, member, _⟩
  obtain ⟨heard, same, listed⟩ := changes.wire
  have equal : heard = told := List.append_cancel_left (same.symm.trans grown)
  have effect := listed _ (equal ▸ member)
  simp [Message.effect] at effect

theorem Relayed.between {before after : Scene} {id : SurfaceId} {serial width height : UInt32}
    (relayed : Relayed id serial width height before after) (early : Changes settleEffects first before)
    (late : Changes settleEffects after second) : Relayed id serial width height first second := by
  obtain ⟨pluginSerial, told, surface, grown, member, found, listed⟩ := relayed
  obtain ⟨earlier, started, _⟩ := early.wire
  obtain ⟨later, ended, _⟩ := late.wire
  refine ⟨pluginSerial, earlier ++ told ++ later, surface, ?_, ?_, ?_, listed⟩
  · rw [ended, grown, started]
    simp only [List.append_assoc]
  · exact List.mem_append_left later (List.mem_append_right earlier member)
  · rw [late.settled_surfaces, found]

end Settle

section Outcome

variable {scene : Scene} {id : OutputId} {output : SwaylockSurface} {serial width height : UInt32}

theorem recordConfigure_settles (scene : Scene) (id : OutputId) (serial width height : UInt32) :
    Changes settleEffects scene (recordConfigure scene id serial width height) := by
  have told : Changes settleEffects scene (scene.tell (.configured id serial width height)) :=
    .tell scene _ (by simp [Message.effect])
  exact told.trans (.setOutput .screen _ id (fun _ => rfl) (by simp))

theorem finishConfigure_settles (scene : Scene) (id : OutputId) (resized : Bool) :
    Ensures (if resized then armRedraw (renderDirty scene id) id else return renderDirty scene id)
      (Changes settleEffects scene) := by
  have drawn : Changes settleEffects scene (renderDirty scene id) := (renderDirty_changes id).widen (by simp)
  split
  · refine .read fun output _ => ?_
    split
    · exact .pure drawn
    · have armed : Changes settleEffects (renderDirty scene id)
          ((renderDirty scene id).addTimer timeoutSurface (.outputRedrawTimeout id)).1 := .addTimer _ _ rfl (by simp)
      exact .pure (drawn.trans (armed.trans (.setOutput .timer _ id (fun _ => rfl) (by simp))))
  · exact .pure drawn

/-- With the nested server up the first configure of a size is kept for the first plugin, and a later one reaches the
plugin surface of the output. -/
theorem answerConfigure_outcome (present : scene.outputs.cell id = some output) (up : scene.display = true)
    (env : Environment) (size : sized output.width output.height = true) (first : Bool) :
    Ensures (answerConfigure scene env id first serial) fun next =>
      if first then Changes settleEffects scene next
      else ∃ after, reconfigurePlugin scene id serial output.pluginSurface = .ok after ∧
        Changes settleEffects after next := by
  have awaits (middle : Scene) : Changes settleEffects middle
      (middle.setOutput id fun output => { output with hasNewerSerial := true }) :=
    .setOutput .screen middle id (fun _ => rfl) (by simp)
  have size : (decide (0 < output.width) && decide (0 < output.height)) = true := size
  unfold answerConfigure
  rw [if_pos up]
  unfold forwardConfigure
  refine .via (fun forwarded => if first then Changes settleEffects scene forwarded
    else reconfigurePlugin scene id serial output.pluginSurface = .ok forwarded) ?_ fun forwarded outcome => ?_
  · refine .read fun target there => ?_
    rw [present] at there
    cases there
    cases first with
    | true =>
        rw [Bool.true_and, if_pos size]
        exact .pure (.setOutput .screen scene id (fun _ => rfl) (by simp))
    | false =>
        rw [Bool.false_and, Bool.false_and, if_neg Bool.false_ne_true, if_pos size]
        exact fun _ relayed => relayed
  · apply Ensures.pure
    cases first with
    | true => exact Changes.trans outcome (awaits forwarded)
    | false => exact ⟨forwarded, outcome, awaits forwarded⟩

/-- A configure event with a size reaches the plugin surface of an output that had a size, and is kept for the first
plugin of another output. -/
theorem handleConfigure_outcome (present : scene.outputs.cell id = some output) (up : scene.display = true)
    (env : Environment) (size : sized width height = true) :
    Ensures (extSessionLockSurfaceV1HandleConfigure scene env id serial width height) fun next =>
      if sized output.width output.height then
        ∃ before after, Changes settleEffects scene before ∧
          before.outputs.cell id = some { output with width := width, height := height, newestSerial := serial } ∧
          reconfigurePlugin before id serial output.pluginSurface = .ok after ∧ Changes settleEffects after next
      else Changes settleEffects scene next := by
  refine .read fun target there => ?_
  rw [present] at there
  cases there
  have recorded := recordConfigure_settles scene id serial width height
  have stays := cell_recordConfigure serial width height present
  refine (answerConfigure_outcome stays up env size _).bind fun answered outcome => ?_
  refine (finishConfigure_settles answered id _).weaken fun next finished => ?_
  rw [not_sized] at outcome
  cases had : sized output.width output.height with
  | true =>
      rw [had] at outcome
      obtain ⟨after, relayed, settled⟩ := outcome
      exact ⟨_, after, recorded, stays, relayed, settled.trans finished⟩
  | false =>
      rw [had] at outcome
      exact (recorded.trans outcome).trans finished

/-- A plugin surface that was sent its initial configure is sent the new size of its output. -/
theorem reconfigurePlugin_relays (present : scene.outputs.cell id = some output) :
    Ensures (reconfigurePlugin scene id serial output.pluginSurface) fun next =>
      ∀ surface, ConfiguredPlugin next id surface → Relayed surface serial output.width output.height scene next := by
  cases linked : output.pluginSurface with
  | none =>
      apply Ensures.pure
      rintro surface ⟨record, _, there, pointer, _⟩
      rw [present] at there
      cases there
      cases linked.symm.trans pointer
  | some plugin =>
      refine .read fun target there => .read fun surface found => ?_
      change scene.outputs.cell id = some target at there
      rw [present] at there
      cases there
      split
      · refine (takeSerial_spec scene _).bind fun result taken => .pure ?_
        obtain ⟨middle, pluginSerial⟩ := result
        obtain ⟨records, rfl⟩ := taken
        rintro name ⟨record, _, there, pointer, _⟩
        cases present.symm.trans there
        cases linked.symm.trans pointer
        refine ⟨pluginSerial, [_], { surface with serialTable := surface.serialTable ++ [_] }, rfl,
          List.mem_singleton_self _, ?_, List.mem_append_right _ (List.mem_singleton_self _)⟩
        change (scene.forwardSurfaces.modify plugin _).cell plugin = _
        rw [Heap.cell_modify_self, found]
        rfl
      · rename_i blank
        apply Ensures.pure
        rintro name ⟨record, other, there, pointer, same, configured⟩
        cases present.symm.trans there
        cases linked.symm.trans pointer
        cases found.symm.trans same
        exact absurd configured blank

end Outcome

/-- With the nested server up, the plugin surface of an output that was sent its initial configure is sent the size of a
configure event exactly when the output had a size before the event or no such plugin surface. -/
theorem configures_relayed_iff {state next : SwaylockState} {output : OutputId} {serial width height : UInt32}
    {env : Environment} (moved : swaylock.machine.step state ⟨.scene (.configure output serial width height), env⟩ next)
    (up : state.scene.display = true) (wide : 0 < width) (high : 0 < height) :
    (∀ id, ConfiguredPlugin next.scene output id → Relayed id serial width height state.scene next.scene) ↔
      state.scene.outputIs output (fun record => decide (0 < record.width) && decide (0 < record.height)) = true ∨
        ∀ id, ¬ ConfiguredPlugin state.scene output id := by
  obtain ⟨scene, handled, same⟩ := bind_ok.mp moved.2
  cases same
  change handleScene state.scene env state.runDisplay (.configure output serial width height) = .ok scene at handled
  obtain ⟨record, read, _⟩ := bind_ok.mp handled
  have present : state.scene.outputs.cell output = some record := by
    unfold Scene.output at read
    cases there : state.scene.outputs.cell output with
    | none =>
        rw [there] at read
        cases read
    | some found =>
        rw [there] at read
        cases read
        rfl
  have had : state.scene.outputIs output (fun record => decide (0 < record.width) && decide (0 < record.height)) =
      sized record.width record.height := by
    unfold Scene.outputIs
    rw [present]
    rfl
  have size : sized width height = true := by simp [sized, wide, high]
  have outcome := handleConfigure_outcome present up env size scene handled
  rw [had]
  change (∀ id, ConfiguredPlugin scene output id → Relayed id serial width height state.scene scene) ↔ _
  cases size : sized record.width record.height with
  | true =>
      refine iff_of_true (fun id configured => ?_) (.inl rfl)
      rw [size] at outcome
      obtain ⟨before, after, early, stays, relays, late⟩ := outcome
      have relayed := reconfigurePlugin_relays stays after relays id (late.settled_configured.mp configured)
      exact relayed.between early late
  | false =>
      rw [size] at outcome
      have settled : Changes settleEffects state.scene scene := outcome
      simp only [settled.settled_configured, Bool.false_eq_true, false_or]
      exact forall_congr' fun id => imp_congr_right fun _ =>
        iff_of_false (settled.settled_unrelayed id serial width height) not_false

/-- A plugin of its own output commits its layer surface before the first upstream configure. -/
def earlyCommitEvents : List Event :=
  [.scene (.outputAdded 1), .scene (.outputDone 0), .scene (.outputDescReady 0), .start, .check true,
    .scene (.request 0 .getRegistry), .scene (.request 0 (.createSurface 4)),
    .scene (.request 0 (.surface 0 (.getLayerSurface none))), .scene (.request 0 (.surface 0 .commit))]

/-- A program with a plugin for each output starts in this state. -/
def perOutputState : SwaylockState := startState { SwaylockArgs.default with pluginPerOutput := true } .complete .opened

/-- A message configures a plugin surface with a width. -/
def Message.configures (id : SurfaceId) (width : UInt32) : Message → Bool
  | .plugin (.configure target _ wide _) => target == id && wide == width
  | _ => false

/-- The first surface is the configured plugin surface of the first output. -/
def firstConfigured (scene : Scene) : Bool :=
  scene.outputIs 0 (fun record => record.pluginSurface == some 0) &&
    (scene.forwardSurfaces.cell 0).any ForwardSurface.hasBeenConfigured

theorem firstConfigured_plugin {scene : Scene} (configured : firstConfigured scene = true) :
    ConfiguredPlugin scene 0 0 := by
  simp only [firstConfigured, Scene.outputIs, Bool.and_eq_true, Option.any_eq_true, beq_iff_eq] at configured
  obtain ⟨⟨record, present, linked⟩, surface, found, done⟩ := configured
  exact ⟨record, surface, present, linked, found, done⟩

/-- The plugin surface that committed early is not told the size of the first upstream configure. -/
theorem first_configure_lost : ¬ ∀ (state next : SwaylockState) (output : OutputId) (serial width height : UInt32)
    (env : Environment), swaylock.machine.Reachable state →
      swaylock.machine.step state ⟨.scene (.configure output serial width height), env⟩ next →
      state.scene.display = true → 0 < width → 0 < height →
      ∀ id, ConfiguredPlugin next.scene output id → Relayed id serial width height state.scene next.scene := by
  intro claim
  obtain ⟨state, next, reachable, moved, passed⟩ := swaylock.play_step (earlyCommitEvents.map Event.obliged)
    ⟨.scene (.configure 0 7 100 50), .obliging⟩
    (fun state next => state.scene.display && firstConfigured next.scene &&
      next.scene.wire.all fun message => !message.configures 0 100)
    (startState_initial _ _ _) (by decide +kernel : (swaylock.play perOutputState _).any _ = true)
  simp only [Bool.and_eq_true, List.all_eq_true, Bool.not_eq_true'] at passed
  obtain ⟨⟨up, configured⟩, silent⟩ := passed
  obtain ⟨_, told, _, grown, member, _⟩ := claim state next 0 7 100 50 _ reachable moved up (by decide) (by decide) 0
    (firstConfigured_plugin configured)
  have spoken := silent _ (grown ▸ List.mem_append_right _ member)
  exact absurd spoken (by simp [Message.configures])

/-- The plugin surface is told the size of the second upstream configure. -/
theorem second_configure_relayed : ∃ state next : SwaylockState,
    firstConfigured next.scene = true ∧ Relayed 0 8 200 50 state.scene next.scene := by
  obtain ⟨state, next, _, moved, passed⟩ := swaylock.play_step
    ((earlyCommitEvents ++ [Event.scene (.configure 0 7 100 50)]).map Event.obliged)
    ⟨.scene (.configure 0 8 200 50), .obliging⟩
    (fun state next => state.scene.display && firstConfigured next.scene && state.scene.outputIs 0
      fun record => decide (0 < record.width) && decide (0 < record.height))
    (startState_initial _ _ _) (by decide +kernel : (swaylock.play perOutputState _).any _ = true)
  simp only [Bool.and_eq_true] at passed
  obtain ⟨⟨up, configured⟩, sized⟩ := passed
  have relays := (configures_relayed_iff moved up (by decide) (by decide)).mpr (.inl sized)
  exact ⟨state, next, configured, relays 0 (firstConfigured_plugin configured)⟩

end SwaylockPlugin
