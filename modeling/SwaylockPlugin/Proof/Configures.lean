import SwaylockPlugin.Proof.Removal

namespace SwaylockPlugin

open Library

variable {meets : CycleView → CycleEvent → Prop} {scene : Scene} {id : OutputId} {output : SwaylockSurface}

theorem PluginCycle.told_of_not (cycle : PluginCycle) (pluginSerial serial width height : UInt32) {resized : Bool}
    (untold : resized = false ∨ cycle.hasBeenConfigured = false) :
    cycle.told pluginSerial serial width height resized = cycle := by
  unfold told
  rw [if_neg]
  rw [Bool.and_eq_true]
  rintro ⟨wide, done⟩
  rcases untold with narrow | blank
  · exact absurd (wide.symm.trans narrow) nofun
  · exact absurd (done.symm.trans blank) nofun

theorem takeSerial_spec (scene : Scene) (client : Option BgClientId) :
    Ensures (takeSerial scene client) fun result => ∃ bgClients,
      result.1 = { scene with bgClients := bgClients } :=
  .read fun _ _ => .read fun _ _ => .pure ⟨_, rfl⟩

/-- A scene tells the plugin surface of an output about a configure event. -/
structure Tells (id : OutputId) (serial width height : UInt32) (resized : Bool) (first second : Scene) : Prop where
  own : Own id first second
  surfaces : SurfaceGuard first → SurfaceGuard second
  outputs : second.outputs = first.outputs
  view : ∃ pluginSerial, second.cycleView id = { first.cycleView id with
    plugin := (first.cycleView id).plugin.map fun plugin => { plugin with
      cycle := plugin.cycle.told pluginSerial serial width height resized } }

theorem Tells.nothing (serial width height : UInt32) {resized : Bool}
    (untold : resized = false ∨ ∀ plugin, (scene.cycleView id).plugin = some plugin →
      plugin.cycle.hasBeenConfigured = false) : Tells id serial width height resized scene scene where
  own := .ofQuiet (.refl scene)
  surfaces guard := guard
  outputs := rfl
  view := by
    refine ⟨0, ?_⟩
    have same : ((scene.cycleView id).plugin.map fun plugin => { plugin with
        cycle := plugin.cycle.told 0 serial width height resized }) = (scene.cycleView id).plugin := by
      cases found : (scene.cycleView id).plugin with
      | none => rfl
      | some plugin =>
          have told : plugin.cycle.told 0 serial width height resized = plugin.cycle := by
            apply PluginCycle.told_of_not
            rcases untold with narrow | blank
            · exact .inl narrow
            · exact .inr (blank plugin found)
          simp only [Option.map_some, told]
    rw [same]

theorem reconfigurePlugin_tells (present : scene.outputs.cell id = some output) (guard : LinkGuard none scene)
    (serial : UInt32) : Ensures (reconfigurePlugin scene id serial output.pluginSurface)
      (Tells id serial output.width output.height true scene) := by
  have core := Scene.outputCore_of_present present
  cases link : output.pluginSurface with
  | none =>
      apply Ensures.pure
      apply Tells.nothing
      right
      intro plugin found
      rw [Scene.cycleView_alone core link] at found
      cases found
  | some surface =>
      refine .read fun target there => .read fun record found => ?_
      rw [present] at there
      cases there
      have role : record.swaySurface = some id := by
        obtain ⟨old, stands, role⟩ := guard.linked id output.core surface core nofun link
        rw [found] at stands
        cases stands
        exact role
      have before := Scene.cycleView_linked found core link
      split
      · rename_i done
        refine (takeSerial_spec scene _).bind fun result taken => .pure ?_
        obtain ⟨next, pluginSerial⟩ := result
        obtain ⟨bgClients, rfl⟩ := taken
        have cell : (addSerialPair { scene with bgClients := bgClients } surface
            ⟨pluginSerial, serial, output.width, output.height, false⟩).forwardSurfaces.cell surface =
              some { record with serialTable :=
                record.serialTable ++ [⟨pluginSerial, serial, output.width, output.height, false⟩] } := by
          change (scene.forwardSurfaces.modify surface _).cell surface = _
          rw [Heap.cell_modify_self, found]
          rfl
        have counted : Own id scene { scene with bgClients := bgClients } := .ofQuiet (.unrelated rfl)
        have pushed : Own id { scene with bgClients := bgClients } (addSerialPair { scene with bgClients := bgClients }
            surface ⟨pluginSerial, serial, output.width, output.height, false⟩) :=
          .setForward _ id found role fun _ => rfl
        constructor
        · exact (counted.trans pushed).trans (.tell _ id fun _ _ => rfl)
        · intro guard
          have kept : SurfaceGuard (scene.setForward surface fun surface => { surface with serialTable :=
              surface.serialTable ++ [⟨pluginSerial, serial, output.width, output.height, false⟩] }) := by
            apply guard.setForward
            · exact fun _ size => size
            · intro changed same guarded
              rw [found] at same
              cases same
              exact ⟨fun blank => absurd (done.symm.trans blank) nofun, guarded.attached, guarded.sound⟩
          exact ⟨kept.records, kept.sized, kept.shown⟩
        · rfl
        · refine ⟨pluginSerial, ?_⟩
          rw [Scene.cycleView_tell, Scene.cycleView_linked cell core link, before]
          have told : record.view.cycle.told pluginSerial serial output.width output.height true =
              record.view.cycle.push ⟨pluginSerial, serial, output.width, output.height, false⟩ := by
            unfold PluginCycle.told
            exact if_pos done
          simp only [Option.map_some, told]
          rw [show (Message.plugin (.configure surface pluginSerial output.width output.height)).entry id = none from rfl,
            Option.toList_none, List.append_nil]
          rfl
      · rename_i blank
        apply Ensures.pure
        apply Tells.nothing
        right
        intro plugin same
        rw [before] at same
        cases same
        exact Bool.eq_false_iff.mpr blank

/-- The first configure event with a size is kept for the first plugin. -/
def keepFirst (keeps : Bool) (serial : UInt32) (output : SwaylockSurface) : SwaylockSurface :=
  if keeps then { output with nestedServerOutput := true, firstConfigureSerial := serial, usedFirstConfigure := false }
  else output

theorem keepFirst_pluginSurface (keeps : Bool) (serial : UInt32) (output : SwaylockSurface) :
    (keepFirst keeps serial output).pluginSurface = output.pluginSurface := by
  unfold keepFirst
  split <;> rfl

theorem setOutput_keepFirst (scene : Scene) (id : OutputId) (serial : UInt32) :
    scene.setOutput id (keepFirst false serial) = scene :=
  congrArg (fun outputs => { scene with outputs := outputs }) (scene.outputs.modify_same id fun _ => rfl)

theorem forwardConfigure_tells (present : scene.outputs.cell id = some output) (guard : LinkGuard none scene)
    (first : Bool) (serial : UInt32) : Ensures (forwardConfigure scene id first serial) fun next => ∃ told,
      Tells id serial output.width output.height (!first && sized output.width output.height) scene told ∧
        next = told.setOutput id (keepFirst (first && sized output.width output.height) serial) := by
  refine .read fun target there => ?_
  rw [present] at there
  cases there
  have condition : (first && decide (0 < output.width) && decide (0 < output.height)) =
      (first && sized output.width output.height) := Bool.and_assoc _ _ _
  rw [condition]
  cases size : sized output.width output.height with
  | false =>
      rw [Bool.and_false, Bool.and_false, if_neg Bool.false_ne_true, if_neg]
      · exact .pure ⟨scene, .nothing serial _ _ (.inl rfl), (setOutput_keepFirst scene id serial).symm⟩
      · rw [show (decide (0 < output.width) && decide (0 < output.height)) = false from size]
        exact Bool.false_ne_true
  | true =>
      rw [Bool.and_true, Bool.and_true]
      cases first with
      | true =>
          rw [if_pos rfl]
          exact .pure ⟨scene, .nothing serial _ _ (.inl rfl), rfl⟩
      | false =>
          have positive : (decide (0 < output.width) && decide (0 < output.height)) = true := size
          rw [if_neg Bool.false_ne_true, if_pos positive]
          refine (reconfigurePlugin_tells present guard serial).weaken fun next told => ?_
          exact ⟨next, told, (setOutput_keepFirst next id serial).symm⟩

theorem core_await (output : SwaylockSurface) (serial width height : UInt32) :
    SwaylockSurface.core { keepFirst (!sized output.width output.height && sized width height) serial
      { output with width := width, height := height, newestSerial := serial } with hasNewerSerial := true } =
      output.core.await serial width height := by
  unfold keepFirst OutputCore.await
  have same : sized output.core.width output.core.height = sized output.width output.height := rfl
  rw [same]
  cases !sized output.width output.height && sized width height <;> rfl

theorem not_sized (width height : UInt32) : (width == 0 || height == 0) = !sized width height := by
  unfold sized
  by_cases narrow : width = 0
  · simp [narrow]
  · by_cases flat : height = 0
    · simp [flat]
    · have wide := UInt32.pos_iff_ne_zero.mpr narrow
      have tall := UInt32.pos_iff_ne_zero.mpr flat
      simp [narrow, flat, wide, tall]

section Record

variable (serial width height : UInt32)

theorem cell_recordConfigure (present : scene.outputs.cell id = some output) :
    (recordConfigure scene id serial width height).outputs.cell id =
      some { output with width := width, height := height, newestSerial := serial } := by
  change (scene.outputs.modify id _).cell id = _
  rw [Heap.cell_modify_self, present]
  rfl

theorem recordConfigure_own (scene : Scene) (id : OutputId) :
    Own id scene (recordConfigure scene id serial width height) := by
  have told : Own id scene (scene.tell (.configured id serial width height)) :=
    .tell scene id fun other apart => if_neg (Ne.symm apart)
  exact told.trans (.setOutput _ id fun _ => rfl)

theorem cycleView_recordConfigure (present : scene.outputs.cell id = some output) :
    (recordConfigure scene id serial width height).cycleView id = { scene.cycleView id with
      output := some (output.core.record serial width height)
      log := (scene.cycleView id).log ++ [.configured serial width height] } := by
  have stays : (scene.tell (.configured id serial width height)).outputs.cell id = some output := present
  have entry : (Message.configured id serial width height).entry id = some (.configured serial width height) :=
    if_pos rfl
  unfold recordConfigure
  rw [Scene.cycleView_setOutput _ stays rfl, Scene.cycleView_tell, entry]
  rfl

end Record

/-- With the nested server up a configure event advances the scene where it is admitted. -/
theorem answerConfigure_up (present : scene.outputs.cell id = some output) (up : scene.display = true)
    (env : Environment) {serial width height : UInt32} (fresh : serial ∉ issuedIn (entriesOf id scene.wire))
    (admitted : meets (scene.cycleView id) (.configure serial width height)) :
    Ensures (answerConfigure (recordConfigure scene id serial width height) env id
      (output.width == 0 || output.height == 0) serial) (Advances meets none scene) := by
  apply Advances.under
  intro guard
  have core := Scene.outputCore_of_present present
  have recorded := recordConfigure_own serial width height scene id
  have links := recorded.links (Scene.outputCore_isSome present) guard.links
  unfold answerConfigure
  rw [if_pos (show (recordConfigure scene id serial width height).display = true from up), not_sized]
  have stays := cell_recordConfigure serial width height present
  refine (forwardConfigure_tells stays links (!sized output.width output.height) serial).bind fun next forwarded => ?_
  obtain ⟨told, tells, same⟩ := forwarded
  change next = told.setOutput id (keepFirst (!sized output.width output.height && sized width height) serial) at same
  change Tells id serial width height (!!sized output.width output.height && sized width height) _ told at tells
  subst same
  obtain ⟨pluginSerial, view⟩ := tells.view
  apply Ensures.pure
  refine Own.advances (?_ : Own id scene _) (Scene.outputCore_isSome present) ?_ ?_
  · have kept : Own id told
        (told.setOutput id (keepFirst (!sized output.width output.height && sized width height) serial)) :=
      .setOutput told id fun record => keepFirst_pluginSurface _ serial record
    exact ((recorded.trans tells.own).trans kept).trans (.setOutput _ id fun _ => rfl)
  · intro guard
    have kept := tells.surfaces ⟨guard.records, guard.sized, guard.shown⟩
    exact ⟨kept.records, kept.sized, kept.shown⟩
  · intro _
    have there : told.outputs.cell id = some { output with
        width := width
        height := height
        newestSerial := serial } := by
      rw [tells.outputs]
      exact stays
    have keeps : (told.setOutput id (keepFirst (!sized output.width output.height && sized width height)
        serial)).outputs.cell id = some (keepFirst (!sized output.width output.height && sized width height) serial
          { output with width := width, height := height, newestSerial := serial }) := by
      change (told.outputs.modify id _).cell id = _
      rw [Heap.cell_modify_self, there]
      rfl
    rw [Scene.cycleView_setOutput _ keeps rfl, Scene.cycleView_setOutput _ there (keepFirst_pluginSurface _ serial _),
      core_await, view, cycleView_recordConfigure serial width height present, Bool.not_not]
    have step := @CycleStep.configure (scene.cycleView id) output.core serial width height pluginSerial up core fresh
    exact ⟨[.configure serial width height], .single ⟨step, admitted⟩⟩

/-- Without the nested server a configure event is answered at once and advances the scene where it is admitted. -/
theorem answerConfigure_down (lenient : Lenient meets) (present : scene.outputs.cell id = some output)
    (down : scene.display = false) (env : Environment) (first : Bool) {serial width height : UInt32}
    (fresh : serial ∉ issuedIn (entriesOf id scene.wire))
    (admitted : meets (scene.cycleView id) (.answer serial width height)) :
    Ensures (answerConfigure (recordConfigure scene id serial width height) env id first serial)
      (Advances meets none scene) := by
  have core := Scene.outputCore_of_present present
  have stays := cell_recordConfigure serial width height present
  unfold answerConfigure
  rw [if_neg (show ¬ (recordConfigure scene id serial width height).display = true from
    fun up => absurd (up.symm.trans down) nofun)]
  apply Ensures.pure
  have told : Own id (recordConfigure scene id serial width height)
      ((recordConfigure scene id serial width height).tell (.ackConfigure id serial)) :=
    .tell _ id fun other apart => if_neg (Ne.symm apart)
  have acked : ((recordConfigure scene id serial width height).tell (.ackConfigure id serial)).outputs.cell id =
      some { output with width := width, height := height, newestSerial := serial } := stays
  have entry : (Message.ackConfigure id serial).entry id = some (.acknowledged serial) := if_pos rfl
  have view : (((recordConfigure scene id serial width height).tell (.ackConfigure id serial)).setOutput id
      fun output => { output with hasNewerSerial := false }).cycleView id = { scene.cycleView id with
        output := some { output.core.record serial width height with hasNewerSerial := false }
        log := (scene.cycleView id).log ++ [.configured serial width height, .acknowledged serial] } := by
    rw [Scene.cycleView_setOutput _ acked rfl, Scene.cycleView_tell, entry,
      cycleView_recordConfigure serial width height present, Option.toList_some, List.append_assoc]
    rfl
  have answered : Advances meets none scene
      (((recordConfigure scene id serial width height).tell (.ackConfigure id serial)).setOutput id
        fun output => { output with hasNewerSerial := false }) := by
    refine Own.advances (?_ : Own id scene _) (Scene.outputCore_isSome present) ?_ ?_
    · exact ((recordConfigure_own serial width height scene id).trans told).trans (.setOutput _ id fun _ => rfl)
    · exact fun guard => ⟨guard.records, guard.sized, guard.shown⟩
    · intro _
      have step := @CycleStep.answer (scene.cycleView id) output.core serial width height down core fresh
      rw [view]
      exact ⟨[.answer serial width height], .single ⟨step, admitted⟩⟩
  have log : entriesOf id (((recordConfigure scene id serial width height).tell (.ackConfigure id serial)).setOutput id
      fun output => { output with hasNewerSerial := false }).wire =
        entriesOf id scene.wire ++ [.configured serial width height, .acknowledged serial] :=
    congrArg CycleView.log view
  apply answered.trans
  refine renderFallbackSurface_advances lenient ?_ env id ?_
  · exact down
  · intro current found
    change (((recordConfigure scene id serial width height).tell
      (.ackConfigure id serial)).outputs.modify id _).cell id = some current at found
    rw [Heap.cell_modify_self, acked] at found
    cases found
    refine ⟨rfl, .inr ?_⟩
    rw [log]
    simp [issuedIn]

theorem armRedraw_quiet (scene : Scene) (id : OutputId) : Ensures (armRedraw scene id) (Quiet scene) := by
  refine .read fun output _ => ?_
  split
  · exact .pure (.refl scene)
  · have armed : Quiet scene (scene.addTimer timeoutSurface (.outputRedrawTimeout id)).1 := .unrelated rfl
    exact .pure (armed.trans (.setOutput _ id fun _ => rfl))

theorem extSessionLockSurfaceV1HandleConfigure_advances (lenient : Lenient meets) (scene : Scene) (env : Environment)
    (id : OutputId) {serial width height : UInt32} (fresh : serial ∉ issuedIn (entriesOf id scene.wire))
    (admitted : scene.display = true → meets (scene.cycleView id) (.configure serial width height))
    (answered : scene.display = false → meets (scene.cycleView id) (.answer serial width height)) :
    Ensures (extSessionLockSurfaceV1HandleConfigure scene env id serial width height) (Advances meets none scene) := by
  refine .read fun output present => ?_
  have handled : Ensures (answerConfigure (recordConfigure scene id serial width height) env id
      (output.width == 0 || output.height == 0) serial) (Advances meets none scene) := by
    cases display : scene.display with
    | true => exact answerConfigure_up present display env fresh (admitted display)
    | false => exact answerConfigure_down lenient present display env _ fresh (answered display)
  refine handled.bind fun next advanced => ?_
  have drawn := advanced.trans (renderDirty_advances lenient next id)
  dsimp only
  split
  · exact (armRedraw_quiet (renderDirty next id) id).weaken fun _ armed => drawn.trans (Quiet.advances armed)
  · exact .pure drawn

end SwaylockPlugin
