import SwaylockPlugin.Proof.Links

namespace SwaylockPlugin

open Library

variable {meets : CycleView → CycleEvent → Prop}

/-- A surface and an output become partners. -/
def assumeRole (scene : Scene) (id : SurfaceId) (output : OutputId) : Scene :=
  (scene.setOutput output fun record => { record with pluginSurface := some id }).setForward id
    fun record => { record with swaySurface := some output }

/-- A plugin surface keeps the serial and the resource of its role. -/
def acceptRole (serial : UInt32) (layer : ResourceId) (record : ForwardSurface) : ForwardSurface :=
  { record with lastUsedPluginSerial := serial, layerSurface := some layer }

section Link

variable {scene : Scene} {id : SurfaceId} {record : ForwardSurface} {output : OutputId} {target : SwaylockSurface}
  {serial : UInt32} {layer : ResourceId}

theorem cell_assumeRole (present : scene.forwardSurfaces.cell id = some record) :
    ((assumeRole scene id output).setForward id (acceptRole serial layer)).forwardSurfaces.cell id =
      some (acceptRole serial layer { record with swaySurface := some output }) := by
  change ((scene.forwardSurfaces.modify id _).modify id _).cell id = _
  rw [Heap.cell_modify_self, Heap.cell_modify_self, present]
  rfl

theorem cell_assumeRole_other {surface : SurfaceId} (apart : surface ≠ id) :
    ((assumeRole scene id output).setForward id (acceptRole serial layer)).forwardSurfaces.cell surface =
      scene.forwardSurfaces.cell surface := by
  change ((scene.forwardSurfaces.modify id _).modify id _).cell surface = _
  rw [Heap.cell_modify_other _ _ apart, Heap.cell_modify_other _ _ apart]

theorem outputCore_assumeRole (there : scene.outputs.cell output = some target) :
    ((assumeRole scene id output).setForward id (acceptRole serial layer)).outputCore output =
      some { target.core with pluginSurface := some id } :=
  scene.outputCore_setOutput there _

theorem outputCore_assumeRole_other {other : OutputId} (apart : other ≠ output) :
    ((assumeRole scene id output).setForward id (acceptRole serial layer)).outputCore other =
      scene.outputCore other :=
  scene.outputCore_setOutput_other _ apart

theorem assumeRole_links (present : scene.forwardSurfaces.cell id = some record) (free : record.swaySurface = none)
    (there : scene.outputs.cell output = some target) (alone : target.pluginSurface = none)
    (guard : LinkGuard none scene) :
    LinkGuard none ((assumeRole scene id output).setForward id (acceptRole serial layer)) := by
  have core := Scene.outputCore_of_present there
  constructor
  · exact guard.nodup
  · intro other
    by_cases same : other = output
    · have listed := guard.listed output
      rw [core] at listed
      rw [same, outputCore_assumeRole there]
      exact listed
    · rw [outputCore_assumeRole_other same]
      exact guard.listed other
  · intro other changed surface found shown linked
    by_cases same : other = output
    · subst same
      rw [outputCore_assumeRole there] at found
      cases found
      cases linked
      exact ⟨_, cell_assumeRole present, rfl⟩
    · rw [outputCore_assumeRole_other same] at found
      obtain ⟨old, stands, role⟩ := guard.linked other changed surface found shown linked
      have apart : surface ≠ id := by
        rintro rfl
        rw [present] at stands
        cases stands
        rw [free] at role
        cases role
      exact ⟨old, (cell_assumeRole_other apart).trans stands, role⟩
  · intro other surface changed found role
    by_cases same : surface = id
    · subst same
      rw [cell_assumeRole present] at found
      cases found
      cases role
      exact ⟨nofun, _, outputCore_assumeRole there, rfl⟩
    · rw [cell_assumeRole_other same] at found
      obtain ⟨shown, old, stands, linked⟩ := guard.served other surface changed found role
      have apart : other ≠ output := by
        rintro rfl
        rw [core] at stands
        cases stands
        exact absurd (linked.symm.trans alone) nofun
      exact ⟨shown, old, (outputCore_assumeRole_other apart).trans stands, linked⟩
  · exact guard.unnamed

theorem assumeRole_surfaces (guard : SurfaceGuard scene) :
    SurfaceGuard ((assumeRole scene id output).setForward id (acceptRole serial layer)) := by
  have linked : SurfaceGuard (assumeRole scene id output) := by
    have same : SurfaceGuard (scene.setOutput output fun record => { record with pluginSurface := some id }) :=
      ⟨guard.records, guard.sized, guard.shown⟩
    apply same.setForward
    · exact fun _ size => size
    · exact fun _ _ guarded => ⟨guarded.untouched, guarded.attached, guarded.sound⟩
  apply linked.setForward
  · exact fun _ size => size
  · exact fun _ _ guarded => ⟨guarded.untouched, guarded.attached, guarded.sound⟩

theorem assumeRole_advances (up : scene.display = true) (present : scene.forwardSurfaces.cell id = some record)
    (free : record.swaySurface = none) (there : scene.outputs.cell output = some target)
    (alone : target.pluginSurface = none) (admitted : meets (scene.cycleView output) (.link id record.view)) :
    Advances meets none scene ((assumeRole scene id output).setForward id (acceptRole serial layer)) := by
  intro guard
  have core := Scene.outputCore_of_present there
  have before := Scene.cycleView_alone core alone
  refine ⟨rfl, fun down => down, ⟨assumeRole_links present free there alone guard.links,
    assumeRole_surfaces guard.surfaces⟩, ?_, fun _ same => (nomatch same)⟩
  intro other _
  by_cases same : other = output
  · subst same
    rw [Scene.cycleView_linked (cell_assumeRole present) (outputCore_assumeRole there) rfl]
    have untouched := (guard.surfaces.records id record present).untouched
    have step : CycleStep (scene.cycleView other) (.link id record.view)
        { scene.cycleView other with
          output := some { target.core with pluginSurface := some id }
          plugin := some { record.view with cycle := { record.view.cycle with lastUsedPluginSerial := serial } } } :=
      .link serial up core (by rw [before]) untouched
    exact ⟨[.link id record.view], .single ⟨step, admitted⟩⟩
  · have kept : ((assumeRole scene id output).setForward id (acceptRole serial layer)).cycleView other =
        scene.cycleView other := by
      refine Scene.cycleView_congr rfl (outputCore_assumeRole_other same) ?_ rfl
      intro surface link
      obtain ⟨core, stands, linked⟩ := Option.bind_eq_some_iff.mp link
      obtain ⟨old, found, role⟩ := guard.links.linked other core surface stands nofun linked
      have apart : surface ≠ id := by
        rintro rfl
        rw [present] at found
        cases found
        rw [free] at role
        cases role
      unfold Scene.pluginView
      rw [cell_assumeRole_other apart]
    rw [kept]
    exact ⟨[], .rest _⟩

end Link

theorem acceptRole_congruent (serial : UInt32) (layer : ResourceId) {one two : ForwardSurface}
    (same : one.core = two.core) : (acceptRole serial layer one).core = (acceptRole serial layer two).core :=
  congrArg (fun core : SurfaceCore => { core with
    roleCore := { core.roleCore with
      cycle := { core.roleCore.cycle with lastUsedPluginSerial := serial } } }) same

theorem linkLayerSurface_quiet (scene : Scene) (client : WlClientId) (id : SurfaceId) (output : OutputId) :
    Ensures (linkLayerSurface scene client id output) fun next => ∃ serial layer,
      Quiet ((assumeRole scene id output).setForward id (acceptRole serial layer)) next := by
  refine .read fun target _ => .read fun bgClient _ => .read fun record _ => .check fun _ => ?_
  refine (takeSerial_quiet (assumeRole scene id output) _).bind fun result taken => ?_
  obtain ⟨next, serial⟩ := result
  have created : Quiet (assumeRole scene id output) (next.createResource client (.layerSurface output)).1 :=
    taken.trans (createResource_quiet next client (.layerSurface output))
  refine .pure ⟨serial, next.resources.next, ?_⟩
  apply created.setForwardBoth id
  · exact fun one two same => acceptRole_congruent serial next.resources.next same
  · exact fun _ => Iff.rfl

theorem wlrLayerShellGetLayerSurface_advances (scene : Scene) (client : WlClientId) (id : SurfaceId)
    (resource : Option OutputId) (up : scene.display = true)
    (admitted : ∀ output target record, layerOutput scene client resource = some output →
      scene.outputs.cell output = some target → target.pluginSurface = none →
      scene.forwardSurfaces.cell id = some record → record.swaySurface = none →
      meets (scene.cycleView output) (.link id record.view)) :
    Ensures (wlrLayerShellGetLayerSurface scene client id resource) (Advances meets none scene) := by
  unfold wlrLayerShellGetLayerSurface
  cases chosen : layerOutput scene client resource with
  | none => exact .pure (.refl scene)
  | some output =>
      refine .read fun target there => .read fun record present => ?_
      split
      · exact .pure (Quiet.advances (.postError scene client _))
      · rename_i alone
        rw [Bool.or_eq_true, not_or, Option.not_isSome_iff_eq_none, Option.not_isSome_iff_eq_none] at alone
        have allowed := admitted output target record chosen there alone.1 present alone.2
        refine (linkLayerSurface_quiet scene client id output).bind fun linked quiet => ?_
        obtain ⟨serial, layer, quiet⟩ := quiet
        have advanced : Advances meets none scene linked :=
          (assumeRole_advances up present alone.2 there alone.1 allowed).trans quiet.advances
        split
        · refine (announceScale_quiet linked id (some output)).weaken fun final announced => ?_
          exact advanced.trans announced.advances
        · exact .pure advanced

section Acknowledge

variable {scene : Scene} {id : SurfaceId} {record : ForwardSurface} {output : OutputId} {target : SwaylockSurface}

theorem cell_usePair (present : scene.forwardSurfaces.cell id = some record) (pair : SerialPair)
    (rest : List SerialPair) :
    (usePair scene output id pair rest).forwardSurfaces.cell id = some { record with
      lastAckedWidth := pair.configWidth
      lastAckedHeight := pair.configHeight
      serialTable := rest } := by
  have changed : ((scene.setForward id fun surface => { surface with
      lastAckedWidth := pair.configWidth
      lastAckedHeight := pair.configHeight
      serialTable := rest }).forwardSurfaces).cell id = some { record with
        lastAckedWidth := pair.configWidth
        lastAckedHeight := pair.configHeight
        serialTable := rest } := by
    change (scene.forwardSurfaces.modify id _).cell id = _
    rw [Heap.cell_modify_self, present]
    rfl
  unfold usePair
  dsimp only
  split
  · exact changed
  · exact changed

theorem outputCore_usePair (there : scene.outputs.cell output = some target) (pair : SerialPair)
    (rest : List SerialPair) :
    (usePair scene output id pair rest).outputCore output = some (target.core.awaitPair pair) := by
  unfold usePair OutputCore.awaitPair
  dsimp only
  split
  · exact Scene.outputCore_of_present there
  · exact Scene.outputCore_setOutput _ there _

theorem usePair_rest (scene : Scene) (output : OutputId) (id : SurfaceId) (pair : SerialPair)
    (rest : List SerialPair) : (usePair scene output id pair rest).display = scene.display ∧
      (usePair scene output id pair rest).wire = scene.wire := by
  unfold usePair
  dsimp only
  split <;> exact ⟨rfl, rfl⟩

theorem usePair_own (present : scene.forwardSurfaces.cell id = some record) (role : record.swaySurface = some output)
    (pair : SerialPair) (rest : List SerialPair) : Own output scene (usePair scene output id pair rest) := by
  have used : Own output scene (scene.setForward id fun surface => { surface with
      lastAckedWidth := pair.configWidth
      lastAckedHeight := pair.configHeight
      serialTable := rest }) := .setForward scene output present role fun _ => rfl
  unfold usePair
  dsimp only
  split
  · exact used
  · exact used.trans (.setOutput _ output fun _ => rfl)

theorem usePair_surfaces (configured : ∀ record, scene.forwardSurfaces.cell id = some record →
      record.hasBeenConfigured = true) (pair : SerialPair) (rest : List SerialPair) (guard : SurfaceGuard scene) :
    SurfaceGuard (usePair scene output id pair rest) := by
  have used : SurfaceGuard (scene.setForward id fun surface => { surface with
      lastAckedWidth := pair.configWidth
      lastAckedHeight := pair.configHeight
      serialTable := rest }) := by
    apply guard.setForward
    · exact fun _ size => size
    · intro record present guarded
      refine ⟨fun blank => ?_, guarded.attached, guarded.sound⟩
      exact absurd ((configured record present).symm.trans blank) nofun
  unfold usePair
  dsimp only
  split
  · exact used
  · exact ⟨used.records, used.sized, used.shown⟩

end Acknowledge

/-- A plugin surface notes the serial that its plugin acknowledged. -/
def noteSerial (scene : Scene) (id : SurfaceId) (serial : UInt32) : Scene :=
  scene.setForward id fun surface => { surface with lastUsedPluginSerial := serial }

theorem cell_noteSerial {scene : Scene} {id : SurfaceId} {record : ForwardSurface}
    (present : scene.forwardSurfaces.cell id = some record) (serial : UInt32) :
    (noteSerial scene id serial).forwardSurfaces.cell id = some { record with lastUsedPluginSerial := serial } := by
  change (scene.forwardSurfaces.modify id _).cell id = _
  rw [Heap.cell_modify_self, present]
  rfl

theorem noteSerial_surfaces {scene : Scene} (id : SurfaceId) (serial : UInt32) (guard : SurfaceGuard scene) :
    SurfaceGuard (noteSerial scene id serial) := by
  apply guard.setForward
  · exact fun _ size => size
  · exact fun _ _ guarded => ⟨guarded.untouched, guarded.attached, guarded.sound⟩

theorem zwlrLayerSurfaceAckConfigure_advances (lenient : Lenient meets) (scene : Scene) (client : WlClientId)
    (output : OutputId) (serial : UInt32) (up : scene.display = true) :
    Ensures (zwlrLayerSurfaceAckConfigure scene client output serial) (Advances meets none scene) := by
  apply Advances.under
  intro guard
  refine .read fun target there => .read fun id linked => .read fun record present => ?_
  have core := Scene.outputCore_of_present there
  have exists_ := Scene.outputCore_isSome there
  have role : record.swaySurface = some output := by
    obtain ⟨old, found, role⟩ := guard.links.linked output target.core id core nofun linked
    rw [present] at found
    cases found
    exact role
  have before := Scene.cycleView_linked present core linked
  have noted := cell_noteSerial present serial
  have own : Own output scene (noteSerial scene id serial) := .setForward scene output present role fun _ => rfl
  split
  · exact .pure (.refl scene)
  · dsimp only
    split
    · apply Ensures.pure
      have refused : Advances meets none scene (noteSerial scene id serial) := by
        apply own.advances exists_ (noteSerial_surfaces id serial)
        intro _
        have after := Scene.cycleView_linked noted core linked
        rw [before, after]
        exact ⟨[.refuse serial], .single ⟨@CycleStep.refuse _ record.view serial rfl, lenient.minor _ _ rfl⟩⟩
      exact refused.trans (Quiet.advances (.postError _ client _))
    · rename_i pair rest found
      apply Ensures.pure
      change Advances meets none scene (usePair (noteSerial scene id serial) output id pair rest)
      apply (own.trans (usePair_own noted role pair rest)).advances exists_
      · intro guard
        apply usePair_surfaces _ pair rest (noteSerial_surfaces id serial guard)
        intro changed there
        rw [noted] at there
        cases there
        cases configured : record.hasBeenConfigured with
        | true => rfl
        | false =>
            have empty := ((guard.records id record present).untouched configured).1
            rw [show record.serialTable = [] from empty] at found
            cases found
      · intro _
        obtain ⟨display, wire⟩ := usePair_rest (noteSerial scene id serial) output id pair rest
        have link : (target.core.awaitPair pair).pluginSurface = some id :=
          (OutputCore.awaitPair_pluginSurface _ _).trans linked
        have stays : (noteSerial scene id serial).outputs.cell output = some target := there
        have waits : (usePair (noteSerial scene id serial) output id pair rest).outputCore output =
            some (target.core.awaitPair pair) := outputCore_usePair stays pair rest
        have after := Scene.cycleView_linked (cell_usePair noted pair rest) waits link
        rw [display, wire] at after
        rw [before, after]
        have step := @CycleStep.take (scene.cycleView output) target.core record.view serial pair rest up core
          (by rw [before]) found
        rw [before] at step
        exact ⟨[.take serial], .single ⟨step, lenient.minor _ _ rfl⟩⟩

end SwaylockPlugin
