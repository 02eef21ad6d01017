import SwaylockPlugin.Abstract.Cycle
import SwaylockPlugin.Proof.Quiet

namespace SwaylockPlugin

open Library

/-- A plugin surface is viewed through its cycle and its committed look. -/
def ForwardSurface.view (surface : ForwardSurface) : PluginView := surface.core.view

/-- A plugin surface is viewed together with its role. -/
def ForwardSurface.roleView (surface : ForwardSurface) : Option OutputId × PluginView :=
  (surface.swaySurface, surface.view)

namespace Scene

/-- A plugin surface shows its view while it exists. -/
def pluginView (scene : Scene) (id : SurfaceId) : Option PluginView :=
  (scene.forwardSurfaces.cell id).map ForwardSurface.view

/-- An output shows its core while it exists. -/
def outputCore (scene : Scene) (id : OutputId) : Option OutputCore :=
  (scene.outputs.cell id).map SwaylockSurface.core

/-- The cycle of an output is what the scene shows of it, of its plugin surface and of its entries. -/
def cycleView (scene : Scene) (id : OutputId) : CycleView where
  display := scene.display
  output := scene.outputCore id
  plugin := ((scene.outputCore id).bind OutputCore.pluginSurface).bind scene.pluginView
  log := entriesOf id scene.wire

theorem cycleView_congr {first second : Scene} {id : OutputId} (display : second.display = first.display)
    (output : second.outputCore id = first.outputCore id)
    (plugin : ∀ surface, (first.outputCore id).bind OutputCore.pluginSurface = some surface →
      second.pluginView surface = first.pluginView surface)
    (log : entriesOf id second.wire = entriesOf id first.wire) : second.cycleView id = first.cycleView id := by
  have same : ((second.outputCore id).bind OutputCore.pluginSurface).bind second.pluginView =
      ((first.outputCore id).bind OutputCore.pluginSurface).bind first.pluginView := by
    rw [output]
    cases found : (first.outputCore id).bind OutputCore.pluginSurface with
    | none => rfl
    | some surface => exact plugin surface found
  unfold cycleView
  rw [display, same, output, log]

/-- A plugin surface was drawn when its committed buffer has a size. -/
def Drawn (scene : Scene) (id : SurfaceId) : Prop :=
  ∀ record, scene.forwardSurfaces.cell id = some record →
    0 < record.committedBufferWidth ∧ 0 < record.committedBufferHeight

end Scene

/-- Attachments are sound when a kept buffer was committed and a committed buffer has a size. -/
structure AttachmentCore.Sound (core : AttachmentCore) : Prop where
  kept : core.pending = .committed → core.committed ≠ .null
  drawn : core.committed ≠ .null → 0 < core.width ∧ 0 < core.height

/-- The outputs and the plugin surfaces point at each other, apart from an output that is going away. -/
structure LinkGuard (hidden : Option OutputId) (scene : Scene) : Prop where
  nodup : scene.surfaces.Nodup
  listed : ∀ id, id ∈ scene.surfaces ↔ (scene.outputCore id).isSome = true ∧ some id ≠ hidden
  linked : ∀ id core surface, scene.outputCore id = some core → some id ≠ hidden →
    core.pluginSurface = some surface → ∃ record, scene.forwardSurfaces.cell surface = some record ∧
      record.swaySurface = some id
  served : ∀ id surface record, scene.forwardSurfaces.cell surface = some record →
    record.swaySurface = some id → some id ≠ hidden ∧ ∃ core, scene.outputCore id = some core ∧
      core.pluginSurface = some surface
  unnamed : ∀ id, scene.outputs.next ≤ id → entriesOf id scene.wire = []

/-- A plugin surface is guarded when its cycle, its attachments and its viewports are sound. -/
structure ForwardSurface.Guarded (surface : ForwardSurface) : Prop where
  untouched : surface.cycle.Untouched
  attached : surface.attachments.Sound
  sound : surface.Sound

/-- The plugin surfaces and the buffers of a scene are sound. -/
structure SurfaceGuard (scene : Scene) : Prop where
  records : ∀ id record, scene.forwardSurfaces.cell id = some record → record.Guarded
  sized : ∀ id buffer, scene.forwardBuffers.cell id = some buffer → 0 < buffer.width ∧ 0 < buffer.height
  shown : ∀ id buffer, scene.forwardBuffers.cell id = some buffer → ∀ surface ∈ buffer.committedSurfaces,
    surface < scene.forwardSurfaces.next ∧ scene.Drawn surface

/-- A scene is guarded when its links and its surfaces are. -/
structure SceneGuard (hidden : Option OutputId) (scene : Scene) : Prop where
  links : LinkGuard hidden scene
  surfaces : SurfaceGuard scene

/-- A scene advances another when it stays guarded and each output took steps of its own. -/
structure Advanced (meets : CycleView → CycleEvent → Prop) (hidden : Option OutputId) (first second : Scene) :
    Prop where
  grace : second.args.graceTime = first.args.graceTime
  down : first.display = false → second.display = false
  guard : SceneGuard hidden second
  runs : ∀ id, some id ≠ hidden →
    ∃ events, (cycle.restrict meets).Run (first.cycleView id) events (second.cycleView id)
  still : ∀ id, some id = hidden →
    second.display = first.display ∧ entriesOf id second.wire = entriesOf id first.wire

/-- A handler advances a scene where the scene is guarded. -/
def Advances (meets : CycleView → CycleEvent → Prop) (hidden : Option OutputId) (first second : Scene) : Prop :=
  SceneGuard hidden first → Advanced meets hidden first second

variable {meets : CycleView → CycleEvent → Prop} {hidden : Option OutputId} {first second third : Scene}

namespace Advances

theorem refl (scene : Scene) : Advances meets hidden scene scene := by
  intro guard
  exact ⟨rfl, id, guard, fun _ _ => ⟨[], .rest _⟩, fun _ _ => ⟨rfl, rfl⟩⟩

theorem trans (one : Advances meets hidden first second) (two : Advances meets hidden second third) :
    Advances meets hidden first third := by
  intro guard
  have early := one guard
  have late := two early.guard
  refine ⟨late.grace.trans early.grace, fun down => late.down (early.down down), late.guard, ?_, ?_⟩
  · intro id shown
    obtain ⟨before, start⟩ := early.runs id shown
    obtain ⟨after, rest⟩ := late.runs id shown
    exact ⟨before ++ after, start.append rest⟩
  · intro id same
    obtain ⟨startDisplay, startLog⟩ := early.still id same
    obtain ⟨restDisplay, restLog⟩ := late.still id same
    exact ⟨restDisplay.trans startDisplay, restLog.trans startLog⟩

theorem under {computation : Handled Scene}
    (advances : SceneGuard hidden first → Ensures computation (Advances meets hidden first)) :
    Ensures computation (Advances meets hidden first) := by
  intro next computed guard
  exact advances guard next computed guard

end Advances

namespace Frame

theorem cycleView (frame : Frame Message.aside ForwardSurface.roleView first second) (id : OutputId) :
    second.cycleView id = first.cycleView id := by
  obtain ⟨messages, grown, aside⟩ := frame.wire
  apply Scene.cycleView_congr frame.display (frame.outputs id)
  · intro surface _
    have same := congrArg (Option.map Prod.snd) (frame.forward surface)
    rw [Option.map_map, Option.map_map] at same
    exact same
  · rw [grown, entriesOf_append, entriesOf_aside id aside, List.append_nil]

theorem links (frame : Frame Message.aside ForwardSurface.roleView first second) (guard : LinkGuard hidden first) :
    LinkGuard hidden second where
  nodup := frame.surfaces ▸ guard.nodup
  listed id := by
    rw [frame.surfaces, show second.outputCore id = first.outputCore id from frame.outputs id]
    exact guard.listed id
  linked id core surface present shown link := by
    rw [show second.outputCore id = first.outputCore id from frame.outputs id] at present
    obtain ⟨old, found, role⟩ := guard.linked id core surface present shown link
    have same := frame.forward surface
    rw [found, Option.map_some, Option.map_eq_some_iff] at same
    obtain ⟨record, present, kept⟩ := same
    exact ⟨record, present, (congrArg Prod.fst kept).trans role⟩
  served id surface record present role := by
    have same := frame.forward surface
    rw [present, Option.map_some] at same
    obtain ⟨old, found, kept⟩ := Option.map_eq_some_iff.mp same.symm
    rw [show second.outputCore id = first.outputCore id from frame.outputs id]
    exact guard.served id surface old found ((congrArg Prod.fst kept).trans role)
  unnamed id above := by
    obtain ⟨messages, grown, aside⟩ := frame.wire
    rw [grown, entriesOf_append, entriesOf_aside id aside, List.append_nil]
    exact guard.unnamed id (frame.nextOutput ▸ above)

theorem advances (frame : Frame Message.aside ForwardSurface.roleView first second)
    (surfaces : SurfaceGuard first → SurfaceGuard second) : Advances meets hidden first second := by
  intro guard
  refine ⟨by rw [frame.args], fun down => frame.display.trans down, ⟨frame.links guard.links, surfaces guard.surfaces⟩,
    fun id _ => ⟨[], ?_⟩, fun id _ => ⟨frame.display, ?_⟩⟩
  · rw [frame.cycleView id]
    exact .rest _
  · exact congrArg CycleView.log (frame.cycleView id)

end Frame

namespace Quiet

theorem core_of_present (quiet : Quiet first second) {id : SurfaceId} {record : ForwardSurface}
    (present : second.forwardSurfaces.cell id = some record) :
    ∃ old, first.forwardSurfaces.cell id = some old ∧ old.core = record.core := by
  have same := quiet.forward id
  rw [present, Option.map_some] at same
  exact Option.map_eq_some_iff.mp same.symm

theorem surfaces (quiet : Quiet first second) (guard : SurfaceGuard first) : SurfaceGuard second where
  records id record present := by
    obtain ⟨old, found, same⟩ := quiet.core_of_present present
    have guarded := guard.records id old found
    have cycle : record.cycle = old.cycle := congrArg (fun core => core.roleCore.cycle) same.symm
    have attachments : record.attachments = old.attachments := congrArg SurfaceCore.attachments same.symm
    constructor
    · rw [cycle]
      exact guarded.untouched
    · rw [attachments]
      exact guarded.attached
    · exact quiet.sound id record present fun old found => (guard.records id old found).sound
  sized id buffer present := by
    obtain ⟨old, found, shrinks⟩ := quiet.buffers id buffer present
    rw [shrinks.width, shrinks.height]
    exact guard.sized id old found
  shown id buffer present surface member := by
    obtain ⟨old, found, shrinks⟩ := quiet.buffers id buffer present
    obtain ⟨below, drawn⟩ := guard.shown id old found surface (shrinks.committed member)
    refine ⟨quiet.nextSurface ▸ below, fun record present => ?_⟩
    obtain ⟨before, there, same⟩ := quiet.core_of_present present
    have attachments : record.attachments = before.attachments := congrArg SurfaceCore.attachments same.symm
    have size := drawn before there
    change 0 < record.attachments.width ∧ 0 < record.attachments.height
    rw [attachments]
    exact size

theorem roles (quiet : Quiet first second) : Frame Message.aside ForwardSurface.roleView first second :=
  quiet.coarsen fun core => (core.roleCore.role, core.view)

theorem advances (quiet : Quiet first second) : Advances meets hidden first second :=
  quiet.roles.advances quiet.surfaces

end Quiet

end SwaylockPlugin
