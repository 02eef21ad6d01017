import SwaylockPlugin.Proof.Surfaces

namespace SwaylockPlugin

open Library

namespace Scene

theorem outputCore_of_present {scene : Scene} {id : OutputId} {output : SwaylockSurface}
    (present : scene.outputs.cell id = some output) : scene.outputCore id = some output.core := by
  rw [outputCore, present]
  rfl

theorem pluginView_of_present {scene : Scene} {id : SurfaceId} {record : ForwardSurface}
    (present : scene.forwardSurfaces.cell id = some record) : scene.pluginView id = some record.view := by
  rw [pluginView, present]
  rfl

theorem outputCore_setOutput (scene : Scene) {id : OutputId} {output : SwaylockSurface}
    (present : scene.outputs.cell id = some output) (change : SwaylockSurface → SwaylockSurface) :
    (scene.setOutput id change).outputCore id = some (change output).core := by
  apply outputCore_of_present
  change (scene.outputs.modify id change).cell id = _
  rw [Heap.cell_modify_self, present]
  rfl

theorem outputCore_setOutput_other (scene : Scene) {id other : OutputId} (change : SwaylockSurface → SwaylockSurface)
    (apart : other ≠ id) : (scene.setOutput id change).outputCore other = scene.outputCore other := by
  change ((scene.outputs.modify id change).cell other).map _ = _
  rw [Heap.cell_modify_other _ _ apart]
  rfl

theorem pluginView_setForward_other (scene : Scene) {id other : SurfaceId} (change : ForwardSurface → ForwardSurface)
    (apart : other ≠ id) : (scene.setForward id change).pluginView other = scene.pluginView other := by
  change ((scene.forwardSurfaces.modify id change).cell other).map _ = _
  rw [Heap.cell_modify_other _ _ apart]
  rfl

theorem cycleView_alone {scene : Scene} {id : OutputId} {core : OutputCore} (present : scene.outputCore id = some core)
    (alone : core.pluginSurface = none) :
    scene.cycleView id = ⟨scene.display, some core, none, entriesOf id scene.wire⟩ := by
  rw [cycleView, present, Option.bind_some, alone]
  rfl

theorem cycleView_linked {scene : Scene} {id : OutputId} {core : OutputCore} {surface : SurfaceId}
    {record : ForwardSurface} (found : scene.forwardSurfaces.cell surface = some record)
    (present : scene.outputCore id = some core) (linked : core.pluginSurface = some surface) :
    scene.cycleView id = ⟨scene.display, some core, some record.view, entriesOf id scene.wire⟩ := by
  rw [cycleView, present, Option.bind_some, linked, Option.bind_some, pluginView_of_present found]

theorem outputCore_isSome {scene : Scene} {id : OutputId} {output : SwaylockSurface}
    (present : scene.outputs.cell id = some output) : (scene.outputCore id).isSome = true := by
  rw [outputCore_of_present present]
  rfl

theorem cycleView_setOutput (scene : Scene) {id : OutputId} {output : SwaylockSurface}
    (present : scene.outputs.cell id = some output) {change : SwaylockSurface → SwaylockSurface}
    (kept : (change output).pluginSurface = output.pluginSurface) :
    (scene.setOutput id change).cycleView id =
      { scene.cycleView id with output := some (change output).core } := by
  have before := outputCore_of_present present
  have after := outputCore_setOutput scene present change
  have link : (change output).core.pluginSurface = output.core.pluginSurface := kept
  unfold cycleView
  rw [before, after, Option.bind_some, Option.bind_some, link]
  rfl

theorem entriesOf_requests (output : OutputId) (requests : List SurfaceRequest) :
    entriesOf output (requests.map (.surface (.lock output))) = requests.map .request := by
  induction requests with
  | nil => rfl
  | cons request requests ih =>
      rw [List.map_cons, entriesOf_cons, ih]
      simp [Message.entry]

theorem cycleView_requestAll (scene : Scene) (id : OutputId) (requests : List SurfaceRequest) :
    (scene.requestAll (.lock id) requests).cycleView id =
      { scene.cycleView id with log := (scene.cycleView id).log ++ requests.map .request } := by
  unfold cycleView requestAll
  dsimp only
  rw [entriesOf_append, entriesOf_requests]
  rfl

theorem cycleView_tell (scene : Scene) (id : OutputId) (message : Message) :
    (scene.tell message).cycleView id =
      { scene.cycleView id with log := (scene.cycleView id).log ++ (message.entry id).toList } := by
  unfold cycleView tell
  dsimp only
  rw [entriesOf_append, entriesOf_cons, entriesOf_nil, List.append_nil]
  rfl

end Scene

/-- A change is an output's own when it touches that output, its plugin surface and its entries only. -/
structure Own (output : OutputId) (first second : Scene) : Prop where
  args : second.args = first.args
  display : second.display = first.display
  surfaces : second.surfaces = first.surfaces
  nextOutput : second.outputs.next = first.outputs.next
  others : ∀ id, id ≠ output → second.outputCore id = first.outputCore id
  link : (second.outputCore output).map OutputCore.pluginSurface =
    (first.outputCore output).map OutputCore.pluginSurface
  roles : ∀ id, (second.forwardSurfaces.cell id).map ForwardSurface.swaySurface =
    (first.forwardSurfaces.cell id).map ForwardSurface.swaySurface
  views : ∀ id record, first.forwardSurfaces.cell id = some record → record.swaySurface ≠ some output →
    second.pluginView id = first.pluginView id
  wire : ∃ messages, second.wire = first.wire ++ messages ∧ ∀ id, id ≠ output → entriesOf id messages = []

namespace Own

variable {output : OutputId} {first second third : Scene}

theorem ofFrame (frame : Frame Message.aside ForwardSurface.roleView first second) : Own output first second where
  args := frame.args
  display := frame.display
  surfaces := frame.surfaces
  nextOutput := frame.nextOutput
  others id _ := frame.outputs id
  link := congrArg (Option.map OutputCore.pluginSurface) (frame.outputs output)
  roles id := by
    have same := congrArg (Option.map Prod.fst) (frame.forward id)
    rw [Option.map_map, Option.map_map] at same
    exact same
  views id _ _ _ := by
    have same := congrArg (Option.map Prod.snd) (frame.forward id)
    rw [Option.map_map, Option.map_map] at same
    exact same
  wire := by
    obtain ⟨messages, grown, aside⟩ := frame.wire
    exact ⟨messages, grown, fun id _ => entriesOf_aside id aside⟩

theorem ofQuiet (quiet : Quiet first second) : Own output first second := ofFrame quiet.roles

theorem trans (one : Own output first second) (two : Own output second third) : Own output first third where
  args := two.args.trans one.args
  display := two.display.trans one.display
  surfaces := two.surfaces.trans one.surfaces
  nextOutput := two.nextOutput.trans one.nextOutput
  others id apart := (two.others id apart).trans (one.others id apart)
  link := two.link.trans one.link
  roles id := (two.roles id).trans (one.roles id)
  views id record present foreign := by
    have role := one.roles id
    rw [present, Option.map_some, Option.map_eq_some_iff] at role
    obtain ⟨middle, found, same⟩ := role
    exact (two.views id middle found (same ▸ foreign)).trans (one.views id record present foreign)
  wire := by
    obtain ⟨early, grown, earlyOwn⟩ := one.wire
    obtain ⟨late, grownAgain, lateOwn⟩ := two.wire
    refine ⟨early ++ late, by rw [grownAgain, grown, List.append_assoc], ?_⟩
    intro id apart
    rw [entriesOf_append, earlyOwn id apart, lateOwn id apart, List.append_nil]

theorem setOutput (scene : Scene) (output : OutputId) {change : SwaylockSurface → SwaylockSurface}
    (kept : ∀ record, (change record).pluginSurface = record.pluginSurface) :
    Own output scene (scene.setOutput output change) where
  args := rfl
  display := rfl
  surfaces := rfl
  nextOutput := rfl
  others _ apart := scene.outputCore_setOutput_other change apart
  link := by
    rw [Scene.outputCore, Scene.outputCore, Option.map_map, Option.map_map]
    exact scene.outputs.view_modify output change _ (fun record _ => kept record) output
  roles _ := rfl
  views _ _ _ _ := rfl
  wire := ⟨[], (List.append_nil _).symm, fun _ _ => rfl⟩

theorem setForward (scene : Scene) (output : OutputId) {id : SurfaceId} {record : ForwardSurface}
    {change : ForwardSurface → ForwardSurface} (present : scene.forwardSurfaces.cell id = some record)
    (role : record.swaySurface = some output) (kept : ∀ record, (change record).swaySurface = record.swaySurface) :
    Own output scene (scene.setForward id change) where
  args := rfl
  display := rfl
  surfaces := rfl
  nextOutput := rfl
  others _ _ := rfl
  link := rfl
  roles := scene.forwardSurfaces.view_modify id change _ fun record _ => kept record
  views other old found foreign := by
    apply scene.pluginView_setForward_other change
    rintro rfl
    rw [present] at found
    cases found
    exact foreign role
  wire := ⟨[], (List.append_nil _).symm, fun _ _ => rfl⟩

theorem sends (scene : Scene) (output : OutputId) {messages : List Message}
    (own : ∀ id, id ≠ output → entriesOf id messages = []) :
    Own output scene { scene with wire := scene.wire ++ messages } where
  args := rfl
  display := rfl
  surfaces := rfl
  nextOutput := rfl
  others _ _ := rfl
  link := rfl
  roles _ := rfl
  views _ _ _ _ := rfl
  wire := ⟨messages, rfl, own⟩

theorem requestAll (scene : Scene) (output : OutputId) (requests : List SurfaceRequest) :
    Own output scene (scene.requestAll (.lock output) requests) := by
  apply sends
  intro id apart
  apply List.filterMap_eq_nil_iff.mpr
  intro message member
  obtain ⟨request, _, rfl⟩ := List.mem_map.mp member
  exact if_neg (Ne.symm apart)

theorem tell (scene : Scene) (output : OutputId) {message : Message}
    (own : ∀ id, id ≠ output → message.entry id = none) : Own output scene (scene.tell message) := by
  apply sends
  intro id apart
  rw [entriesOf_cons, own id apart]
  rfl

theorem links (own : Own output first second) (present : (first.outputCore output).isSome = true)
    (guard : LinkGuard none first) : LinkGuard none second := by
  have link (id : OutputId) : (second.outputCore id).map OutputCore.pluginSurface =
      (first.outputCore id).map OutputCore.pluginSurface := by
    by_cases same : id = output
    · rw [same]
      exact own.link
    · rw [own.others id same]
  have old {id : OutputId} {core : OutputCore} (found : second.outputCore id = some core) :
      ∃ before, first.outputCore id = some before ∧ before.pluginSurface = core.pluginSurface := by
    have same := link id
    rw [found, Option.map_some] at same
    exact Option.map_eq_some_iff.mp same.symm
  constructor
  · rw [own.surfaces]
    exact guard.nodup
  · intro id
    have same := congrArg Option.isSome (link id)
    rw [Option.isSome_map, Option.isSome_map] at same
    rw [own.surfaces, same]
    exact guard.listed id
  · intro id core surface found shown linked
    obtain ⟨before, there, kept⟩ := old found
    obtain ⟨record, stands, role⟩ := guard.linked id before surface there shown (kept.trans linked)
    have same := own.roles surface
    rw [stands, Option.map_some, Option.map_eq_some_iff] at same
    obtain ⟨after, remains, kept⟩ := same
    exact ⟨after, remains, kept.trans role⟩
  · intro id surface record found role
    have same := own.roles surface
    rw [found, Option.map_some] at same
    obtain ⟨before, there, kept⟩ := Option.map_eq_some_iff.mp same.symm
    obtain ⟨shown, core, stands, linked⟩ := guard.served id surface before there (kept.trans role)
    have same := link id
    rw [stands, Option.map_some, Option.map_eq_some_iff] at same
    obtain ⟨after, remains, kept⟩ := same
    exact ⟨shown, after, remains, kept.trans linked⟩
  · intro id above
    rw [own.nextOutput] at above
    obtain ⟨messages, grown, foreign⟩ := own.wire
    have apart : id ≠ output := by
      rintro rfl
      rw [Scene.outputCore, first.outputs.unused id above] at present
      cases present
    rw [grown, entriesOf_append, foreign id apart, List.append_nil]
    exact guard.unnamed id above

theorem cycleView (own : Own output first second) (guard : LinkGuard none first) {id : OutputId}
    (apart : id ≠ output) : second.cycleView id = first.cycleView id := by
  obtain ⟨messages, grown, foreign⟩ := own.wire
  apply Scene.cycleView_congr own.display (own.others id apart)
  · intro surface link
    obtain ⟨core, present, linked⟩ := Option.bind_eq_some_iff.mp link
    obtain ⟨record, found, role⟩ := guard.linked id core surface present nofun linked
    apply own.views surface record found
    rw [role]
    exact fun same => apart (Option.some.inj same)
  · rw [grown, entriesOf_append, foreign id apart, List.append_nil]

theorem advances {meets : CycleView → CycleEvent → Prop} (own : Own output first second)
    (present : (first.outputCore output).isSome = true) (surfaces : SurfaceGuard first → SurfaceGuard second)
    (run : SceneGuard none first →
      ∃ events, (cycle.restrict meets).Run (first.cycleView output) events (second.cycleView output)) :
    Advances meets none first second := by
  intro guard
  refine ⟨by rw [own.args], fun down => own.display.trans down, ⟨own.links present guard.links,
    surfaces guard.surfaces⟩, ?_, fun _ same => (nomatch same)⟩
  intro id _
  by_cases same : id = output
  · rw [same]
    exact run guard
  · rw [own.cycleView guard.links same]
    exact ⟨[], .rest _⟩

end Own

end SwaylockPlugin
