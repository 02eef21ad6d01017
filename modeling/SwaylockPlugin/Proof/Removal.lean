import SwaylockPlugin.Proof.Lifetimes

namespace SwaylockPlugin

open Library

variable {meets : CycleView → CycleEvent → Prop}

/-- A surface whose output goes away has no role and is inert. -/
def ForwardSurface.closed (surface : ForwardSurface) : ForwardSurface :=
  { surface with swaySurface := none, inert := true }

/-- A scene hides an output when it is off the list and its plugin surface is closed. -/
structure Hides (id : OutputId) (output : SwaylockSurface) (first second : Scene) : Prop where
  args : second.args = first.args
  display : second.display = first.display
  surfaces : second.surfaces = first.surfaces.erase id
  outputs : second.outputs = first.outputs
  buffers : second.forwardBuffers = first.forwardBuffers
  nextSurface : second.forwardSurfaces.next = first.forwardSurfaces.next
  cell : ∀ surface, second.forwardSurfaces.cell surface =
    if output.pluginSurface = some surface then (first.forwardSurfaces.cell surface).map ForwardSurface.closed
    else first.forwardSurfaces.cell surface
  entries : ∀ other, entriesOf other second.wire = entriesOf other first.wire

theorem closePluginSurface_hides (scene : Scene) (id : OutputId) (output : SwaylockSurface) :
    Ensures (closePluginSurface { scene with surfaces := scene.surfaces.erase id } output.pluginSurface)
      (Hides id output scene) := by
  cases link : output.pluginSurface with
  | none =>
      apply Ensures.pure
      refine ⟨rfl, rfl, rfl, rfl, rfl, rfl, ?_, fun _ => rfl⟩
      intro surface
      rw [link, if_neg nofun]
  | some surface =>
      refine .read fun record _ => .pure ⟨rfl, rfl, rfl, rfl, rfl, rfl, ?_, ?_⟩
      · intro other
        change (scene.forwardSurfaces.modify surface ForwardSurface.closed).cell other = _
        rw [link, Heap.cell_modify]
        by_cases same : other = surface
        · rw [if_pos same, if_pos (congrArg some same.symm)]
        · rw [if_neg same, if_neg fun hit => same (Option.some.inj hit).symm]
      · intro other
        exact (entriesOf_append other scene.wire _).trans (List.append_nil _)

namespace Hides

variable {id : OutputId} {output : SwaylockSurface} {first second : Scene}

theorem outputCore (hides : Hides id output first second) (other : OutputId) :
    second.outputCore other = first.outputCore other := by
  rw [Scene.outputCore, hides.outputs]
  rfl

theorem cell_of_role (hides : Hides id output first second) {surface : SurfaceId} {record : ForwardSurface}
    {other : OutputId} (present : second.forwardSurfaces.cell surface = some record)
    (role : record.swaySurface = some other) :
    first.forwardSurfaces.cell surface = some record ∧ output.pluginSurface ≠ some surface := by
  rw [hides.cell] at present
  split at present
  · obtain ⟨old, _, rfl⟩ := Option.map_eq_some_iff.mp present
    cases role
  · rename_i apart
    exact ⟨present, apart⟩

theorem links (hides : Hides id output first second) (present : first.outputs.cell id = some output)
    (guard : LinkGuard none first) : LinkGuard (some id) second := by
  have core := Scene.outputCore_of_present present
  constructor
  · rw [hides.surfaces]
    exact guard.nodup.erase id
  · intro other
    rw [hides.surfaces, guard.nodup.mem_erase_iff, guard.listed other, hides.outputCore other]
    constructor
    · rintro ⟨apart, live, _⟩
      exact ⟨live, fun same => apart (Option.some.inj same)⟩
    · rintro ⟨live, apart⟩
      exact ⟨fun same => apart (congrArg some same), live, nofun⟩
  · intro other changed surface found shown linked
    rw [hides.outputCore] at found
    obtain ⟨record, there, role⟩ := guard.linked other changed surface found nofun linked
    have apart : output.pluginSurface ≠ some surface := by
      intro same
      obtain ⟨own, stands, ownRole⟩ := guard.linked id output.core surface core nofun same
      rw [there] at stands
      cases stands
      exact shown (role.symm.trans ownRole)
    refine ⟨record, ?_, role⟩
    rw [hides.cell, if_neg apart]
    exact there
  · intro other surface record found role
    obtain ⟨there, apart⟩ := hides.cell_of_role found role
    obtain ⟨_, before, stands, linked⟩ := guard.served other surface record there role
    refine ⟨?_, before, (hides.outputCore other).trans stands, linked⟩
    rintro same
    cases Option.some.inj same
    rw [core] at stands
    cases stands
    exact apart linked
  · intro other above
    rw [hides.entries]
    exact guard.unnamed other (hides.outputs ▸ above)

theorem surfacesGuarded (hides : Hides id output first second) (guard : SurfaceGuard first) : SurfaceGuard second := by
  have old {surface : SurfaceId} {record : ForwardSurface}
      (found : second.forwardSurfaces.cell surface = some record) :
      ∃ before, first.forwardSurfaces.cell surface = some before ∧ (record = before ∨ record = before.closed) := by
    rw [hides.cell] at found
    split at found
    · obtain ⟨before, there, rfl⟩ := Option.map_eq_some_iff.mp found
      exact ⟨before, there, .inr rfl⟩
    · exact ⟨record, found, .inl rfl⟩
  constructor
  · intro surface record found
    obtain ⟨before, there, rfl | rfl⟩ := old found
    · exact guard.records surface record there
    · have guarded := guard.records surface before there
      exact ⟨guarded.untouched, guarded.attached, guarded.sound⟩
  · rw [hides.buffers]
    exact guard.sized
  · rw [hides.buffers]
    intro buffer shows present surface member
    obtain ⟨below, drawn⟩ := guard.shown buffer shows present surface member
    refine ⟨hides.nextSurface ▸ below, ?_⟩
    intro record found
    obtain ⟨before, there, rfl | rfl⟩ := old found
    · exact drawn record there
    · exact drawn before there

theorem cycleView (hides : Hides id output first second) (present : first.outputs.cell id = some output)
    (guard : LinkGuard none first) {other : OutputId} (apart : other ≠ id) :
    second.cycleView other = first.cycleView other := by
  apply Scene.cycleView_congr hides.display (hides.outputCore other)
  · intro surface link
    obtain ⟨core, there, linked⟩ := Option.bind_eq_some_iff.mp link
    obtain ⟨record, found, role⟩ := guard.linked other core surface there nofun linked
    unfold Scene.pluginView
    rw [hides.cell, if_neg]
    intro same
    obtain ⟨own, stands, ownRole⟩ := guard.linked id output.core surface
      (Scene.outputCore_of_present present) nofun same
    rw [found] at stands
    cases stands
    exact apart (Option.some.inj (role.symm.trans ownRole))
  · exact hides.entries other

end Hides

section Free

variable {id : OutputId} {scene : Scene}

theorem outputCore_freed (scene : Scene) (id other : OutputId) :
    Scene.outputCore { scene with outputs := scene.outputs.free id } other =
      if other = id then none else scene.outputCore other := by
  change ((scene.outputs.free id).cell other).map SwaylockSurface.core = _
  rw [Heap.cell_free]
  split <;> rfl

theorem freed_links (guard : LinkGuard (some id) scene) :
    LinkGuard none { scene with outputs := scene.outputs.free id } := by
  constructor
  · exact guard.nodup
  · intro other
    rw [outputCore_freed]
    split
    · rename_i same
      subst same
      constructor
      · intro member
        exact absurd rfl ((guard.listed other).mp member).2
      · rintro ⟨live, _⟩
        cases live
    · rename_i apart
      constructor
      · intro member
        exact ⟨((guard.listed other).mp member).1, nofun⟩
      · rintro ⟨live, _⟩
        exact (guard.listed other).mpr ⟨live, fun same => apart (Option.some.inj same)⟩
  · intro other core surface present _ linked
    rw [outputCore_freed] at present
    split at present
    · cases present
    · rename_i apart
      exact guard.linked other core surface present (fun same => apart (Option.some.inj same)) linked
  · intro other surface record present role
    obtain ⟨shown, core, there, linked⟩ := guard.served other surface record present role
    refine ⟨nofun, core, ?_, linked⟩
    rw [outputCore_freed, if_neg fun same => shown (congrArg some same)]
    exact there
  · exact guard.unnamed

theorem freed_cycleView (scene : Scene) {other : OutputId} (apart : other ≠ id) :
    Scene.cycleView { scene with outputs := scene.outputs.free id } other = scene.cycleView other := by
  refine Scene.cycleView_congr rfl ?_ (fun _ _ => rfl) rfl
  rw [outputCore_freed, if_neg apart]

end Free

theorem destroyOutputClient_advances {hidden : Option OutputId} (lenient : Lenient meets) (scene : Scene)
    (env : Environment) (client : Option BgClientId) :
    Ensures (destroyOutputClient scene env client) (Advances meets hidden scene) := by
  cases client with
  | none => exact .pure (.refl scene)
  | some id =>
      refine .read fun record _ => ?_
      refine .via (Advances meets hidden scene) (wlClientDestroy_advances lenient scene record.client env.owned)
        fun next ended => ?_
      exact (cleanupClient_quiet next env id).weaken fun _ cleaned => ended.trans (Quiet.advances cleaned)

theorem destroySurface_advances (lenient : Lenient meets) (scene : Scene) (env : Environment) (id : OutputId) :
    Ensures (destroySurface scene env id) (Advances meets none scene) := by
  apply Advances.under
  intro guard
  refine .read fun output present => ?_
  refine (closePluginSurface_hides scene id output).bind fun closed hides => ?_
  refine .via (Advances meets (some id) closed) (destroyOutputClient_advances lenient closed env output.client)
    fun ended destroyed => .check fun _ => .pure fun _ => ?_
  have timer : Advances meets (some id) ended (ended.removeTimer? output.clientSubmissionTimer) :=
    Quiet.advances (.removeTimer? ended output.clientSubmissionTimer)
  have advanced := destroyed.trans timer
    ⟨hides.links present guard.links, hides.surfacesGuarded guard.surfaces⟩
  obtain ⟨display, entries⟩ := advanced.still id rfl
  have gone := advanced.guard
  refine ⟨advanced.grace.trans (by rw [hides.args]), ?_, ⟨freed_links gone.links, gone.surfaces.records,
    gone.surfaces.sized, gone.surfaces.shown⟩, ?_, fun _ same => (nomatch same)⟩
  · exact fun down => advanced.down (hides.display.trans down)
  · intro other _
    by_cases same : other = id
    · subst same
      have after : Scene.cycleView { ended.removeTimer? output.clientSubmissionTimer with
          outputs := (ended.removeTimer? output.clientSubmissionTimer).outputs.free other } other =
          { scene.cycleView other with output := none, plugin := none } := by
        unfold Scene.cycleView
        rw [outputCore_freed, if_pos rfl]
        dsimp only
        rw [display, entries, hides.display, hides.entries]
        rfl
      rw [after]
      exact ⟨[.vanish], .single ⟨.vanish, lenient.minor _ _ rfl⟩⟩
    · rw [freed_cycleView _ same, ← hides.cycleView present guard.links same]
      exact advanced.runs other fun hit => same (Option.some.inj hit)

theorem handleGlobalRemove_advances (lenient : Lenient meets) (scene : Scene) (env : Environment) (name : UInt32) :
    Ensures (handleGlobalRemove scene env name) (Advances meets none scene) := by
  unfold handleGlobalRemove
  split
  · exact .pure (.refl scene)
  · exact destroySurface_advances lenient scene env _

end SwaylockPlugin
