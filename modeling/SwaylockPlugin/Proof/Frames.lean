import SwaylockPlugin.Abstract.Presentation
import SwaylockPlugin.Proof.Parts
import SwaylockPlugin.Proof.SceneSteps

namespace SwaylockPlugin

open Library

/-- The stall record of an output is a part of it. -/
def SwaylockSurface.frameRecord (output : SwaylockSurface) : FrameRecord :=
  ⟨output.framePending, output.framePendingSince, output.frameLastDone⟩

/-- A scene shows its presentation where the times of the outstanding requests are known. -/
def Scene.frameView (scene : Scene) (times : CallbackId → Timespec) : FrameView where
  listed := scene.surfaces
  records output := (scene.outputs.cell output).map SwaylockSurface.frameRecord
  bound := scene.outputs.next
  requests callbacks := (scene.frameCallbacks.cell callbacks).map fun record =>
    ⟨record.swaySurface, times callbacks⟩
  fresh := scene.frameCallbacks.next

/-- A commit asks for a frame on the upstream surface that it is forwarded to first. -/
def frameTarget (scene : Scene) : Event → Option Target
  | .scene (.request _ (.surface id .commit)) => (scene.forwardSurfaces.cell id).bind fun surface =>
      if surface.subsurfaceParent.isSome then some (.ext id) else surface.swaySurface.map Target.lock
  | _ => none

/-- A frame request is noted with its time and the upstream surface on which it is made. -/
structure FrameNote where
  time : Timespec
  target : Option Target

/-- An observer notes when and on which upstream surface each frame was requested. -/
def frameNotes (notes : CallbackId → FrameNote) (state : SwaylockState) (occurrence : Occurrence) :
    CallbackId → FrameNote := fun callbacks =>
  if callbacks < state.scene.frameCallbacks.next then notes callbacks
  else ⟨state.scene.clock, frameTarget state.scene occurrence.event⟩

/-- Before any request nothing is noted. -/
def noFrames : CallbackId → FrameNote := fun _ => ⟨⟨0, 0⟩, none⟩

/-- These effects change the presentation of a scene. -/
abbrev frameViewEffects : List Effect := [.output .presented, .addOutput, .removeOutput, .await]

/-- Two scenes with the same clock show the same presentation. -/
structure SameFrames (first second : Scene) : Prop where
  clock : second.clock = first.clock
  view : ∀ times, second.frameView times = first.frameView times

namespace SameFrames

variable {first second third : Scene}

theorem refl (scene : Scene) : SameFrames scene scene := ⟨rfl, fun _ => rfl⟩

theorem trans (one : SameFrames first second) (two : SameFrames second third) : SameFrames first third :=
  ⟨two.clock.trans one.clock, fun times => (two.view times).trans (one.view times)⟩

theorem of_change {effect : Effect} (change : Change first effect second) (apart : effect ∉ frameViewEffects) :
    SameFrames first second := by
  cases change with
  | output id kept =>
      rename_i group change
      have same (output : SwaylockSurface) : (change output).frameRecord = output.frameRecord := by
        have masked := congrArg SwaylockSurface.frameRecord (kept output)
        cases group with
        | presented => simp at apart
        | _ => exact masked
      refine ⟨rfl, fun times => ?_⟩
      have records : (fun output => ((first.outputs.modify id change).cell output).map SwaylockSurface.frameRecord) =
          fun output => (first.outputs.cell output).map SwaylockSurface.frameRecord :=
        funext fun output => first.outputs.view_modify id change _ (fun record _ => same record) output
      exact congrArg (fun records => { first.frameView times with records := records }) records
  | callbacks kept =>
      rename_i change
      refine ⟨rfl, fun times => ?_⟩
      have requests : (fun callbacks => ((first.frameCallbacks.mapAll change).cell callbacks).map fun record =>
          (⟨record.swaySurface, times callbacks⟩ : FrameRequest)) = fun callbacks =>
          (first.frameCallbacks.cell callbacks).map fun record => ⟨record.swaySurface, times callbacks⟩ := by
        funext callbacks
        rw [Heap.cell_mapAll, Option.map_map]
        congr 1
        funext record
        exact congrArg (fun output => (⟨output, times callbacks⟩ : FrameRequest)) (kept callbacks record)
      exact congrArg (fun requests => { first.frameView times with requests := requests }) requests
  | addOutput | delistOutput | freeOutput | await => simp at apart
  | _ => exact ⟨rfl, fun _ => rfl⟩

theorem of_changes {effects : List Effect} (changes : Changes effects first second)
    (apart : ∀ effect ∈ effects, effect ∉ frameViewEffects) : SameFrames first second := by
  induction changes with
  | refl => exact refl first
  | step _ listed change ih => exact ih.trans (of_change change (apart _ listed))

theorem of_retimed (kept : Retimed first second) : SameFrames first second := by
  obtain ⟨_, _, _, rfl⟩ := kept
  exact ⟨rfl, fun _ => rfl⟩

theorem of_indicated (indicated : Indicated first second) : SameFrames first second := by
  obtain ⟨start, stop, early, draws, late⟩ := indicated
  exact ((of_retimed early).trans (of_changes draws.changes (by simp))).trans (of_retimed late)

end SameFrames

theorem Changes.sameFrames {scene : Scene} {effects : List Effect} {computation : Handled Scene}
    (covered : Ensures computation (Changes effects scene)) (apart : ∀ effect ∈ effects, effect ∉ frameViewEffects) :
    Ensures computation (SameFrames scene) :=
  covered.weaken fun _ changes => .of_changes changes apart

/-- A surface asks for a frame for its output where it has frame callbacks, and none is left. -/
structure Asks (id : SurfaceId) (surface : ForwardSurface) (first second : Scene) : Prop where
  clock : second.clock = first.clock
  before : first.forwardSurfaces.cell id = some surface
  asked : surface.frameCallbacks = [] ∧ (∀ times, second.frameView times = first.frameView times) ∨
    surface.frameCallbacks ≠ [] ∧ ∀ times, times first.frameCallbacks.next = first.clock →
      FrameView.Step (first.frameView times) (.requested ⟨surface.swaySurface, first.clock⟩) (second.frameView times)
  after : ∃ later, second.forwardSurfaces.cell id = some later ∧ later.frameCallbacks = []

section Views

variable {scene : Scene} (times : CallbackId → Timespec)

theorem frameView_setOutput (name : OutputId) {change : SwaylockSurface → SwaylockSurface}
    {shown : FrameRecord → FrameRecord} (follows : ∀ output, (change output).frameRecord = shown output.frameRecord) :
    (scene.setOutput name change).frameView times = (scene.frameView times).change shown (some name) := by
  have records : (fun output => ((scene.outputs.modify name change).cell output).map SwaylockSurface.frameRecord) =
      Function.update (scene.frameView times).records name (((scene.frameView times).records name).map shown) := by
    funext output
    by_cases same : output = name
    · rw [same, Heap.cell_modify_self, Function.update_self]
      change _ = ((scene.outputs.cell name).map SwaylockSurface.frameRecord).map shown
      rw [Option.map_map, Option.map_map]
      congr 1
      funext record
      exact follows record
    · rw [Heap.cell_modify_other _ _ same, Function.update_of_ne same]
      rfl
  exact congrArg (fun records => { scene.frameView times with records := records }) records

theorem frameView_alloc (record : FrameCallbacks) :
    ({ scene with frameCallbacks := scene.frameCallbacks.alloc record } : Scene).frameView times =
      { scene.frameView times with
        requests := Function.update (scene.frameView times).requests scene.frameCallbacks.next
          (some ⟨record.swaySurface, times scene.frameCallbacks.next⟩)
        fresh := scene.frameCallbacks.next + 1 } := by
  have requests : (fun callbacks => ((scene.frameCallbacks.alloc record).cell callbacks).map fun record =>
      FrameRequest.mk record.swaySurface (times callbacks)) =
      Function.update (scene.frameView times).requests scene.frameCallbacks.next
        (some ⟨record.swaySurface, times scene.frameCallbacks.next⟩) := by
    funext other
    by_cases same : other = scene.frameCallbacks.next
    · rw [same, Heap.cell_alloc_next, Function.update_self, Option.map_some]
    · rw [Heap.cell_alloc, if_neg same, Function.update_of_ne same]
      rfl
  exact congrArg (fun requests => { scene.frameView times with
    requests := requests, fresh := scene.frameCallbacks.next + 1 }) requests

theorem frameView_free (done : CallbackId) :
    ({ scene with frameCallbacks := scene.frameCallbacks.free done } : Scene).frameView times =
      { scene.frameView times with requests := Function.update (scene.frameView times).requests done none } := by
  have requests : (fun callbacks => ((scene.frameCallbacks.free done).cell callbacks).map fun record =>
      FrameRequest.mk record.swaySurface (times callbacks)) =
      Function.update (scene.frameView times).requests done none := by
    funext other
    by_cases same : other = done
    · rw [same, Heap.cell_free_self, Function.update_self, Option.map_none]
    · rw [Heap.cell_free_other _ same, Function.update_of_ne same]
      rfl
  exact congrArg (fun requests => { scene.frameView times with requests := requests }) requests

theorem frameView_remove {first last : Scene} (id : OutputId) (between : SameFrames
    { first with surfaces := first.surfaces.erase id } last) :
    ({ last with outputs := last.outputs.free id } : Scene).frameView times = (first.frameView times).remove id := by
  have records : (fun output => ((last.outputs.free id).cell output).map SwaylockSurface.frameRecord) =
      Function.update (last.frameView times).records id none := by
    funext output
    by_cases same : output = id
    · rw [same, Heap.cell_free_self, Function.update_self, Option.map_none]
    · rw [Heap.cell_free_other _ same, Function.update_of_ne same]
      rfl
  have freed : ({ last with outputs := last.outputs.free id } : Scene).frameView times =
      { last.frameView times with records := Function.update (last.frameView times).records id none } :=
    congrArg (fun records => { last.frameView times with records := records }) records
  rw [freed, between.view times]
  rfl

end Views

variable {scene : Scene}

theorem startFramePending_view (output : Option OutputId) :
    Ensures (startFramePending scene output) fun next => next.clock = scene.clock ∧
      next.frameCallbacks = scene.frameCallbacks ∧ next.forwardSurfaces = scene.forwardSurfaces ∧
      (∀ name, output = some name → (scene.outputs.cell name).isSome = true) ∧
      ∀ times, next.frameView times = (scene.frameView times).change (.start scene.clock) output := by
  cases output with
  | none => exact .pure ⟨rfl, rfl, rfl, nofun, fun _ => rfl⟩
  | some name =>
      refine .read fun record present => ?_
      have live : ∀ other, some name = some other → (scene.outputs.cell other).isSome = true := by
        rintro _ ⟨⟩
        rw [present]
        rfl
      split
      · rename_i pending
        refine .pure ⟨rfl, rfl, rfl, live, fun times => ?_⟩
        have there : (scene.frameView times).records name = some record.frameRecord := by
          simp only [Scene.frameView, present, Option.map_some]
        have same : record.frameRecord.start scene.clock = record.frameRecord := if_pos pending
        exact (FrameView.change_fixed there same).symm
      · rename_i rests
        refine .pure ⟨rfl, rfl, rfl, live, fun times => ?_⟩
        have started : (scene.setOutput name fun output => { output with
            framePending := true, framePendingSince := scene.clock }).frameView times = _ :=
          @frameView_setOutput scene times name _ (fun record => { record with pending := true, since := scene.clock })
            fun _ => rfl
        have there : (scene.frameView times).records name = some record.frameRecord := by
          simp only [Scene.frameView, present, Option.map_some]
        have same : record.frameRecord.start scene.clock =
            { record.frameRecord with pending := true, since := scene.clock } := if_neg rests
        exact started.trans (FrameView.change_congr there same.symm)

theorem applyFrameCallbacks_asks (id : SurfaceId) (target : Target) :
    Ensures (applyFrameCallbacks scene id target) fun next => ∃ surface, Asks id surface scene next := by
  refine .read fun surface present => ?_
  split
  · rename_i empty
    have none_ : surface.frameCallbacks = [] := by simpa using empty
    exact .pure ⟨surface, rfl, present, .inl ⟨none_, fun _ => rfl⟩, surface, present, none_⟩
  · rename_i asking
    refine (startFramePending_view surface.swaySurface).bind fun started view => .pure ⟨surface, ?_⟩
    obtain ⟨clock, callbacks, forward, live, view⟩ := view
    refine ⟨clock, present, .inr ⟨by simpa using asking, fun times now => ?_⟩, ?_⟩
    · have next : started.frameCallbacks.next = scene.frameCallbacks.next := by rw [callbacks]; rfl
      have startedView : started.frameView times =
          (scene.frameView times).change (.start scene.clock) surface.swaySurface := view times
      have rest := @FrameView.change_rest (scene.frameView times) (.start scene.clock) surface.swaySurface
      have waiting := @frameView_alloc started times ⟨surface.frameCallbacks, surface.swaySurface⟩
      rw [next, now, startedView, rest.2.2.1] at waiting
      have requested : FrameView.Step (scene.frameView times) (.requested ⟨surface.swaySurface, scene.clock⟩)
          (({ started with frameCallbacks :=
            started.frameCallbacks.alloc ⟨surface.frameCallbacks, surface.swaySurface⟩ } : Scene).frameView times) := by
        rw [waiting]
        refine .requested _ _ fun output named => ?_
        change ((scene.outputs.cell output).map _).isSome = true
        rw [Option.isSome_map]
        exact live output named
      exact requested
    · refine ⟨{ surface with frameCallbacks := [] }, ?_, rfl⟩
      change (started.forwardSurfaces.modify id _).cell id = _
      rw [Heap.cell_modify_self, forward]
      change (scene.forwardSurfaces.cell id).map _ = _
      rw [present, Option.map_some]

/-- A surface asks for frames by its frame callbacks and for its output. -/
def ForwardSurface.asking (surface : ForwardSurface) : List ResourceId × Option OutputId :=
  (surface.frameCallbacks, surface.swaySurface)

/-- The presentation and what every surface asks for are kept. -/
structure KeepsAsking (first second : Scene) : Prop where
  frames : SameFrames first second
  asking : ∀ id, (second.forwardSurfaces.cell id).map ForwardSurface.asking =
    (first.forwardSurfaces.cell id).map ForwardSurface.asking

namespace KeepsAsking

variable {first second third : Scene}

theorem trans (one : KeepsAsking first second) (two : KeepsAsking second third) : KeepsAsking first third :=
  ⟨one.frames.trans two.frames, fun id => (two.asking id).trans (one.asking id)⟩

theorem of_changes {effects : List Effect} (changes : Changes effects first second)
    (apart : ∀ effect ∈ effects, effect ∉ frameViewEffects ++
      [.surface .frames, .surface .assigned, .createSurface, .freeSurface]) : KeepsAsking first second where
  frames := .of_changes changes fun effect listed member => apart effect listed (List.mem_append_left _ member)
  asking := by
    refine (changes.surfaces ForwardSurface.asking (fun group listed record => ?_) ?_ ?_).1
    · cases group with
      | frames | assigned => exact absurd (by simp) (apart _ listed)
      | _ => rfl
    · exact fun listed => apart _ listed (by simp)
    · exact fun listed => apart _ listed (by simp)

theorem old (kept : KeepsAsking first second) {id : SurfaceId} {later : ForwardSurface}
    (present : second.forwardSurfaces.cell id = some later) :
    ∃ surface, first.forwardSurfaces.cell id = some surface ∧ later.asking = surface.asking := by
  have same := kept.asking id
  rw [present, Option.map_some] at same
  obtain ⟨surface, there, asks⟩ := Option.map_eq_some_iff.mp same.symm
  exact ⟨surface, there, asks.symm⟩

theorem new (kept : KeepsAsking first second) {id : SurfaceId} {surface : ForwardSurface}
    (present : first.forwardSurfaces.cell id = some surface) :
    ∃ later, second.forwardSurfaces.cell id = some later ∧ later.asking = surface.asking := by
  have same := kept.asking id
  rw [present, Option.map_some] at same
  exact Option.map_eq_some_iff.mp same

end KeepsAsking

theorem Asks.between {first middle asked last : Scene} {id : SurfaceId} {record : ForwardSurface}
    (before : KeepsAsking first middle) (asks : Asks id record middle asked) (after : KeepsAsking asked last) :
    ∃ surface, Asks id surface first last := by
  obtain ⟨surface, present, same⟩ := before.old asks.before
  have callbacks : record.frameCallbacks = surface.frameCallbacks := congrArg Prod.fst same
  have output : record.swaySurface = surface.swaySurface := congrArg Prod.snd same
  have clock : middle.clock = first.clock := before.frames.clock
  have next : middle.frameCallbacks.next = first.frameCallbacks.next :=
    congrArg FrameView.fresh (before.frames.view fun _ => first.clock)
  refine ⟨surface, after.frames.clock.trans (asks.clock.trans clock), present, ?_, ?_⟩
  · rcases asks.asked with ⟨none_, view⟩ | ⟨some_, step⟩
    · refine .inl ⟨callbacks ▸ none_, fun times => ?_⟩
      rw [after.frames.view, view, before.frames.view]
    · refine .inr ⟨callbacks ▸ some_, fun times now => ?_⟩
      have moved := step times (by rw [next, clock]; exact now)
      rw [output, clock, before.frames.view] at moved
      rw [after.frames.view]
      exact moved
  · obtain ⟨later, there, empty⟩ := asks.after
    obtain ⟨final, found, kept⟩ := after.new there
    exact ⟨final, found, (congrArg Prod.fst kept).trans empty⟩

theorem Updated.asks {id : SurfaceId} {target : Target} {first last : Scene} (updated : Updated id target first last) :
    ∃ surface, Asks id surface first last := by
  obtain ⟨looked, attached, damaged, stacked, framed, applied, after⟩ := updated
  have look : KeepsAsking first looked := .of_changes applied.look (by simp)
  have attachment : KeepsAsking looked attached :=
    .of_changes (applyAttachment_changes id target attached applied.attachment) (by simp)
  have damage : KeepsAsking attached damaged := .of_changes applied.damage (by simp)
  have stacking : KeepsAsking damaged stacked :=
    .of_changes (applySubsurfaces_changes id target stacked applied.stacking) (by simp)
  obtain ⟨surface, asks⟩ := applyFrameCallbacks_asks id target framed applied.frames
  exact asks.between (((look.trans attachment).trans damage).trans stacking) (.of_changes after (by simp))

theorem nestedSurfaceCommit_asks (id : SurfaceId) :
    Ensures (nestedSurfaceCommit scene id) fun result => ∃ surface, scene.forwardSurfaces.cell id = some surface ∧
      result.1.clock = scene.clock ∧ ((∀ times, result.1.frameView times = scene.frameView times) ∨
        surface.frameCallbacks ≠ [] ∧ ∀ times, times scene.frameCallbacks.next = scene.clock →
          FrameView.Step (scene.frameView times) (.requested ⟨surface.swaySurface, scene.clock⟩)
            (result.1.frameView times)) := by
  refine (nestedSurfaceCommit_parts id).weaken fun result parts => ?_
  obtain ⟨surface, current, middle, commits⟩ := parts
  have plain {first last : Scene} (changes : Changes plainEffects first last) : SameFrames first last :=
    .of_changes changes (by simp)
  refine ⟨surface, commits.before, ?_⟩
  rcases commits.nested with ⟨_, rfl⟩ | ⟨_, _, nested⟩
  · rcases commits.layer with ⟨_, changes⟩ | ⟨_, output, _, layer⟩
    · exact ⟨(plain changes).clock, .inl (plain changes).view⟩
    · obtain ⟨record, asks⟩ := layer.asks
      cases asks.before.symm.trans commits.before
      exact ⟨asks.clock, asks.asked.imp_left And.right⟩
  · obtain ⟨record, asks⟩ := nested.asks
    cases asks.before.symm.trans commits.before
    have later : SameFrames middle result.1 := by
      rcases commits.layer with ⟨_, changes⟩ | ⟨_, output, _, layer⟩
      · exact plain changes
      · obtain ⟨record, again⟩ := layer.asks
        obtain ⟨left, there, empty⟩ := asks.after
        cases again.before.symm.trans there
        rcases again.asked with ⟨_, view⟩ | ⟨more, _⟩
        · exact ⟨again.clock, view⟩
        · exact absurd empty more
    refine ⟨later.clock.trans asks.clock, ?_⟩
    rcases asks.asked with ⟨_, view⟩ | ⟨some_, step⟩
    · exact .inl fun times => (later.view times).trans (view times)
    · refine .inr ⟨some_, fun times now => ?_⟩
      rw [later.view]
      exact step times now

theorem destroySurface_view (env : Environment) (id : OutputId) :
    Ensures (destroySurface scene env id) fun next => ∀ times,
      next.frameView times = (scene.frameView times).remove id := by
  refine .read fun output _ => ?_
  refine (closePluginSurface_changes output.pluginSurface).bind fun closed closing => ?_
  refine (destroyOutputClient_changes env output.client).bind fun emptied emptying => .check fun _ => .pure fun times => ?_
  have between : SameFrames { scene with surfaces := scene.surfaces.erase id }
      (emptied.removeTimer? output.clientSubmissionTimer) :=
    ((SameFrames.of_changes closing (by simp)).trans (.of_changes emptying (by simp))).trans
      (.of_retimed (.removeTimer? emptied output.clientSubmissionTimer))
  exact frameView_remove times id between

theorem markPresented_view (env : Environment) (output : Option OutputId) :
    Ensures (markPresented scene env output) fun next => next.frameCallbacks = scene.frameCallbacks ∧
      ∀ times, next.frameView times = (scene.frameView times).change (.finish scene.clock) output := by
  cases output with
  | none => exact .pure ⟨rfl, fun _ => rfl⟩
  | some id =>
      refine .read fun _ _ => .read fun record _ => .pure ?_
      have resumed : Changes [.client] (scene.setOutput id fun output =>
          { output with framePending := false, frameLastDone := scene.clock }) _ :=
        resumeClientForSurface_changes env record
      refine ⟨resumed.callbacks (by simp) (by simp), fun times => ?_⟩
      rw [(SameFrames.of_changes resumed (by simp)).view]
      exact frameView_setOutput times id fun _ => rfl

theorem bgFrameHandleDone_view (env : Environment) (id : CallbackId) :
    Ensures (bgFrameHandleDone scene env id) fun next => ∃ record, scene.frameCallbacks.cell id = some record ∧
      ∀ times, next.frameView times = (scene.frameView times).complete id record.swaySurface scene.clock := by
  refine .read fun record present => (markPresented_view env record.swaySurface).bind fun presented view => ?_
  obtain ⟨callbacks, view⟩ := view
  have completes (state : Scene) (callback : ResourceId) :
      Changes [.done, .resource] state (completeCallback state callback) := by
    have told : Changes [.done, .resource] state (state.tell (.plugin (.callbackDone callback))) :=
      .tell state _ (by simp [Message.effect])
    exact told.trans (.destroyResource _ callback (by simp))
  have completed : SameFrames presented (record.list.foldl completeCallback presented) :=
    .of_changes (Changes.foldl completes record.list presented) (by simp)
  refine .pure ⟨record, present, fun times => ?_⟩
  rw [frameView_free, completed.view, view times, (FrameView.change_rest _ _).2.2.1]
  rfl

theorem RequestStep.sameFrames {client : WlClientId} {request : Request} {next : Scene}
    (step : RequestStep scene client request next) :
    (∃ id outcome, request = .surface id .commit ∧ nestedSurfaceCommit scene id = .ok (next, outcome)) ∨
      SameFrames scene next := by
  cases step with
  | committed _ handled => exact .inl ⟨_, _, rfl, handled⟩
  | plain changes => exact .inr (.of_changes changes (by simp))
  | bound => exact .inr (.of_changes (Allotted.bound _ client _).changes (by simp))
  | layered layered => exact .inr (.of_changes layered.allotted.changes (by simp))
  | surface version => exact .inr ⟨rfl, fun _ => rfl⟩
  | buffer width height => exact .inr ⟨rfl, fun _ => rfl⟩
  | attached _ _ handled => exact .inr (.of_changes (nestedSurfaceAttach_changes _ _ next handled) (by simp))
  | framed id => exact .inr (.of_changes (nestedSurfaceFrame_changes client id) (by simp))
  | parented _ _ handled => exact .inr (.of_changes (subcompositorGetSubsurface_changes client _ _ next handled) (by simp))
  | extended _ extended => exact .inr (.of_changes extended.changes (by simp))
  | placedAbove _ _ handled => exact .inr (.of_changes (nestedSubsurfacePlaceAbove_changes client _ _ next handled) (by simp))
  | placedBelow _ _ handled => exact .inr (.of_changes (nestedSubsurfacePlaceBelow_changes client _ _ next handled) (by simp))
  | destroyed _ before handled =>
      exact .inr ((SameFrames.of_changes before (by simp)).trans
        (.of_changes (destroyOwned_changes _ next handled) (by simp)))

/-- An event of the program shows as an event of the presentation. -/
inductive Shows (scene : Scene) : Event → FrameEvent → Prop
  | added (name : UInt32) : Shows scene (.scene (.outputAdded name)) .added
  | removed {name : UInt32} {id : OutputId}
      (found : scene.surfaces.find? (fun id => scene.outputIs id fun output => output.outputGlobalName == name) =
        some id) : Shows scene (.scene (.outputRemoved name)) (.removed id)
  | requested (client : WlClientId) {id : SurfaceId} {surface : ForwardSurface}
      (present : scene.forwardSurfaces.cell id = some surface) (asks : surface.frameCallbacks ≠ []) :
      Shows scene (.scene (.request client (.surface id .commit))) (.requested ⟨surface.swaySurface, scene.clock⟩)
  | completed (id : CallbackId) : Shows scene (.scene (.backgroundFrameDone id)) (.completed id scene.clock)

/-- An event keeps the presentation or takes the step of it that it shows as. -/
def FrameStep (scene : Scene) (times : CallbackId → Timespec) (event : Event) (next : Scene) : Prop :=
  next.frameView times = scene.frameView times ∨
    ∃ shown, Shows scene event shown ∧ FrameView.Step (scene.frameView times) shown (next.frameView times)

theorem handleScene_frameStep {times : CallbackId → Timespec} (now : times scene.frameCallbacks.next = scene.clock)
    (env : Environment) (runDisplay : Bool) (event : SceneEvent) :
    Ensures (handleScene scene env runDisplay event) (FrameStep scene times (.scene event)) := by
  have still {effects : List Effect} {computation : Handled Scene} (covered : Ensures computation (Changes effects scene))
      (apart : ∀ effect ∈ effects, effect ∉ frameViewEffects) :
      Ensures computation (FrameStep scene times (.scene event)) :=
    (Changes.sameFrames covered apart).weaken fun _ same => .inl (same.view times)
  cases event with
  | configure output serial width height =>
      exact still (extSessionLockSurfaceV1HandleConfigure_changes env output serial width height) (by simp)
  | outputAdded name =>
      refine .pure (.inr ⟨.added, .added name, ?_⟩)
      have records : (fun output => ((scene.outputs.alloc (.allocated name scene.globals.colorManagement)).cell output).map
          SwaylockSurface.frameRecord) = Function.update (scene.frameView times).records scene.outputs.next
            (some .blank) := by
        funext output
        by_cases same : output = scene.outputs.next
        · rw [same, Heap.cell_alloc_next, Function.update_self]
          rfl
        · rw [Heap.cell_alloc, if_neg same, Function.update_of_ne same]
          rfl
      have added : (handleGlobalOutput scene name).frameView times = (scene.frameView times).add :=
        congrArg (fun records => { scene.frameView times with
          listed := scene.outputs.next :: scene.surfaces, records := records, bound := scene.outputs.next + 1 }) records
      rw [added]
      exact .added _
  | outputRemoved name =>
      change Ensures (handleGlobalRemove scene env name) _
      unfold handleGlobalRemove
      split
      · exact .pure (.inl rfl)
      · rename_i id found
        refine (destroySurface_view env id).weaken fun next view => .inr ⟨.removed id, .removed found, ?_⟩
        rw [view times]
        exact .removed _ id
  | outputGeometry output => exact still (handleWlOutputGeometry_changes runDisplay output) (by simp)
  | outputScale output factor => exact still (handleWlOutputScale_changes runDisplay output factor) (by simp)
  | outputDone output => exact still (handleWlOutputDone_changes env runDisplay output) (by simp)
  | outputDescReady output => exact still (handleOutputDescReady_changes env runDisplay output) (by simp)
  | preferredScale output scale => exact still (fractScalePreferredScale_changes output scale) (by simp)
  | frameDone output => exact still (surfaceFrameHandleDone_changes output) (by simp)
  | backgroundFrameDone callbacks =>
      refine (bgFrameHandleDone_view env callbacks).weaken fun next done => ?_
      obtain ⟨record, present, view⟩ := done
      refine .inr ⟨.completed callbacks scene.clock, .completed callbacks, ?_⟩
      have outstanding : (scene.frameView times).requests callbacks = some ⟨record.swaySurface, times callbacks⟩ := by
        simp only [Scene.frameView, present, Option.map_some]
      rw [view times]
      exact .completed _ scene.clock outstanding
  | request client request =>
      refine (handleRequest_step client request).weaken fun next step => ?_
      rcases step.sameFrames with ⟨id, outcome, rfl, handled⟩ | same
      · obtain ⟨surface, present, _, view | ⟨asks, moved⟩⟩ := nestedSurfaceCommit_asks id _ handled
        · exact .inl (view times)
        · exact .inr ⟨_, .requested client present asks, moved times now⟩
      · exact .inl (same.view times)
  | clientGone client => exact still (clientGone_changes env client) (by simp)
  | nestedDispatched => exact .pure (.inl ((SameFrames.of_changes (afterDispatchNested_changes env) (by simp)).view times))

theorem frameStep_of_step {state next : SwaylockState} {occurrence : Occurrence} {times : CallbackId → Timespec}
    (moved : swaylock.machine.step state occurrence next)
    (now : times state.scene.frameCallbacks.next = state.scene.clock) :
    FrameStep state.scene times occurrence.event next.scene := by
  have step := sceneStep_of_step moved
  obtain ⟨event, env⟩ := occurrence
  have still {last : Scene} (same : SameFrames state.scene last) : FrameStep state.scene times event last :=
    .inl (same.view times)
  generalize next.scene = last at step
  cases step with
  | tick now => exact .inl rfl
  | scene _ handled => exact handleScene_frameStep now env state.runDisplay _ last handled
  | hiddenCheck _ kept =>
      exact still ((SameFrames.of_changes (hiddenCheckTimeout_changes env) (by simp)).trans (.of_retimed kept))
  | connectionTimeout _ handled kept =>
      have same := Changes.sameFrames (clientConnectionTimeout_changes env _) (by simp) _ handled
      exact still (same.trans (.of_retimed kept))
  | redrawTimeout _ handled kept =>
      have same := Changes.sameFrames (outputRedrawTimeout_changes env _) (by simp) _ handled
      exact still (same.trans (.of_retimed kept))
  | start kept creates runs =>
      have created := Changes.sameFrames (createSurfaces_changes env) (by simp) _ creates
      have started := Changes.sameFrames (startMainPlugin_changes env) (by simp) _ runs
      exact still (((SameFrames.of_retimed kept).trans created).trans started)
  | armHiddenCheck => exact still (.of_changes armHiddenCheck_changes (by simp))
  | resume => exact still (.of_changes (resumeAllClients_changes env) (by simp))
  | indicated indicated => exact still (.of_indicated indicated)

theorem frameView_times {times other : CallbackId → Timespec}
    (same : ∀ callbacks, callbacks < scene.frameCallbacks.next → times callbacks = other callbacks) :
    scene.frameView times = scene.frameView other := by
  have requests : (fun callbacks => (scene.frameCallbacks.cell callbacks).map fun record =>
      FrameRequest.mk record.swaySurface (times callbacks)) =
      fun callbacks => (scene.frameCallbacks.cell callbacks).map fun record =>
        FrameRequest.mk record.swaySurface (other callbacks) := by
    funext callbacks
    cases present : scene.frameCallbacks.cell callbacks with
    | none => rfl
    | some record => rw [same callbacks (scene.frameCallbacks.live_below present)]
  exact congrArg (fun requests => { scene.frameView other with requests := requests }) requests

/-- The noted times show the presentation. -/
def noted (scene : Scene) (notes : CallbackId → FrameNote) : FrameView := scene.frameView fun id => (notes id).time

theorem frameStep_noted {state next : SwaylockState} {occurrence : Occurrence} (notes : CallbackId → FrameNote)
    (moved : swaylock.machine.step state occurrence next) :
    noted next.scene (frameNotes notes state occurrence) = noted state.scene notes ∨
      ∃ shown, Shows state.scene occurrence.event shown ∧
        FrameView.Step (noted state.scene notes) shown (noted next.scene (frameNotes notes state occurrence)) := by
  have now : (frameNotes notes state occurrence state.scene.frameCallbacks.next).time = state.scene.clock := by
    unfold frameNotes
    rw [if_neg (Nat.lt_irrefl _)]
  have same : state.scene.frameView (fun id => (frameNotes notes state occurrence id).time) = noted state.scene notes := by
    refine frameView_times fun callbacks below => ?_
    unfold frameNotes
    rw [if_pos below]
  have step := @frameStep_of_step _ _ _ (fun id => (frameNotes notes state occurrence id).time) moved now
  unfold FrameStep at step
  rw [same] at step
  exact step

theorem noted_initial {state : SwaylockState} (initial : InitialState state) (notes : CallbackId → FrameNote) :
    noted state.scene notes = .empty := by
  have outputs : state.scene.outputs = .empty := initial.outputs.1
  have listed : state.scene.surfaces = [] := initial.outputs.2
  have callbacks : state.scene.frameCallbacks = .empty := initial.surfaces.2
  unfold noted Scene.frameView
  rw [outputs, listed, callbacks]
  rfl

/-- A run whose events show as events that meet a condition runs the presentation under that condition. -/
theorem presenting_of_reachable {allowed : SwaylockState → Occurrence → Prop} {meets : FrameView → FrameEvent → Prop}
    (covered : ∀ state occurrence, allowed state occurrence → ∀ notes shown,
      Shows state.scene occurrence.event shown → meets (noted state.scene notes) shown)
    {state : SwaylockState} {notes : CallbackId → FrameNote}
    (reachable : ((swaylock.machine.restrict allowed).observed noFrames frameNotes).Reachable (state, notes)) :
    (presenting.restrict meets).Reachable (noted state.scene notes) := by
  refine reachable.invariant (fun pair => (presenting.restrict meets).Reachable (noted pair.1.scene pair.2)) ?_ ?_
  · rintro ⟨state, notes⟩ ⟨start, _⟩
    exact .initial (noted_initial start notes)
  · rintro ⟨state, notes⟩ occurrence ⟨next, _⟩ before ⟨⟨moved, allows⟩, rfl⟩
    rcases frameStep_noted notes moved with same | ⟨shown, shows, step⟩
    · exact same ▸ before
    · exact .step before ⟨step, covered state occurrence allows notes shown shows⟩

theorem presenting_of_run {state : SwaylockState} (reachable : swaylock.machine.Reachable state) :
    ∃ notes, presenting.Reachable (noted state.scene notes) := by
  have free := reachable.restrict (fun _ _ => trivial : ∀ _ _, (fun _ _ => True : SwaylockState → Occurrence → Prop) _ _)
  obtain ⟨notes, observed⟩ := free.observed noFrames frameNotes
  have shown : (presenting.restrict fun _ _ => True).Reachable (noted state.scene notes) :=
    presenting_of_reachable (fun _ _ _ _ _ _ => trivial) observed
  exact ⟨notes, shown.of_restrict⟩

theorem surfaces_listed {state : SwaylockState} (reachable : swaylock.machine.Reachable state) :
    state.scene.surfaces.Nodup ∧ ∀ id, id ∈ state.scene.surfaces ↔ state.scene.outputs.live id = true := by
  obtain ⟨notes, shown⟩ := presenting_of_run reachable
  have filled := FrameView.filled_of_reachable shown
  have sound := FrameView.sound_of_reachable shown
  have recorded (id : OutputId) :
      ((noted state.scene notes).records id).isSome = state.scene.outputs.live id := Option.isSome_map
  refine ⟨filled.distinct, fun id => ⟨fun listed => (recorded id).symm.trans (filled.live id listed), fun live => ?_⟩⟩
  obtain ⟨record, found⟩ := Option.isSome_iff_exists.mp ((recorded id).trans live)
  exact sound.listed id record found

end SwaylockPlugin
