import SwaylockPlugin.Proof.Frames

namespace SwaylockPlugin

open Library

/-- The output that a removed global names is found in the list. -/
def removedOutput (scene : Scene) (name : UInt32) : Option OutputId :=
  scene.surfaces.find? fun id => scene.outputIs id fun output => output.outputGlobalName == name

/-- Every outstanding frame callback meets a test of its name and its record. -/
def everyCallback (scene : Scene) (test : CallbackId → FrameCallbacks → Bool) : Bool :=
  (List.range scene.frameCallbacks.next).all fun id => (scene.frameCallbacks.cell id).all (test id)

theorem everyCallback_cell {scene : Scene} {test : CallbackId → FrameCallbacks → Bool}
    (every : everyCallback scene test = true) {id : CallbackId} {record : FrameCallbacks}
    (present : scene.frameCallbacks.cell id = some record) : test id record = true := by
  have below := List.mem_range.mpr (scene.frameCallbacks.live_below present)
  have holds := List.all_eq_true.mp every id below
  rw [present] at holds
  exact holds

theorem callback_of_noted {scene : Scene} {notes : CallbackId → FrameNote} {id : CallbackId} {request : FrameRequest}
    (present : (noted scene notes).requests id = some request) :
    ∃ record, scene.frameCallbacks.cell id = some record ∧ request = ⟨record.swaySurface, (notes id).time⟩ := by
  obtain ⟨record, there, same⟩ := Option.map_eq_some_iff.mp present
  exact ⟨record, there, same.symm⟩

theorem noted_of_callback {scene : Scene} (notes : CallbackId → FrameNote) {id : CallbackId} {record : FrameCallbacks}
    (present : scene.frameCallbacks.cell id = some record) :
    (noted scene notes).requests id = some ⟨record.swaySurface, (notes id).time⟩ := by
  change (scene.frameCallbacks.cell id).map _ = _
  rw [present, Option.map_some]

theorem noted_of_output {scene : Scene} (notes : CallbackId → FrameNote) {id : OutputId} {output : SwaylockSurface}
    (present : scene.outputs.cell id = some output) : (noted scene notes).records id = some output.frameRecord := by
  change (scene.outputs.cell id).map _ = _
  rw [present, Option.map_some]

section Removal

/-- An output is removed only while no outstanding frame callback records it. -/
def removesIdle (state : SwaylockState) (occurrence : Occurrence) : Bool :=
  match occurrence.event with
  | .scene (.outputRemoved name) =>
      (removedOutput state.scene name).all fun id =>
        everyCallback state.scene fun _ record => record.swaySurface != some id
  | _ => true

/-- The output that an outstanding frame callback records, if any, is listed and was not freed. -/
def CallbacksPresent (scene : Scene) : Prop :=
  ∀ id record, scene.frameCallbacks.cell id = some record → record.swaySurface = none ∨
    ∃ output, record.swaySurface = some output ∧ output ∈ scene.surfaces ∧
      (scene.outputs.cell output).isSome = true

theorem removesIdle_shows {state : SwaylockState} {occurrence : Occurrence}
    (idle : removesIdle state occurrence = true) (notes : CallbackId → FrameNote) {shown : FrameEvent}
    (shows : Shows state.scene occurrence.event shown) : FrameView.RemovesIdle (noted state.scene notes) shown := by
  obtain ⟨event, env⟩ := occurrence
  cases shows with
  | removed found =>
      rintro _ ⟨⟩ callbacks request there
      obtain ⟨record, present, rfl⟩ := callback_of_noted there
      have listed : removedOutput state.scene _ = some _ := found
      simp only [removesIdle, listed, Option.all_some] at idle
      simpa using everyCallback_cell idle present
  | _ => exact nofun

/-- While outputs are removed only without outstanding frame callbacks, every frame callback finds its output. -/
theorem callbacks_present {state : SwaylockState}
    (reachable : (swaylock.machine.guarded removesIdle).Reachable state) : CallbacksPresent state.scene := by
  obtain ⟨notes, observed⟩ := reachable.observed noFrames frameNotes
  have view := presenting_of_reachable (fun _ _ idle notes _ => removesIdle_shows idle notes) observed
  have attached := FrameView.attached_of_reachable view
  have sound := FrameView.sound_of_reachable view.of_restrict
  intro id record present
  cases named : record.swaySurface with
  | none => exact .inl rfl
  | some output =>
      have live := attached id _ output (noted_of_callback notes present) named
      obtain ⟨shown, there⟩ := Option.isSome_iff_exists.mp live
      refine .inr ⟨output, rfl, sound.listed output shown there, ?_⟩
      change ((state.scene.outputs.cell output).map _).isSome = true at live
      rwa [Option.isSome_map] at live

/-- A plugin draws on an output with a frame request. -/
def presentingEvents : List Event :=
  [.scene (.outputAdded 1), .scene (.outputDone 0), .scene (.outputDescReady 0), .start, .check true,
    .scene (.configure 0 7 100 50), .scene (.request 0 .getRegistry), .scene (.request 0 (.bindOutput 0)),
    .scene (.request 0 (.createSurface 4)), .scene (.request 0 (.surface 0 (.getLayerSurface (some 0)))),
    .scene (.request 0 (.surface 0 .commit)), .scene (.request 0 (.object 1 (.ackConfigure 100001))),
    .scene (.request 0 (.createBuffer 100 50)), .scene (.request 0 (.surface 0 (.attach (some 0)))),
    .scene (.request 0 (.surface 0 .frame)), .scene (.request 0 (.surface 0 .commit))]

/-- An output whose frame callback was completed may be removed. -/
theorem callbacks_present_after_done : ∃ state : SwaylockState,
    state.scene.surfaces = [] ∧ CallbacksPresent state.scene := by
  obtain ⟨state, reachable, passed⟩ := swaylock.play_guarded removesIdle
    ((presentingEvents ++ [Event.scene (.backgroundFrameDone 0), .scene (.outputRemoved 1)]).map Event.obliged)
    (fun state => state.scene.surfaces.isEmpty) (startState_initial _ _ _)
    (by decide +kernel : ((swaylock.guarded _).play defaultState _).any _ = true)
  exact ⟨state, List.isEmpty_iff.mp passed, callbacks_present reachable⟩

/-- An output that is removed while a frame callback is outstanding leaves a dangling pointer in its record. -/
theorem callback_outlives_output :
    ¬ ∀ state : SwaylockState, swaylock.machine.Reachable state → CallbacksPresent state.scene := by
  intro claim
  obtain ⟨state, reachable, passed⟩ := swaylock.play_reachable
    ((presentingEvents ++ [Event.scene (.outputRemoved 1)]).map Event.obliged)
    (fun state => (state.scene.frameCallbacks.cell 0).any (fun record => record.swaySurface == some 0) &&
      state.scene.surfaces.isEmpty)
    (startState_initial _ _ _) (by decide +kernel : (swaylock.play defaultState _).any _ = true)
  simp only [Bool.and_eq_true, Option.any_eq_true, beq_iff_eq, List.isEmpty_iff] at passed
  obtain ⟨⟨record, present, named⟩, empty⟩ := passed
  rcases claim state reachable 0 record present with none_ | ⟨output, _, listed, _⟩
  · rw [named] at none_
    cases none_
  · rw [empty] at listed
    cases listed

end Removal

section Tracking

/-- A frame callback completes as the only outstanding one for its output, and no surface with a layer role asks for
frames as a subsurface. -/
def completesAlone (state : SwaylockState) (occurrence : Occurrence) : Bool :=
  match occurrence.event with
  | .scene (.backgroundFrameDone done) => (state.scene.frameCallbacks.cell done).all fun made =>
      everyCallback state.scene fun id record =>
        id == done || record.swaySurface == none || record.swaySurface != made.swaySurface
  | .scene (.request _ (.surface id .commit)) => (state.scene.forwardSurfaces.cell id).all fun surface =>
      surface.frameCallbacks.isEmpty || surface.subsurfaceParent.isNone || surface.swaySurface.isNone
  | _ => true

/-- A frame callback is outstanding for the lock surface of an output. -/
def Outstanding (scene : Scene) (notes : CallbackId → FrameNote) (output : OutputId) (id : CallbackId) : Prop :=
  (scene.frameCallbacks.cell id).isSome = true ∧ (notes id).target = some (.lock output)

/-- The stall record of an output runs exactly while a frame callback is outstanding for its lock surface, since the
time at which the oldest of them was requested. -/
def FramesTracked (scene : Scene) (notes : CallbackId → FrameNote) : Prop :=
  ∀ output record, scene.outputs.cell output = some record →
    (record.framePending = true ↔ ∃ id, Outstanding scene notes output id) ∧
    (record.framePending = true → ∃ id, Outstanding scene notes output id ∧
      (∀ other, Outstanding scene notes output other → id ≤ other) ∧ record.framePendingSince = (notes id).time)

theorem completesAlone_shows {state : SwaylockState} {occurrence : Occurrence}
    (alone : completesAlone state occurrence = true) (notes : CallbackId → FrameNote) {shown : FrameEvent}
    (shows : Shows state.scene occurrence.event shown) :
    FrameView.CompletesAlone (noted state.scene notes) shown := by
  obtain ⟨event, env⟩ := occurrence
  cases shows with
  | completed id =>
      rintro _ _ ⟨⟩ made output there named callbacks request also apart
      obtain ⟨first, present, rfl⟩ := callback_of_noted there
      obtain ⟨second, waiting, rfl⟩ := callback_of_noted also
      simp only [completesAlone, present, Option.all_some] at alone
      have holds := everyCallback_cell alone waiting
      have same : first.swaySurface = some output := named
      rw [same] at holds
      simp only [Bool.or_eq_true, beq_iff_eq, bne_iff_ne, ne_eq] at holds
      rcases holds with (equal | none_) | other
      · exact absurd equal apart
      · exact fun both => nomatch none_.symm.trans both
      · exact other
  | _ => exact nofun

/-- Each outstanding frame callback is noted on the lock surface of the output that its record names. -/
def Aimed (scene : Scene) (notes : CallbackId → FrameNote) : Prop :=
  ∀ id request, (noted scene notes).requests id = some request →
    ∀ output, (notes id).target = some (.lock output) ↔ request.output = some output

theorem frameNotes_old {state : SwaylockState} {occurrence : Occurrence} (notes : CallbackId → FrameNote)
    {id : CallbackId} (below : id < state.scene.frameCallbacks.next) :
    frameNotes notes state occurrence id = notes id := by
  unfold frameNotes
  rw [if_pos below]

theorem Aimed.step {state next : SwaylockState} {occurrence : Occurrence} {notes : CallbackId → FrameNote}
    (aimed : Aimed state.scene notes) (sound : (noted state.scene notes).Sound)
    (moved : swaylock.machine.step state occurrence next) (alone : completesAlone state occurrence = true) :
    Aimed next.scene (frameNotes notes state occurrence) := by
  have old {id : CallbackId} {request : FrameRequest} (there : (noted state.scene notes).requests id = some request)
      (output : OutputId) :
      (frameNotes notes state occurrence id).target = some (.lock output) ↔ request.output = some output := by
    rw [frameNotes_old notes (sound.named id request there)]
    exact aimed id request there output
  intro id request there output
  rcases frameStep_noted notes moved with same | ⟨shown, shows, step⟩
  · rw [same] at there
    exact old there output
  · obtain ⟨event, env⟩ := occurrence
    generalize noted next.scene _ = view at there step
    cases step with
    | added => exact old there output
    | removed => exact old there output
    | completed => exact old (FrameView.old_of_complete there).1 output
    | requested made _ =>
        rcases FrameView.old_of_request there with ⟨rfl, rfl⟩ | ⟨_, before⟩
        · cases shows with
          | @requested client id surface present asks =>
              have fresh : (frameNotes notes state ⟨.scene (.request client (.surface id .commit)), env⟩
                  (noted state.scene notes).fresh).target = frameTarget state.scene
                    (.scene (.request client (.surface id .commit))) := by
                unfold frameNotes
                exact congrArg FrameNote.target (if_neg (Nat.lt_irrefl _))
              rw [fresh]
              simp only [frameTarget, present, Option.bind_some]
              simp only [completesAlone, present, Option.all_some, Bool.or_eq_true, List.isEmpty_iff,
                Option.isNone_iff_eq_none, asks, false_or] at alone
              rcases alone with root | bare
              · rw [root]
                simp
              · rw [bare]
                simp
        · exact old before output

/-- While frame callbacks complete alone, the stall records follow the outstanding frame callbacks. -/
theorem frames_tracked {state : SwaylockState} {notes : CallbackId → FrameNote}
    (reachable : ((swaylock.machine.guarded completesAlone).observed noFrames frameNotes).Reachable (state, notes)) :
    FramesTracked state.scene notes := by
  have viewed {state : SwaylockState} {notes : CallbackId → FrameNote}
      (reachable : ((swaylock.machine.guarded completesAlone).observed noFrames frameNotes).Reachable (state, notes)) :=
    presenting_of_reachable (fun _ _ alone notes _ => completesAlone_shows alone notes) reachable
  have aimed : Aimed state.scene notes := by
    refine reachable.invariant_under (fun pair => (noted pair.1.scene pair.2).Sound)
      (fun pair => Aimed pair.1.scene pair.2) ?_ ?_ ?_
    · rintro ⟨state, notes⟩ before
      exact FrameView.sound_of_reachable (viewed before).of_restrict
    · rintro ⟨state, notes⟩ ⟨start, _⟩ id request there
      rw [noted_initial start] at there
      cases there
    · rintro ⟨state, notes⟩ occurrence ⟨next, _⟩ sound before ⟨⟨moved, alone⟩, rfl⟩
      exact before.step sound moved alone
  have outstanding {output : OutputId} {id : CallbackId} (waits : Outstanding state.scene notes output id) :
      ∃ request, (noted state.scene notes).requests id = some request ∧ request.output = some output := by
    obtain ⟨record, present⟩ := Option.isSome_iff_exists.mp waits.1
    have there := noted_of_callback notes present
    exact ⟨_, there, (aimed id _ there output).mp waits.2⟩
  have waits {output : OutputId} {id : CallbackId} {request : FrameRequest}
      (there : (noted state.scene notes).requests id = some request) (named : request.output = some output) :
      Outstanding state.scene notes output id := by
    obtain ⟨record, present, _⟩ := callback_of_noted there
    exact ⟨by rw [present]; rfl, (aimed id request there output).mpr named⟩
  intro output record present
  have follows := FrameView.tracked_of_reachable (viewed reachable) output _ (noted_of_output notes present)
  refine ⟨⟨fun pending => ?_, fun awaited => ?_⟩, fun pending => ?_⟩
  · obtain ⟨id, request, oldest, _⟩ := follows.awaited pending
    exact ⟨id, waits oldest.outstanding oldest.named⟩
  · obtain ⟨id, awaited⟩ := awaited
    obtain ⟨request, there, named⟩ := outstanding awaited
    by_contra idle
    exact follows.idle (by simpa [SwaylockSurface.frameRecord] using idle) id request there named
  · obtain ⟨id, request, oldest, time⟩ := follows.awaited pending
    obtain ⟨found, _, same⟩ := callback_of_noted oldest.outstanding
    refine ⟨id, waits oldest.outstanding oldest.named, fun other waiting => ?_, ?_⟩
    · obtain ⟨later, there, named⟩ := outstanding waiting
      exact oldest.first other later there named
    · exact time.trans (congrArg FrameRequest.time same)

/-- A plugin asks for a second frame before the first one is done. -/
def secondFrameEvents : List Event :=
  presentingEvents ++ [.tick ⟨1, 0⟩, .scene (.request 0 (.surface 0 .frame)), .scene (.request 0 (.surface 0 .commit))]

/-- Two outstanding frame callbacks are tracked since the first of them. -/
theorem frames_tracked_twice : ∃ (state : SwaylockState) (notes : CallbackId → FrameNote),
    state.scene.frameCallbacks.live 0 = true ∧ state.scene.frameCallbacks.live 1 = true ∧
      FramesTracked state.scene notes := by
  obtain ⟨⟨state, notes⟩, reachable, passed⟩ := (swaylock.guarded completesAlone).play_observed noFrames frameNotes
    (secondFrameEvents.map Event.obliged)
    (fun pair => pair.1.scene.frameCallbacks.live 0 && pair.1.scene.frameCallbacks.live 1)
    (startState_initial _ _ _)
    (by decide +kernel : (((swaylock.guarded _).observed _ _).play (defaultState, _) _).any _ = true)
  rw [Program.guarded_machine] at reachable
  rw [Bool.and_eq_true] at passed
  exact ⟨state, notes, passed.1, passed.2, frames_tracked reachable⟩

/-- The first of two outstanding frame callbacks that is done clears the stall record of its output. -/
theorem done_clears_second_frame : ¬ ∀ (state : SwaylockState) (notes : CallbackId → FrameNote),
    (swaylock.machine.observed noFrames frameNotes).Reachable (state, notes) → FramesTracked state.scene notes := by
  intro claim
  obtain ⟨⟨state, notes⟩, reachable, passed⟩ := swaylock.play_observed noFrames frameNotes
    ((secondFrameEvents ++ [Event.scene (.backgroundFrameDone 0)]).map Event.obliged)
    (fun pair => pair.1.scene.outputIs 0 (fun output => !output.framePending) &&
      pair.1.scene.frameCallbacks.live 1 && (pair.2 1).target == some (.lock 0))
    (startState_initial _ _ _) (by decide +kernel : ((swaylock.observed _ _).play (defaultState, _) _).any _ = true)
  simp only [Bool.and_eq_true, beq_iff_eq] at passed
  obtain ⟨⟨shown, live⟩, target⟩ := passed
  obtain ⟨output, present, idle⟩ := (Option.any_eq_true _ _).mp shown
  have pending := ((claim state notes reachable 0 output present).1).mpr ⟨1, live, target⟩
  rw [pending] at idle
  cases idle

end Tracking

end SwaylockPlugin
