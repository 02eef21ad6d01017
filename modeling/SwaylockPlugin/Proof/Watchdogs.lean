import SwaylockPlugin.Proof.Assertions
import SwaylockPlugin.Proof.Exits
import SwaylockPlugin.Proof.Expiry

namespace SwaylockPlugin

open Library

/-- The program stopped a client. -/
def Scene.stopped (scene : Scene) (id : BgClientId) : Bool := (scene.bgClients.cell id).any SwaylockBgClient.paused

/-- The end of a timer declares a client unresponsive that did not connect or did not draw. -/
def Scene.watchedBy (scene : Scene) : TimerCallback → Option BgClientId
  | .clientConnectionTimeout client => some client
  | .outputRedrawTimeout output => scene.place (some output) <|> scene.place none
  | _ => none

/-- A client is watched by a timer of the loop. -/
def Scene.watched (scene : Scene) (id : BgClientId) : Bool :=
  scene.eventloop.timers.any fun timer => !timer.removed && scene.watchedBy timer.callback == some id

/-- A client that is stopped is not watched by any timer. -/
def Unwatched (scene : Scene) : Prop := ∀ id, scene.stopped id = true → scene.watched id = false

/-- A step arms no redraw timer of an output that a stopped client serves, and it stops no client that is watched. -/
def sparesStopped (state : SwaylockState) (occurrence : Occurrence) : Bool :=
  match occurrence.event with
  | .scene event => (List.range state.scene.outputs.next).all fun id =>
      !(event.arms state.scene state.runDisplay id &&
        (state.scene.watchedBy (.outputRedrawTimeout id)).any state.scene.stopped)
  | .timer timer _ => state.scene.eventloop.due state.scene.clock timer != some .hiddenCheckTimeout ||
      state.scene.clients.all fun id => !((state.scene.bgClients.cell id).any (fun record =>
        decide (reached occurrence.env record)) && clientIsHidden state.scene id && state.scene.watched id)
  | _ => true

theorem watched_iff {scene : Scene} {id : BgClientId} : scene.watched id = true ↔
    ∃ timer callback, scene.eventloop.Armed timer callback ∧ scene.watchedBy callback = some id := by
  simp only [Scene.watched, List.any_eq_true, Bool.and_eq_true, Bool.not_eq_true', beq_iff_eq]
  constructor
  · rintro ⟨timer, member, kept, watches⟩
    exact ⟨timer.id, timer.callback, ⟨timer, member, rfl, rfl, kept⟩, watches⟩
  · rintro ⟨_, _, ⟨timer, member, rfl, rfl, kept⟩, watches⟩
    exact ⟨timer, member, kept, watches⟩

theorem stopped_iff {scene : Scene} {id : BgClientId} : scene.stopped id = true ↔
    ∃ record, scene.bgClients.cell id = some record ∧ record.paused = true :=
  Option.any_eq_true _ _

/-- Between two scenes no client is stopped, and a client that is stopped takes no place and gets no connection timer, while
the redraw timers of some outputs alone are armed. -/
structure Fades (arms : OutputId → Bool) (first second : Scene) : Prop where
  stopped : ∀ id, second.stopped id = true → first.stopped id = true
  place : ∀ place id, second.place place = some id → second.stopped id = true → first.place place = some id
  connects : ∀ timer id, second.eventloop.Armed timer (.clientConnectionTimeout id) → second.stopped id = true →
    first.eventloop.Armed timer (.clientConnectionTimeout id)
  redraws : ∀ timer id, second.eventloop.Armed timer (.outputRedrawTimeout id) →
    first.eventloop.Armed timer (.outputRedrawTimeout id) ∨ arms id = true

namespace Fades

variable {arms : OutputId → Bool} {first second third : Scene}

theorem refl (scene : Scene) : Fades arms scene scene :=
  ⟨fun _ stopped => stopped, fun _ _ placed _ => placed, fun _ _ armed _ => armed, fun _ _ armed => .inl armed⟩

theorem trans (one : Fades arms first second) (two : Fades arms second third) : Fades arms first third where
  stopped id stopped := one.stopped id (two.stopped id stopped)
  place place id placed stopped := one.place place id (two.place place id placed stopped) (two.stopped id stopped)
  connects timer id armed stopped := one.connects timer id (two.connects timer id armed stopped) (two.stopped id stopped)
  redraws timer id armed := by
    rcases two.redraws timer id armed with before | allowed
    · exact one.redraws timer id before
    · exact .inr allowed

theorem of_loop (records : second.bgClients = first.bgClients) (outputs : second.outputs = first.outputs)
    (main : second.mainClient = first.mainClient) (disarms : first.eventloop.Disarms TimerCallback.onScene second.eventloop) :
    Fades arms first second := by
  refine ⟨fun id stopped => ?_, fun place id placed _ => ?_, fun timer _ armed _ => disarms timer _ rfl armed,
    fun timer _ armed => .inl (disarms timer _ rfl armed)⟩
  · rwa [Scene.stopped, records] at stopped
  · rwa [place_congr outputs main] at placed

theorem of_retimed (kept : Retimed first second) : Fades arms first second := by
  obtain ⟨loop, fd, disarms, rfl⟩ := kept
  exact of_loop rfl rfl rfl disarms

end Fades

section Moves

/-- A scene gets a timer of its own by a new client, by an output that may arm one or by the hidden check. -/
def Arises (arms : OutputId → Bool) (scene : Scene) : TimerCallback → Prop
  | .clientConnectionTimeout id => scene.bgClients.cell id = none
  | .outputRedrawTimeout id => arms id = true
  | _ => True

variable {bounds : Bounds} {one two : Option OutputId × Scene}

theorem armed_of_removeTimer? {scene : Scene} {target : Option TimerId} {timer : TimerId} {callback : TimerCallback}
    (armed : (scene.removeTimer? target).eventloop.Armed timer callback) : scene.eventloop.Armed timer callback := by
  rw [Scene.removeTimer?_eq] at armed
  have disarms : scene.eventloop.Disarms (fun _ => true) (scene.eventloop.removeTimer? target) := .removeTimer? _ _
  exact disarms timer callback rfl armed

theorem Cleaned.armed {scene next : Scene} {id : BgClientId} {record : SwaylockBgClient}
    (cleaned : Cleaned scene id record next) {timer : TimerId} {callback : TimerCallback}
    (armed : next.eventloop.Armed timer callback) : scene.eventloop.Armed timer callback := by
  rw [cleaned.eventloop] at armed
  exact armed_of_removeTimer? armed

theorem Connected.arises {scene next : Scene} {output : Option OutputId} {pid : Int}
    (connected : Connected scene output pid next) {timer : TimerId} {callback : TimerCallback}
    (armed : next.eventloop.Armed timer callback) :
    scene.eventloop.Armed timer callback ∨ callback = .clientConnectionTimeout scene.bgClients.next := by
  rw [connected.eventloop] at armed
  rcases (Loop.armed_addTimer _ _ _).mp armed with ⟨_, same⟩ | old
  · exact .inr same
  · exact .inl old

theorem Move.arises (move : Move bounds one two) {timer : TimerId} {callback : TimerCallback}
    (armed : two.2.eventloop.Armed timer callback) :
    one.2.eventloop.Armed timer callback ∨ Arises bounds.arms one.2 callback := by
  cases move with
  | quiet changes => exact .inl ((changes.still fun _ listed => listed).eventloop ▸ armed)
  | pause scene env id paused =>
      obtain ⟨records, same, _⟩ := setClientPaused_records scene env id paused
      rw [same] at armed
      exact .inl armed
  | hang | forgetConnect | finish | forgetRedraw | forgetHidden | delist | display => exact .inl armed
  | register handled =>
      rcases clientResourceCreate_registered _ _ handled with rfl | ⟨_, _, registered⟩
      · exact .inl armed
      · rw [registered.eventloop] at armed
        exact .inl (armed_of_removeTimer? armed)
  | clean handled =>
      obtain ⟨_, cleaned⟩ := cleanupClient_cleaned _ _ handled
      exact .inl (cleaned.armed armed)
  | died _ handled =>
      obtain ⟨record, cleaned, cleaning, ⟨_, rfl⟩ | ⟨_, pid, connected⟩⟩ := clientDestroyed_ends _ _ handled
      · exact .inl (cleaning.armed armed)
      · rcases connected.arises armed with old | rfl
        · exact .inl (cleaning.armed old)
        · refine .inr ?_
          rw [Arises, cleaning.named]
          exact Heap.cell_next _
  | start _ _ _ handled =>
      rcases (connectPlugin_connected _ _ _ handled).arises armed with old | rfl
      · exact .inl old
      · exact .inr (Heap.cell_next _)
  | lock _ _ allowed =>
      rcases (Loop.armed_addTimer _ _ _).mp armed with ⟨_, rfl⟩ | old
      · exact .inr allowed
      · exact .inl old
  | redraw handled allowed =>
      obtain ⟨output, _, handled⟩ := bind_ok.mp handled
      split at handled
      · cases handled
        exact .inl armed
      · cases handled
        rcases (Loop.armed_addTimer _ _ _).mp armed with ⟨_, rfl⟩ | old
        · exact .inr allowed
        · exact .inl old
  | cancel scene id =>
      unfold cancelSubmissionTimer at armed
      split at armed
      · exact .inl armed
      · exact .inl (armed_of_removeTimer? armed)
  | armHidden scene =>
      unfold armHiddenCheck at armed
      split at armed
      · rcases (Loop.armed_addTimer _ _ _).mp armed with ⟨_, rfl⟩ | old
        · exact .inr trivial
        · exact .inl old
      · exact .inl armed
  | remove present handled =>
      have kept := armed_of_removeTimer? armed
      rcases cleanupServing_cleaned _ _ handled with ⟨_, rfl⟩ | ⟨_, _, _, cleaned⟩
      · exact .inl kept
      · exact .inl (cleaned.armed kept)

theorem Cleaned.stopped {scene next : Scene} {id other : BgClientId} {record : SwaylockBgClient}
    (cleaned : Cleaned scene id record next) (stopped : next.stopped other = true) : scene.stopped other = true := by
  rw [Scene.stopped, cleaned.records] at stopped
  split at stopped
  · cases stopped
  · exact stopped

theorem Connected.stopped {scene next : Scene} {output : Option OutputId} {pid : Int} {id : BgClientId}
    (connected : Connected scene output pid next) (stopped : next.stopped id = true) : scene.stopped id = true := by
  rw [Scene.stopped, connected.records] at stopped
  split at stopped
  · cases stopped
  · exact stopped

theorem Move.stopped (move : Move bounds one two) (stops : bounds.stops = false) {id : BgClientId}
    (stopped : two.2.stopped id = true) : one.2.stopped id = true := by
  have modified {scene : Scene} {target : BgClientId} {change : SwaylockBgClient → SwaylockBgClient}
      (stopped : ((scene.bgClients.modify target change).cell id).any SwaylockBgClient.paused = true)
      (kept : ∀ record, (change record).paused = record.paused) : scene.stopped id = true := by
    obtain ⟨record, present, paused⟩ := (Option.any_eq_true _ _).mp stopped
    obtain ⟨old, there, ⟨_, rfl⟩ | ⟨_, rfl⟩⟩ := scene.bgClients.old_of_modify present
    · exact stopped_iff.mpr ⟨old, there, (kept old).symm.trans paused⟩
    · exact stopped_iff.mpr ⟨record, there, paused⟩
  cases move with
  | quiet changes =>
      obtain ⟨record, present, paused⟩ := stopped_iff.mp stopped
      obtain ⟨old, there, same⟩ := (changes.still fun _ listed => listed).record present
      exact stopped_iff.mpr ⟨old, there, (congrArg SwaylockBgClient.paused same).symm.trans paused⟩
  | pause scene env target paused allowed =>
      have resumes : paused = false := by
        cases paused with
        | false => rfl
        | true => cases stops.symm.trans (allowed rfl)
      rw [resumes, Scene.stopped, setClientPaused_cell] at stopped
      split at stopped
      · rw [Option.any_map] at stopped
        obtain ⟨record, present, paused⟩ := (Option.any_eq_true _ _).mp stopped
        refine stopped_iff.mpr ⟨record, present, ?_⟩
        change (if reached env record then false else record.paused) = true at paused
        split at paused
        · cases paused
        · exact paused
      · exact stopped
  | hang | lock | finish | forgetRedraw | forgetHidden | delist | display => exact stopped
  | register handled =>
      rcases clientResourceCreate_registered _ _ handled with rfl | ⟨target, _, registered⟩
      · exact stopped
      · rw [Scene.stopped, registered.records] at stopped
        exact modified stopped fun _ => rfl
  | forgetConnect scene target => exact modified stopped fun _ => rfl
  | clean handled =>
      obtain ⟨_, cleaned⟩ := cleanupClient_cleaned _ _ handled
      exact cleaned.stopped stopped
  | died _ handled =>
      obtain ⟨_, cleaned, cleaning, ⟨_, rfl⟩ | ⟨_, pid, connected⟩⟩ := clientDestroyed_ends _ _ handled
      · exact cleaning.stopped stopped
      · exact cleaning.stopped (connected.stopped stopped)
  | start _ _ _ handled => exact (connectPlugin_connected _ _ _ handled).stopped stopped
  | redraw handled =>
      obtain ⟨output, _, handled⟩ := bind_ok.mp handled
      split at handled <;> cases handled <;> exact stopped
  | cancel scene target =>
      unfold cancelSubmissionTimer at stopped
      split at stopped
      · exact stopped
      · rw [Scene.removeTimer?_eq] at stopped
        exact stopped
  | armHidden scene =>
      unfold armHiddenCheck at stopped
      split at stopped <;> exact stopped
  | remove present handled =>
      rw [Scene.dropOutput, Scene.removeTimer?_eq] at stopped
      rcases cleanupServing_cleaned _ _ handled with ⟨_, rfl⟩ | ⟨_, _, _, cleaned⟩
      · exact stopped
      · exact cleaned.stopped stopped

theorem Reseats.seated (reseats : Reseats one two) {place : Option OutputId} {id : BgClientId}
    (placed : two.2.place place = some id) : one.2.place place = some id ∨ one.2.bgClients.cell id = none := by
  have dropped {scene : Scene} {output : OutputId} {timer : Option TimerId}
      (placed : (scene.dropOutput output timer).place place = some id) : scene.place place = some id := by
    rw [Scene.dropOutput, Scene.removeTimer?_eq] at placed
    cases place with
    | none => exact placed
    | some other =>
        obtain ⟨record, present, served⟩ := Option.bind_eq_some_iff.mp placed
        exact Option.bind_eq_some_iff.mpr ⟨record, scene.outputs.old_of_free present, served⟩
  have before {scene next : Scene} {client : BgClientId} {record : SwaylockBgClient}
      (cleaned : Cleaned scene client record next) (placed : next.place place = some id) :
      scene.place place = some id := by
    rw [cleaned.place] at placed
    split at placed
    · cases placed
    · exact placed
  cases reseats with
  | same _ same => exact .inl ((same.place place).symm.trans placed)
  | finish scene output =>
      have same : SamePlaces scene (scene.setOutput output fun output => { output with created := true }) :=
        .setOutput scene output (fun _ => rfl) fun _ _ => rfl
      exact .inl ((same.place place).symm.trans placed)
  | cleaned cleaned same => exact .inl (before cleaned ((same.place place).symm.trans placed))
  | restarted cleaned connected =>
      rw [connected.place] at placed
      split at placed
      · cases placed
        rw [cleaned.named]
        exact .inr (Heap.cell_next _)
      · exact .inl (before cleaned placed)
  | started connected =>
      rw [connected.place] at placed
      split at placed
      · cases placed
        exact .inr (Heap.cell_next _)
      · exact .inl placed
  | removed => exact .inl (dropped placed)
  | evicted _ cleaned => exact .inl (before cleaned (dropped placed))

theorem Move.fades (move : Move bounds one two) (stops : bounds.stops = false) : Fades bounds.arms one.2 two.2 := by
  have present {id : BgClientId} (stopped : two.2.stopped id = true) : one.2.bgClients.cell id ≠ none := by
    obtain ⟨record, there, _⟩ := stopped_iff.mp (move.stopped stops stopped)
    exact fun absent => nomatch there.symm.trans absent
  refine ⟨fun id => move.stopped stops, fun place id placed stopped => ?_, fun timer id armed stopped => ?_,
    fun timer id armed => move.arises armed⟩
  · exact (move.reseats.seated placed).resolve_right (present stopped)
  · exact (move.arises armed).resolve_right (present stopped)

theorem Moves.fades {creating : Option OutputId} {first second : Scene} (moves : Moves bounds creating first second)
    (stops : bounds.stops = false) : Fades bounds.arms first second :=
  moves.keep (fun _ => Fades bounds.arms first) (fun move before => before.trans (move.fades stops)) (.refl first)

theorem Fades.of_indicated {arms : OutputId → Bool} {first second : Scene} (indicated : Indicated first second) :
    Fades arms first second := by
  obtain ⟨start, stop, early, draws, late⟩ := indicated
  have damaged (scene : Scene) : Fades arms scene (damageState scene) := by
    have quiet : Move ⟨false, false, arms⟩ (none, scene) (none, damageState scene) :=
      .quiet (damageState_changes.widen (by simp))
    exact quiet.fades rfl
  refine ((of_retimed early).trans ?_).trans (of_retimed late)
  clear early late
  induction draws with
  | refl => exact .refl _
  | damage _ ih => exact ih.trans (damaged _)
  | @arm _ ms callback onIndicator _ ih =>
      refine ih.trans (.of_loop rfl rfl rfl (.addTimer _ _ _ ?_))
      cases callback <;> first | rfl | cases onIndicator
  | disarm timer _ ih => exact ih.trans (.of_loop rfl rfl rfl (.removeTimer? _ (some timer)))

end Moves

section Steps

theorem Unwatched.fades {arms : OutputId → Bool} {first second : Scene} (unwatched : Unwatched first)
    (guard : PlaceGuard none first) (fades : Fades arms first second)
    (spared : ∀ output id, arms output = true → first.watchedBy (.outputRedrawTimeout output) = some id →
      first.stopped id = false) : Unwatched second := by
  intro id stopped
  have before := fades.stopped id stopped
  by_contra watched
  obtain ⟨timer, callback, armed, watches⟩ := watched_iff.mp (Bool.not_eq_false _ ▸ watched)
  have contradicts {callback : TimerCallback} (armed : first.eventloop.Armed timer callback)
      (watches : first.watchedBy callback = some id) : False := by
    have watched : first.watched id = true := watched_iff.mpr ⟨timer, callback, armed, watches⟩
    exact Bool.false_ne_true ((unwatched id before).symm.trans watched)
  cases callback with
  | clientConnectionTimeout client =>
      cases watches
      exact contradicts (fades.connects timer id armed stopped) rfl
  | outputRedrawTimeout output =>
      -- The main client serves an output only in the mode in which no output has a client of its own.
      have served : first.watchedBy (.outputRedrawTimeout output) = some id := by
        rcases (Option.orElse_eq_some _ _ _).mp watches with own | ⟨_, main⟩
        · exact (Option.orElse_eq_some _ _ _).mpr (.inl (fades.place _ id own stopped))
        · have main := fades.place _ id main stopped
          refine (Option.orElse_eq_some _ _ _).mpr (.inr ⟨?_, main⟩)
          by_contra other
          obtain ⟨client, own⟩ := Option.ne_none_iff_exists'.mp other
          exact Bool.false_ne_true ((guard.mode none id main).trans (guard.mode (some output) client own).symm)
      rcases fades.redraws timer output armed with old | allowed
      · exact contradicts old served
      · exact Bool.false_ne_true ((spared output id allowed served).symm.trans before)
  | _ => cases watches

theorem SceneEvent.arms_present {scene : Scene} {runDisplay : Bool} {event : SceneEvent} {id : OutputId}
    (arms : event.arms scene runDisplay id = true) : id ∈ List.range scene.outputs.next := by
  have present {other : OutputId} {test : SwaylockSurface → Bool}
      (arms : (other == id && (scene.outputs.cell other).any test) = true) : id ∈ List.range scene.outputs.next := by
    obtain ⟨same, passes⟩ := (Bool.and_eq_true _ _).mp arms
    obtain ⟨output, there, _⟩ := (Option.any_eq_true _ _).mp passes
    exact List.mem_range.mpr (scene.outputs.live_below (beq_iff_eq.mp same ▸ there))
  cases event with
  | configure | outputDone | outputDescReady => exact present arms
  | _ => cases arms

theorem hiddenCheckTimeout_records (scene : Scene) (env : Environment) :
    ∃ records, hiddenCheckTimeout scene env = armHiddenCheck { scene with hiddenCheckTimer := none, bgClients := records } := by
  have folds (clients : List BgClientId) (scene : Scene) : ∃ records,
      clients.foldl (fun scene id => setClientPaused scene env id (clientIsHidden scene id)) scene =
        { scene with bgClients := records } := by
    induction clients generalizing scene with
    | nil => exact ⟨scene.bgClients, rfl⟩
    | cons first rest ih =>
        obtain ⟨middle, same, _⟩ := setClientPaused_records scene env first (clientIsHidden scene first)
        obtain ⟨records, last⟩ := ih { scene with bgClients := middle }
        refine ⟨records, ?_⟩
        rw [List.foldl_cons, same, last]
  obtain ⟨records, same⟩ := folds scene.clients { scene with hiddenCheckTimer := none }
  exact ⟨records, congrArg armHiddenCheck same⟩

theorem Unwatched.hiddenCheck {scene : Scene} {env : Environment} (unwatched : Unwatched scene)
    (guard : PlaceGuard none scene) (spared : scene.clients.all (fun id => !((scene.bgClients.cell id).any (fun record =>
      decide (reached env record)) && clientIsHidden scene id && scene.watched id)) = true) :
    Unwatched (hiddenCheckTimeout scene env) := by
  intro id stopped
  obtain ⟨records, same⟩ := hiddenCheckTimeout_records scene env
  have moves : Moves .lasting none scene (hiddenCheckTimeout scene env) := hiddenCheckTimeout_moves rfl
  have listed : id ∈ scene.clients := by
    obtain ⟨record, present, _⟩ := stopped_iff.mp stopped
    have later := ((moves.places guard).listed id).mpr (by rw [Heap.live, present]; rfl)
    rw [same] at later
    unfold armHiddenCheck at later
    split at later <;> exact later
  by_contra watched
  have before : scene.watched id = true := by
    obtain ⟨timer, callback, armed, watches⟩ := watched_iff.mp (Bool.not_eq_false _ ▸ watched)
    rw [same] at armed watches
    have still : scene.watchedBy callback = some id := by
      unfold armHiddenCheck at watches
      cases callback <;> split at watches <;> exact watches
    unfold armHiddenCheck at armed
    split at armed
    · rcases (Loop.armed_addTimer _ _ _).mp armed with ⟨_, rfl⟩ | old
      · cases still
      · exact watched_iff.mpr ⟨timer, callback, old, still⟩
    · exact watched_iff.mpr ⟨timer, callback, armed, still⟩
  rw [Scene.stopped, hiddenCheckTimeout_cell listed, Option.any_map] at stopped
  obtain ⟨record, present, paused⟩ := (Option.any_eq_true _ _).mp stopped
  change (if reached env record then clientIsHidden scene id else record.paused) = true at paused
  split at paused
  · rename_i reaches
    have other := List.all_eq_true.mp spared id listed
    simp [present, reaches, paused, before] at other
  · have there : scene.stopped id = true := stopped_iff.mpr ⟨record, present, paused⟩
    exact Bool.false_ne_true ((unwatched id there).symm.trans before)

/-- No client that is stopped is watched, and before the start none is stopped. -/
structure StopGuard (state : SwaylockState) : Prop where
  unwatched : Unwatched state.scene
  startup : state.phase = .startup → ∀ id, state.scene.stopped id = false

variable {state next : SwaylockState} {occurrence : Occurrence}

theorem Unwatched.step (unwatched : Unwatched state.scene) (reachable : swaylock.machine.Reachable state)
    (running : state.phase = .startup → ∀ id, state.scene.stopped id = false)
    (moved : swaylock.machine.step state occurrence next) (spared : sparesStopped state occurrence = true) :
    Unwatched next.scene := by
  have guard := placeGuard_of_reachable reachable
  have step := sceneStep_of_step moved
  obtain ⟨event, env⟩ := occurrence
  have unarmed {arms : OutputId → Bool} {first second : Scene} (before : Unwatched first)
      (guard : PlaceGuard none first) (fades : Fades arms first second) (none_ : ∀ id, arms id = false) :
      Unwatched second :=
    before.fades guard fades fun output _ allowed _ => absurd ((none_ output).symm.trans allowed) Bool.false_ne_true
  have faded {second : Scene} (fades : Fades (fun _ => false) state.scene second) : Unwatched second :=
    unarmed unwatched guard fades fun _ => rfl
  have calm {second : Scene} (moves : Moves ⟨false, false, fun _ => false⟩ none state.scene second) :
      Fades (fun _ => false) state.scene second := moves.fades rfl
  generalize next.scene = last at step
  cases step with
  | tick now => exact faded (.of_loop rfl rfl rfl (.same rfl))
  | scene _ handled =>
      refine unwatched.fades guard ((handleScene_moves state.runDisplay _ _ handled).fades rfl) fun output id arms serves => ?_
      have other := List.all_eq_true.mp spared output (SceneEvent.arms_present arms)
      have free : state.scene.stopped id ≠ true := by
        simpa [show SceneEvent.arms _ _ _ output = true from arms, serves] using other
      exact Bool.eq_false_iff.mpr free
  | @hiddenCheck timer result _ due kept =>
      have spares := ((Bool.or_eq_true _ _).mp spared).resolve_left fun apart => bne_iff_ne.mp apart due
      have later : Unwatched (hiddenCheckTimeout state.scene env) := unwatched.hiddenCheck guard spares
      have moves : Moves .lasting none state.scene (hiddenCheckTimeout state.scene env) := hiddenCheckTimeout_moves rfl
      exact unarmed later (moves.places guard) (.of_retimed kept : Fades (fun _ => false) _ _) fun _ => rfl
  | connectionTimeout _ handled kept =>
      exact faded ((calm (clientConnectionTimeout_moves _ _ handled)).trans (.of_retimed kept))
  | redrawTimeout _ handled kept =>
      exact faded ((calm (outputRedrawTimeout_moves _ _ handled)).trans (.of_retimed kept))
  | start kept creates runs =>
      have startup : state.phase = .startup := by
        have allowed : enabled state ⟨.start, env⟩ = true := moved.1
        simpa [enabled] using allowed
      have moves : Moves ⟨false, false, fun _ => true⟩ none _ last :=
        (createSurfaces_moves (fun _ => rfl) _ creates).trans (startMainPlugin_moves _ runs)
      have fades := (Fades.of_retimed kept).trans (moves.fades rfl)
      intro id stopped
      exact absurd ((running startup id).symm.trans (fades.stopped id stopped)) Bool.false_ne_true
  | armHiddenCheck => exact faded (calm (.single (.armHidden state.scene)))
  | resume => exact faded (calm resumeAllClients_moves)
  | indicated indicated => exact faded (.of_indicated indicated)

theorem StopGuard.step (guard : StopGuard state) (reachable : swaylock.machine.Reachable state)
    (moved : swaylock.machine.step state occurrence next) (spared : sparesStopped state occurrence = true) :
    StopGuard next := by
  refine ⟨guard.unwatched.step reachable guard.startup moved spared, fun back id => ?_⟩
  have before := (lockStep_of_step moved).startup back
  have running := guard.startup before id
  have kept {arms : OutputId → Bool} (fades : Fades arms state.scene next.scene) : next.scene.stopped id = false :=
    Bool.eq_false_iff.mpr fun stopped => Bool.false_ne_true (running.symm.trans (fades.stopped id stopped))
  rcases startup_step (unstaffed_of_reachable reachable before).1 moved back with ⟨event, _, handled⟩ | indicated | ⟨now, same⟩
  · exact kept ((handleScene_moves false event _ handled).fades rfl)
  · exact kept (.of_indicated indicated : Fades (fun _ => false) _ _)
  · rw [same]
    exact running

theorem stopGuard_initial (start : InitialState state) : StopGuard state := by
  have nobody (id : BgClientId) : state.scene.stopped id = false := by
    rw [Scene.stopped, start.plugins.1]
    rfl
  exact ⟨fun id stopped => absurd ((nobody id).symm.trans stopped) Bool.false_ne_true, fun _ => nobody⟩

/-- The program does not wait for a client to connect or to draw, and no timer is about to declare it unresponsive. -/
structure Unhurried (scene : Scene) (id : BgClientId) : Prop where
  connects : ∀ record, scene.bgClients.cell id = some record → record.clientConnectTimer = none
  draws : ∀ output surface, scene.outputs.cell output = some surface → clientForSurface scene surface = some id →
    surface.clientSubmissionTimer = none
  responds : ∀ timer callback, scene.eventloop.due scene.clock timer = some callback → scene.watchedBy callback ≠ some id

/-- A client that the program stopped is not hurried in a run that arms no timer for a stopped client and stops no client
that a timer watches. -/
theorem stopped_clients_unhurried (reachable : (swaylock.machine.guarded sparesStopped).Reachable state)
    {id : BgClientId} (stopped : state.scene.stopped id = true) : Unhurried state.scene id := by
  have guards : swaylock.machine.Reachable state ∧ StopGuard state := by
    refine reachable.invariant (fun state => swaylock.machine.Reachable state ∧ StopGuard state) ?_ ?_
    · exact fun _ start => ⟨.initial start, stopGuard_initial start⟩
    · rintro state occurrence next ⟨reached, guard⟩ ⟨moved, spared⟩
      exact ⟨.step reached moved, guard.step reached moved spared⟩
  obtain ⟨reached, guard⟩ := guards
  have unwatched {timer : TimerId} {callback : TimerCallback} (armed : state.scene.eventloop.Armed timer callback) :
      state.scene.watchedBy callback ≠ some id := by
    intro watches
    have watched : state.scene.watched id = true := watched_iff.mpr ⟨timer, callback, armed, watches⟩
    exact Bool.false_ne_true ((guard.unwatched id stopped).symm.trans watched)
  have timed := timed_of_reachable reached
  refine ⟨fun record present => ?_, fun output surface present serves => ?_, fun timer callback due => ?_⟩
  · by_contra armed
    obtain ⟨timer, own⟩ := Option.ne_none_iff_exists'.mp armed
    have held : state.holds (.clientConnectionTimeout id) = some timer := Option.bind_eq_some_iff.mpr ⟨record, present, own⟩
    exact unwatched (timed.armed _ timer held) rfl
  · by_contra armed
    obtain ⟨timer, own⟩ := Option.ne_none_iff_exists'.mp armed
    have held : state.holds (.outputRedrawTimeout output) = some timer := Option.bind_eq_some_iff.mpr ⟨surface, present, own⟩
    refine unwatched (timed.armed _ timer held) ?_
    rw [Scene.watchedBy, PlaceGuard.place_some present]
    exact serves
  · exact unwatched (Loop.armed_of_due due)

/-- A plugin that was stopped after it drew on its outputs is not hurried. -/
theorem stopped_clients_unhurried_dark : ∃ state : SwaylockState,
    state.scene.stopped 0 = true ∧ Unhurried state.scene 0 := by
  obtain ⟨state, reachable, stopped⟩ := swaylock.play_guarded sparesStopped (stoppedEvents.map Event.obliged)
    (fun state => state.scene.stopped 0)
    (startState_initial { SwaylockArgs.default with pauseWhenHidden := true } .complete .opened)
    (by decide +kernel : ((swaylock.guarded _).play _ _).any _ = true)
  exact ⟨state, stopped, stopped_clients_unhurried reachable stopped⟩

/-- A plugin that was stopped is declared unresponsive when an output of it gets another size. -/
theorem stopped_client_hurried : ¬ ∀ state : SwaylockState, swaylock.machine.Reachable state → ∀ id,
    state.scene.stopped id = true → Unhurried state.scene id := by
  intro claim
  obtain ⟨state, reachable, passed⟩ := swaylock.play_reachable
    ((stoppedEvents ++ [Event.scene (.configure 0 9 200 100), Event.tick ⟨60, 0⟩]).map Event.obliged)
    (fun state => state.scene.stopped 0 && decide (state.scene.eventloop.due state.scene.clock 5 =
      some (.outputRedrawTimeout 0)) && state.scene.watchedBy (.outputRedrawTimeout 0) == some 0)
    (startState_initial { SwaylockArgs.default with pauseWhenHidden := true } .complete .opened)
    (by decide +kernel : (swaylock.play _ _).any _ = true)
  simp only [Bool.and_eq_true, decide_eq_true_eq, beq_iff_eq] at passed
  obtain ⟨⟨stopped, due⟩, watches⟩ := passed
  exact (claim state reachable 0 stopped).responds 5 _ due watches

end Steps

end SwaylockPlugin
