import SwaylockPlugin.Proof.Timers
import SwaylockPlugin.Proof.Unlock

namespace SwaylockPlugin

open Library

/-- A scene is retimed when only its loop and its readiness descriptor change and no timer on the scene is newly armed. -/
def Retimed (first second : Scene) : Prop :=
  ∃ loop fd, first.eventloop.Disarms TimerCallback.onScene loop ∧
    second = { first with eventloop := loop, args := { first.args with readyFd := fd } }

namespace Retimed

variable {first second third : Scene}

theorem loop (scene : Scene) {loop : Loop FdCallback TimerCallback}
    (disarms : scene.eventloop.Disarms TimerCallback.onScene loop) : Retimed scene { scene with eventloop := loop } :=
  ⟨loop, scene.args.readyFd, disarms, rfl⟩

theorem refl (scene : Scene) : Retimed scene scene := loop scene (.same rfl)

theorem trans (one : Retimed first second) (two : Retimed second third) : Retimed first third := by
  obtain ⟨_, _, early, rfl⟩ := one
  obtain ⟨loop, fd, late, rfl⟩ := two
  exact ⟨loop, fd, early.trans late, rfl⟩

theorem removeTimer? (scene : Scene) (timer : Option TimerId) : Retimed scene (scene.removeTimer? timer) := by
  cases timer with
  | none => exact refl scene
  | some timer => exact loop scene (.removeTimer? _ (some timer))

end Retimed

/-- The indicator works on a scene that is retimed before and after it. -/
def Indicated (first last : Scene) : Prop :=
  ∃ start stop, Retimed first start ∧ Draws start stop ∧ Retimed stop last

namespace Indicated

variable {first second third : Scene}

theorem retimed (kept : Retimed first second) : Indicated first second :=
  ⟨second, second, kept, .refl second, .refl second⟩

theorem draws (drawn : Draws first second) : Indicated first second :=
  ⟨first, second, .refl first, drawn, .refl second⟩

theorem before (kept : Retimed first second) (indicated : Indicated second third) : Indicated first third := by
  obtain ⟨start, stop, early, drawn, late⟩ := indicated
  exact ⟨start, stop, kept.trans early, drawn, late⟩

theorem after (indicated : Indicated first second) (kept : Retimed second third) : Indicated first third := by
  obtain ⟨start, stop, early, drawn, late⟩ := indicated
  exact ⟨start, stop, early, drawn, late.trans kept⟩

end Indicated

/-- An event changes the scene by the handler of a scene event, by a timer or a step of the main function,
or by the indicator alone. -/
inductive SceneStep (state : SwaylockState) (env : Environment) : Event → Scene → Prop
  | tick (now : Timespec) : SceneStep state env (.tick now) { state.scene with clock := now }
  | scene {event : SceneEvent} {next : Scene} (allowed : sceneEnabled state.scene env event = true)
      (handled : handleScene state.scene env state.runDisplay event = .ok next) :
      SceneStep state env (.scene event) next
  | hiddenCheck {timer : TimerId} {result : InputResult} {next : Scene}
      (due : state.scene.eventloop.due state.scene.clock timer = some .hiddenCheckTimeout)
      (kept : Retimed (hiddenCheckTimeout state.scene env) next) : SceneStep state env (.timer timer result) next
  | connectionTimeout {timer : TimerId} {result : InputResult} {client : BgClientId} {middle next : Scene}
      (due : state.scene.eventloop.due state.scene.clock timer = some (.clientConnectionTimeout client))
      (handled : clientConnectionTimeout state.scene env client = .ok middle) (kept : Retimed middle next) :
      SceneStep state env (.timer timer result) next
  | redrawTimeout {timer : TimerId} {result : InputResult} {output : OutputId} {middle next : Scene}
      (due : state.scene.eventloop.due state.scene.clock timer = some (.outputRedrawTimeout output))
      (handled : outputRedrawTimeout state.scene env output = .ok middle) (kept : Retimed middle next) :
      SceneStep state env (.timer timer result) next
  | start {added created next : Scene} (kept : Retimed state.scene added)
      (creates : createSurfaces added env = .ok created) (runs : startMainPlugin created env = .ok next) :
      SceneStep state env .start next
  | armHiddenCheck : SceneStep state env .armHiddenCheck (armHiddenCheck state.scene)
  | resume : SceneStep state env .resume (resumeAllClients state.scene env)
  | indicated {event : Event} {next : Scene} (indicated : Indicated state.scene next) : SceneStep state env event next

theorem dispatchTimer_sceneStep (state : SwaylockState) (env : Environment) (timer : TimerId) (result : InputResult) :
    Ensures (dispatchTimer state env timer result) fun next =>
      SceneStep state env (.timer timer result) next.scene := by
  refine .read fun callback due => ?_
  have freed (scene : Scene) : Retimed scene { scene with eventloop := scene.eventloop.freeTimer timer } :=
    .loop scene (.freeTimer _ timer)
  have shown {middle : SwaylockState} (indicates : Indicates state middle) :
      SceneStep state env (.timer timer result) (freeTimer middle timer).scene :=
    .indicated ((Indicated.draws indicates.draws).after (freed _))
  cases callback with
  | setInputIdle => exact .pure (shown (setInputIdle_indicates state))
  | setAuthIdle => exact .pure (shown (setAuthIdle_indicates state))
  | clearPassword => exact .pure (shown (clearPassword_indicates state))
  | hiddenCheckTimeout => exact .pure (.hiddenCheck due (freed _))
  | graceTimeout =>
      have closed : Retimed state.scene (graceTimeout state).scene := .loop state.scene (.same rfl)
      exact .pure (.indicated (.retimed (closed.trans (freed _))))
  | clientConnectionTimeout client =>
      intro next computed
      obtain ⟨middle, ran, rest⟩ := bind_ok.mp computed
      obtain ⟨scene, handled, same⟩ := bind_ok.mp ran
      cases same
      cases rest
      exact .connectionTimeout due handled (freed scene)
  | outputRedrawTimeout output =>
      intro next computed
      obtain ⟨middle, ran, rest⟩ := bind_ok.mp computed
      obtain ⟨scene, handled, same⟩ := bind_ok.mp ran
      cases same
      cases rest
      exact .redrawTimeout due handled (freed scene)
  | keyboardRepeat seat =>
      refine .via (fun middle => Indicated state.scene middle.scene) ?_ fun middle indicated =>
        .pure (.indicated (indicated.after (freed _)))
      refine .read fun record _ => .pure ?_
      have armed : Retimed state.scene (state.armSeat seat record.repeatPeriodMs fun seat => seat).scene :=
        .loop state.scene (.addTimer _ _ _ rfl)
      exact .before armed (.draws (swaylockHandleKey_indicates _ _ _ _ _).draws)

theorem keyboardKey_indicated (state : SwaylockState) (id : SeatId) (pressed : Bool) (sym codepoint : UInt32)
    (random : Nat) (written : Bool) :
    Ensures (keyboardKey state id pressed sym codepoint random written) fun next =>
      Indicated state.scene next.scene := by
  unfold keyboardKey
  split
  · exact .pure (.retimed (.refl _))
  · split
    · exact .pure (.retimed (.refl _))
    · have handled : Indicated state.scene
          (if pressed then swaylockHandleKey state (.ofCode sym) codepoint random written else state).scene := by
        split
        · exact .draws (swaylockHandleKey_indicates state _ _ _ _).draws
        · exact .retimed (.refl _)
      refine .via (fun stopped => Indicated state.scene stopped.scene) ?_ fun stopped indicated => ?_
      · exact .read fun seat _ => .pure (handled.after (.removeTimer? _ seat.repeatTimer))
      · refine .read fun seat _ => ?_
        split
        · exact .pure (indicated.after (.loop stopped.scene (.addTimer _ _ _ rfl)))
        · exact .pure indicated

theorem sceneStep_of_step {state next : SwaylockState} {occurrence : Occurrence}
    (moved : swaylock.machine.step state occurrence next) :
    SceneStep state occurrence.env occurrence.event next.scene := by
  obtain ⟨event, env⟩ := occurrence
  obtain ⟨allowed, handled⟩ := moved
  revert next
  change Ensures (handleEvent state env event) fun next => SceneStep state env event next.scene
  change enabled state ⟨event, env⟩ = true at allowed
  have retimed {scene : Scene} (kept : Retimed state.scene scene) : SceneStep state env event scene :=
    .indicated (.retimed kept)
  have same {scene : Scene} (same : scene = state.scene) : SceneStep state env event scene := retimed (same ▸ .refl _)
  cases event with
  | tick now => exact .pure (.tick now)
  | scene event =>
      intro next computed
      obtain ⟨scene, handled, rest⟩ := bind_ok.mp computed
      cases rest
      refine .scene ?_ handled
      simp only [enabled] at allowed
      split at allowed
      · exact ((Bool.and_eq_true _ _).mp allowed).2
      · exact ((Bool.and_eq_true _ _).mp allowed).2
  | timer timer result => exact dispatchTimer_sceneStep state env timer result
  | seatAdded => exact .pure (same rfl)
  | seatCapabilities seat pointer keyboard => exact .read fun _ _ => .pure (same rfl)
  | keymap loaded => exact .pure (same rfl)
  | key seat pressed sym codepoint result =>
      exact (keyboardKey_indicated state seat pressed sym codepoint _ _).weaken fun _ => .indicated
  | keyboardLeave seat => exact .read fun record _ => .pure (retimed (.removeTimer? state.scene record.repeatTimer))
  | modifiers layoutSame capsLock control =>
      refine .pure ?_
      unfold keyboardModifiers
      split
      · exact same rfl
      · dsimp only
        split
        · exact .indicated (.draws (.damage (.refl state.scene)))
        · exact same rfl
  | repeatInfo seat rate delay => exact .read fun _ _ => .pure (same rfl)
  | pointerEnter seat x y => exact fun _ entered => same (by rw [wlPointerEnter_ok entered])
  | pointerMotion seat x y => exact fun _ moved => same (by rw [wlPointerMotion_ok moved])
  | commReply success =>
      refine .pure ?_
      unfold commIn
      dsimp only
      split
      · exact same rfl
      · have scheduled := (scheduleAuthIdle_indicates { state with
          comm := { state.comm with replies := state.comm.replies + 1 }, authState := .invalid }).draws
        exact .indicated (.draws scheduled.damage)
  | lockNow =>
      refine .pure ?_
      unfold lockIn
      split
      · exact same rfl
      · rename_i timer _
        exact retimed (.loop state.scene (.removeTimer? state.scene.eventloop (some timer)))
  | sleepNotice =>
      refine .pure ?_
      unfold sleepIn
      dsimp only
      split
      · exact retimed (.loop state.scene (.same rfl))
      · rename_i timer _
        exact retimed (.loop state.scene (.removeTimer? state.scene.eventloop (some timer)))
  | sweep => exact .pure (retimed (.loop state.scene (.sweep _)))
  | start =>
      intro next computed
      obtain ⟨created, creates, computed⟩ := bind_ok.mp computed
      obtain ⟨started, runs, computed⟩ := bind_ok.mp computed
      cases computed
      have added : Retimed state.scene (addDescriptors { state with sleepCommR := -1, sleepCommW := -1 }).scene :=
        .loop state.scene (.same rfl)
      exact .start added creates runs
  | startGrace watcher =>
      refine .pure ?_
      unfold startGracePeriod
      split
      · split
        · exact same rfl
        · exact retimed (.loop state.scene (.addTimer state.scene.eventloop _ _ rfl))
      · exact same rfl
  | armHiddenCheck => exact .pure .armHiddenCheck
  | resume => exact .pure .resume
  | _ =>
      refine (handleEvent_plain state env rfl).weaken ?_
      rintro _ ⟨fd, _, _, _, _, rfl⟩
      exact retimed ⟨state.scene.eventloop, fd, .same rfl, rfl⟩

/-- A step that handles no request has these effects. -/
abbrev stepEffects : List Effect := eventEffects ++ [.armIndicator, .done]

theorem SceneStep.keeps (Holds : Scene → Prop) {state : SwaylockState} {env : Environment} {event : Event} {next : Scene}
    (step : SceneStep state env event next) (start : Holds state.scene)
    (ticks : ∀ scene now, Holds scene → Holds { scene with clock := now })
    (retimed : ∀ first second, Retimed first second → Holds first → Holds second)
    (changes : ∀ first second, Changes stepEffects first second → Holds first → Holds second)
    (requests : ∀ client request last, event = .scene (.request client request) →
      handleRequest state.scene client request = .ok last → Holds last) : Holds next := by
  cases step with
  | tick now => exact ticks state.scene now start
  | @scene event _ _ handled =>
      by_cases other : event.isRequest = false
      · exact changes _ _ ((handleScene_eventEffects env state.runDisplay other _ handled).widen (by simp)) start
      · cases event with
        | request client request => exact requests client request _ rfl handled
        | _ => exact absurd rfl other
  | hiddenCheck _ kept => exact retimed _ _ kept (changes _ _ ((hiddenCheckTimeout_changes env).widen (by simp)) start)
  | connectionTimeout _ handled kept =>
      have timed : Changes stepEffects _ _ := (clientConnectionTimeout_changes env _ _ handled).widen (by simp)
      exact retimed _ _ kept (changes _ _ timed start)
  | redrawTimeout _ handled kept =>
      have timed : Changes stepEffects _ _ := (outputRedrawTimeout_changes env _ _ handled).widen (by simp)
      exact retimed _ _ kept (changes _ _ timed start)
  | start kept creates runs =>
      have created := changes _ _ ((createSurfaces_changes env _ creates).widen (by simp)) (retimed _ _ kept start)
      exact changes _ _ ((startMainPlugin_changes env _ runs).widen (by simp)) created
  | armHiddenCheck => exact changes _ _ (armHiddenCheck_changes.widen (by simp)) start
  | resume => exact changes _ _ ((resumeAllClients_changes env).widen (by simp)) start
  | indicated indicated =>
      obtain ⟨_, _, early, drawn, late⟩ := indicated
      exact retimed _ _ late (changes _ _ (drawn.changes.widen (by simp)) (retimed _ _ early start))

/-- These effects come from no plugin and from no destroyed object. -/
abbrev idleEffects : List Effect := outputEffects ++ [.removeOutput, .armIndicator, .done]

/-- A property of the scene is robust when time, idle effects and destroyed objects keep it. -/
structure Robust (Holds : Scene → Prop) : Prop where
  ticks : ∀ scene now, Holds scene → Holds { scene with clock := now }
  retimed : ∀ first second, Retimed first second → Holds first → Holds second
  changes : ∀ first second, Changes idleEffects first second → Holds first → Holds second
  destroyed : ∀ scene owned, Holds scene → Ensures (destroyOwned scene owned) Holds

namespace Robust

variable {Holds : Scene → Prop} {scene : Scene}

theorem covered (robust : Robust Holds) (holds : Holds scene) {effects : List Effect} {computation : Handled Scene}
    (changes : Ensures computation (Changes effects scene)) (listed : ∀ effect ∈ effects, effect ∈ idleEffects) :
    Ensures computation Holds :=
  changes.weaken fun _ changed => robust.changes _ _ (changed.widen listed) holds

theorem disconnected (robust : Robust Holds) (holds : Holds scene) (client : WlClientId) (owned : List Owned) :
    Ensures (wlClientDestroy scene client owned) Holds := by
  have emptied : Ensures (owned.foldlM destroyOwned scene) Holds := .foldlM_holds robust.destroyed owned holds
  unfold wlClientDestroy
  split
  · refine emptied.bind fun last kept => .pure (robust.changes last _ (.single (.clients _ _ _ _ _) ?_) kept)
    simp
  · exact .throw

theorem timedOut (robust : Robust Holds) (holds : Holds scene) (env : Environment) (id : BgClientId) :
    Ensures (clientTimeout scene env id) Holds := by
  refine .read fun record _ => .via Holds ?_ fun middle kept => ?_
  · unfold destroyTimedOut
    split
    · exact robust.disconnected holds record.client env.owned
    · exact .pure holds
  · refine (robust.covered kept (cleanupClient_changes env id) (by simp)).bind fun cleaned kept => .pure ?_
    exact robust.changes _ _ ((setupClientlessMode_changes env).widen (by simp)) kept

theorem outputGone (robust : Robust Holds) (env : Environment) (id : OutputId)
    (closes : ∀ output, scene.outputs.cell id = some output →
      Ensures (closePluginSurface { scene with surfaces := scene.surfaces.erase id } output.pluginSurface) Holds) :
    Ensures (destroySurface scene env id) Holds := by
  refine .read fun output present => (closes output present).bind fun closed kept => ?_
  refine .via Holds ?_ fun emptied kept => .check fun _ => .pure ?_
  · cases output.client with
    | none => exact .pure kept
    | some client =>
        refine .read fun record _ => (robust.disconnected kept record.client env.owned).bind fun emptied kept => ?_
        exact robust.covered kept (cleanupClient_changes env client) (by simp)
  · have dropped : Changes idleEffects emptied (emptied.removeTimer? output.clientSubmissionTimer) :=
      .removeTimer? emptied output.clientSubmissionTimer (by simp)
    exact robust.changes _ _ (dropped.trans (.single (.freeOutput id) (by simp))) kept

theorem event (robust : Robust Holds) (holds : Holds scene) (env : Environment) (runDisplay : Bool) (event : SceneEvent)
    (closes : ∀ name id output, event = .outputRemoved name → scene.surfaces.find? (fun id =>
      (scene.outputs.cell id).any fun output => output.outputGlobalName == name) = some id →
        scene.outputs.cell id = some output →
          Ensures (closePluginSurface { scene with surfaces := scene.surfaces.erase id } output.pluginSurface) Holds)
    (requests : ∀ client request, event = .request client request →
      Ensures (handleRequest scene client request) Holds) : Ensures (handleScene scene env runDisplay event) Holds := by
  cases event with
  | configure output serial width height =>
      refine robust.covered holds (extSessionLockSurfaceV1HandleConfigure_changes env output serial width height) ?_
      simp
  | outputAdded name => exact .pure (robust.changes _ _ (.single (.addOutput _ ⟨rfl, rfl⟩) (by simp)) holds)
  | outputRemoved name =>
      change Ensures (handleGlobalRemove scene env name) _
      unfold handleGlobalRemove
      split
      · exact .pure holds
      · rename_i id found
        exact robust.outputGone env id fun output present => closes name id output rfl found present
  | outputGeometry output => exact robust.covered holds (handleWlOutputGeometry_changes runDisplay output) (by simp)
  | outputScale output factor =>
      exact robust.covered holds (handleWlOutputScale_changes runDisplay output factor) (by simp)
  | outputDone output => exact robust.covered holds (handleWlOutputDone_changes env runDisplay output) (by simp)
  | outputDescReady output => exact robust.covered holds (handleOutputDescReady_changes env runDisplay output) (by simp)
  | preferredScale output scale => exact robust.covered holds (fractScalePreferredScale_changes output scale) (by simp)
  | frameDone output => exact robust.covered holds (surfaceFrameHandleDone_changes output) (by simp)
  | backgroundFrameDone callbacks => exact robust.covered holds (bgFrameHandleDone_changes env callbacks) (by simp)
  | request client request => exact requests client request rfl
  | clientGone client =>
      refine .via Holds ?_ fun notified kept => robust.disconnected kept client env.owned
      cases recordOf scene client with
      | none => exact .pure holds
      | some id => exact robust.covered holds (clientDestroyed_changes env id) (by simp)
  | nestedDispatched => exact .pure (robust.changes _ _ ((afterDispatchNested_changes env).widen (by simp)) holds)

theorem step (robust : Robust Holds) {state : SwaylockState} {env : Environment} {event : Event} {next : Scene}
    (holds : Holds state.scene) (step : SceneStep state env event next)
    (closes : ∀ name id output, event = .scene (.outputRemoved name) → state.scene.surfaces.find? (fun id =>
      (state.scene.outputs.cell id).any fun output => output.outputGlobalName == name) = some id →
        state.scene.outputs.cell id = some output → Ensures (closePluginSurface
          { state.scene with surfaces := state.scene.surfaces.erase id } output.pluginSurface) Holds)
    (requests : ∀ client request, event = .scene (.request client request) →
      Ensures (handleRequest state.scene client request) Holds) : Holds next := by
  cases step with
  | tick now => exact robust.ticks _ _ holds
  | scene _ handled =>
      exact robust.event holds env _ _ (fun name id output same => closes name id output (congrArg Event.scene same))
        (fun client request same => requests client request (congrArg Event.scene same)) _ handled
  | hiddenCheck _ same =>
      exact robust.retimed _ _ same (robust.changes _ _ ((hiddenCheckTimeout_changes env).widen (by simp)) holds)
  | @connectionTimeout _ _ client _ _ _ handled same =>
      refine robust.retimed _ _ same (Ensures.read (fun record _ => ?_) _ handled)
      exact robust.timedOut (robust.changes _ _ (.setBgClient _ client _ (by simp)) holds) env client
  | @redrawTimeout _ _ id _ _ _ handled same =>
      refine robust.retimed _ _ same (Ensures.read (fun output _ => ?_) _ handled)
      have noted : Holds (state.scene.setOutput id fun output => { output with clientSubmissionTimer := none }) :=
        robust.changes _ _ (.setOutput .timer _ id (fun _ => rfl) (by simp)) holds
      dsimp only
      split
      · exact .pure noted
      · exact robust.timedOut noted env _
  | start same creates runs =>
      have created := robust.changes _ _ ((createSurfaces_changes env _ creates).widen (by simp))
        (robust.retimed _ _ same holds)
      exact robust.changes _ _ ((startMainPlugin_changes env _ runs).widen (by simp)) created
  | armHiddenCheck => exact robust.changes _ _ (armHiddenCheck_changes.widen (by simp)) holds
  | resume => exact robust.changes _ _ ((resumeAllClients_changes env).widen (by simp)) holds
  | indicated indicated =>
      obtain ⟨_, _, early, drawn, late⟩ := indicated
      exact robust.retimed _ _ late (robust.changes _ _ (drawn.changes.widen (by simp)) (robust.retimed _ _ early holds))

end Robust

end SwaylockPlugin
