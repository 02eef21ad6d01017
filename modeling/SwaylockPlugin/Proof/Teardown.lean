import SwaylockPlugin.Proof.EventFootprints
import SwaylockPlugin.Proof.Quiet
import SwaylockPlugin.Proof.SceneSteps

namespace SwaylockPlugin

open Library

/-- The panel of an output consists of what the end of the nested server reads of it. -/
structure Panel where
  width : UInt32
  height : UInt32
  scale : Int32
  newestSerial : UInt32
  hasNewerSerial : Bool
  hasBuffer : Bool
  frame : Bool

def SwaylockSurface.panel (output : SwaylockSurface) : Panel where
  width := output.width
  height := output.height
  scale := output.scale
  newestSerial := output.newestSerial
  hasNewerSerial := output.hasNewerSerial
  hasBuffer := output.hasBuffer
  frame := output.frame

/-- A relation covers the handlers that may end the nested server when it covers their parts. -/
structure Teardown (env : Environment) (relation : Scene → Scene → Prop) : Prop where
  refl : ∀ scene, relation scene scene
  trans : ∀ {first second third}, relation first second → relation second third → relation first third
  tended : ∀ {first second}, Quiet first second → Changes clientEffects first second → relation first second
  retimed : ∀ {first second}, Retimed first second → relation first second
  noted : ∀ scene output {change : SwaylockSurface → SwaylockSurface}, (∀ record, (change record).core = record.core) →
    (∀ record, (change record).panel = record.panel) → relation scene (scene.setOutput output change)
  locked : ∀ {scene output record}, scene.outputs.cell output = some record →
    relation scene (createLockSurface scene output)
  destroyed : ∀ scene client, Ensures (wlClientDestroy scene client env.owned) (relation scene)
  fallen : ∀ scene, relation scene (setupClientlessMode scene env)

/-- A scene event may end the nested server when an output becomes ready and after a dispatch of the server. -/
def SceneEvent.ends : SceneEvent → Bool
  | .outputDone _ | .outputDescReady _ | .nestedDispatched => true
  | _ => false

theorem handleScene_display {env : Environment} (scene : Scene) (runDisplay : Bool) {event : SceneEvent}
    (lasts : event.ends = false) :
    Ensures (handleScene scene env runDisplay event) fun next => next.display = scene.display := by
  have kept {effects : List Effect} {computation : Handled Scene} (absent : Effect.display ∉ effects)
      (changes : Ensures computation (Changes effects scene)) :
      Ensures computation fun next => next.display = scene.display :=
    changes.weaken fun _ changes => changes.display absent
  cases event with
  | configure output serial width height =>
      exact kept (by simp) (extSessionLockSurfaceV1HandleConfigure_changes env output serial width height)
  | outputAdded name => exact .pure rfl
  | outputRemoved name => exact kept (by simp) (handleGlobalRemove_changes env name)
  | outputGeometry output => exact kept (by simp) (handleWlOutputGeometry_changes runDisplay output)
  | outputScale output factor => exact kept (by simp) (handleWlOutputScale_changes runDisplay output factor)
  | outputDone => cases lasts
  | outputDescReady => cases lasts
  | preferredScale output scale => exact kept (by simp) (fractScalePreferredScale_changes output scale)
  | frameDone output => exact kept (by simp) (surfaceFrameHandleDone_changes output)
  | backgroundFrameDone callbacks => exact kept (by simp) (bgFrameHandleDone_changes env callbacks)
  | request client request =>
      by_cases registry : request = .getRegistry
      · subst registry
        exact kept (by simp) (clientResourceCreate_changes client)
      · exact kept (by simp) (handleRequest_requestEffects client registry)
  | clientGone client => exact kept (by simp) (clientGone_changes env client)
  | nestedDispatched => cases lasts

namespace Teardown

variable {env : Environment} {relation : Scene → Scene → Prop}

theorem runsPlugin (rules : Teardown env relation) (scene : Scene) (place : Option OutputId) :
    Ensures (runPluginCommand scene env place) fun result => relation scene result.1 :=
  ((runPluginCommand_quiet scene env place).both (runPluginCommand_changes env place)).weaken
    fun _ ran => rules.tended ran.1 ran.2

theorem createSurface (rules : Teardown env relation) (scene : Scene) (output : OutputId) :
    Ensures (createSurface scene env output) (relation scene) := by
  refine .read fun record present => ?_
  have locked : relation scene (createLockSurface scene output) := rules.locked present
  have started : Ensures (startOutputPlugin (createLockSurface scene output) env output)
      (relation (createLockSurface scene output)) := by
    unfold startOutputPlugin
    split
    · refine (rules.runsPlugin _ (some output)).bind fun result ran => ?_
      obtain ⟨next, success⟩ := result
      dsimp only
      split
      · exact .pure ran
      · exact .pure (rules.trans ran (rules.fallen next))
    · exact .pure (rules.refl _)
  refine started.bind fun next covered => .pure ?_
  have marked : relation next (next.setOutput output fun output => { output with created := true }) :=
    rules.noted next output (fun _ => rfl) fun _ => rfl
  exact rules.trans (rules.trans locked covered) marked

theorem initSurfaceIfReady (rules : Teardown env relation) (scene : Scene) (runDisplay : Bool) (output : OutputId) :
    Ensures (initSurfaceIfReady scene env runDisplay output) (relation scene) := by
  refine .read fun record _ => ?_
  split
  · exact .pure (rules.refl scene)
  · exact rules.createSurface scene output

theorem clientTimeout (rules : Teardown env relation) (scene : Scene) (client : BgClientId) :
    Ensures (clientTimeout scene env client) (relation scene) := by
  refine .read fun record _ => ?_
  have destroyed : Ensures (destroyTimedOut scene env record.client) (relation scene) := by
    unfold destroyTimedOut
    split
    · exact rules.destroyed scene record.client
    · exact .pure (rules.refl scene)
  refine destroyed.bind fun next ended => ?_
  refine ((cleanupClient_quiet next env client).both (cleanupClient_changes env client)).bind fun last cleaned => ?_
  exact .pure (rules.trans (rules.trans ended (rules.tended cleaned.1 cleaned.2)) (rules.fallen last))

theorem clientConnectionTimeout (rules : Teardown env relation) (scene : Scene) (client : BgClientId) :
    Ensures (clientConnectionTimeout scene env client) (relation scene) := by
  refine .read fun record _ => ?_
  have disarmed : relation scene (scene.setBgClient client fun record => { record with clientConnectTimer := none }) :=
    rules.tended (.unrelated rfl) (.setBgClient scene client _ (by simp))
  exact (rules.clientTimeout _ client).weaken fun _ ended => rules.trans disarmed ended

theorem outputRedrawTimeout (rules : Teardown env relation) (scene : Scene) (output : OutputId) :
    Ensures (outputRedrawTimeout scene env output) (relation scene) := by
  refine .read fun record _ => ?_
  have disarmed : relation scene (scene.setOutput output fun output => { output with clientSubmissionTimer := none }) :=
    rules.noted scene output (fun _ => rfl) fun _ => rfl
  dsimp only
  split
  · exact .pure disarmed
  · exact (rules.clientTimeout _ _).weaken fun _ ended => rules.trans disarmed ended

theorem createSurfaces (rules : Teardown env relation) (scene : Scene) :
    Ensures (createSurfaces scene env) (relation scene) := by
  refine Ensures.foldlM rules.refl rules.trans (fun state output => ?_) scene.surfaces scene
  exact .read fun record _ => .check fun _ => rules.createSurface state output

theorem startMainPlugin (rules : Teardown env relation) (scene : Scene) :
    Ensures (startMainPlugin scene env) (relation scene) := by
  unfold SwaylockPlugin.startMainPlugin
  split
  · exact .pure (rules.refl scene)
  · refine (rules.runsPlugin scene none).bind fun result started => ?_
    obtain ⟨next, success⟩ := result
    dsimp only
    split
    · exact .pure started
    · exact .pure (rules.trans started (rules.fallen next))

theorem handleScene (rules : Teardown env relation) (scene : Scene) (runDisplay : Bool) {event : SceneEvent}
    (ends : event.ends = true) : Ensures (handleScene scene env runDisplay event) (relation scene) := by
  cases event with
  | outputDone output =>
      have noted : relation scene (scene.setOutput output fun output => { output with hasOutputDone := true }) :=
        rules.noted scene output (fun _ => rfl) fun _ => rfl
      refine .read fun _ _ => (rules.initSurfaceIfReady _ runDisplay output).weaken fun _ ready => ?_
      exact rules.trans noted ready
  | outputDescReady output =>
      have noted : relation scene (scene.setOutput output fun output => { output with outputDescCurrent := true }) :=
        rules.noted scene output (fun _ => rfl) fun _ => rfl
      refine .read fun _ _ => (rules.initSurfaceIfReady _ runDisplay output).weaken fun _ ready => ?_
      exact rules.trans noted ready
  | nestedDispatched =>
      refine .pure ?_
      unfold afterDispatchNested
      split
      · exact rules.fallen scene
      · exact rules.refl scene
  | _ => cases ends

theorem of_step (rules : Teardown env relation) {state next : SwaylockState} {event : Event}
    (moved : swaylock.machine.step state ⟨event, env⟩ next) (ends : next.scene.display ≠ state.scene.display) :
    relation state.scene next.scene := by
  have step := sceneStep_of_step moved
  dsimp only at step
  have retimes {first second : Scene} (kept : Retimed first second) : second.display = first.display := by
    obtain ⟨_, _, _, rfl⟩ := kept
    rfl
  generalize next.scene = last at step ends
  cases step with
  | tick now => exact absurd rfl ends
  | @scene event _ allowed handled =>
      by_cases may : event.ends = true
      · exact rules.handleScene state.scene state.runDisplay may _ handled
      · have lasts := handleScene_display state.scene state.runDisplay ((Bool.not_eq_true _).mp may) _ handled
        exact absurd lasts ends
  | hiddenCheck _ kept => exact absurd ((retimes kept).trans (hiddenCheckTimeout_quiet state.scene env).display) ends
  | connectionTimeout _ handled kept =>
      exact rules.trans (rules.clientConnectionTimeout _ _ _ handled) (rules.retimed kept)
  | redrawTimeout _ handled kept =>
      exact rules.trans (rules.outputRedrawTimeout _ _ _ handled) (rules.retimed kept)
  | start kept makes runs =>
      have begun := rules.trans (rules.retimed kept) (rules.createSurfaces _ _ makes)
      exact rules.trans begun (rules.startMainPlugin _ _ runs)
  | armHiddenCheck => exact absurd (armHiddenCheck_quiet state.scene).display ends
  | resume => exact absurd (resumeAllClients_quiet state.scene env).display ends
  | indicated indicated =>
      obtain ⟨start, stop, early, draws, late⟩ := indicated
      exact absurd ((retimes late).trans ((draws.changes.display (by simp)).trans (retimes early))) ends

end Teardown

end SwaylockPlugin
