import SwaylockPlugin.Abstract.Signals
import SwaylockPlugin.Proof.SceneSteps

namespace SwaylockPlugin

open Library

/-- The roster of a scene holds its client records and the list of them. -/
def Scene.roster (scene : Scene) : Roster := ⟨scene.bgClients, scene.clients⟩

/-- A scene signals when its roster runs to the next one, and it is calm when no process group is stopped by that. -/
def Signals (calm : Bool) (first second : Scene) : Prop :=
  first.roster.Sound → ∃ events, rostering.Run first.roster events second.roster ∧
    (calm = true → ∀ id, RosterEvent.stopped id ∉ events)

namespace Signals

variable {calm : Bool} {first second third : Scene}

theorem of_roster (same : second.roster = first.roster) : Signals calm first second :=
  fun _ => ⟨[], same ▸ .rest _, fun _ _ => nofun⟩

theorem refl (scene : Scene) : Signals calm scene scene := of_roster rfl

theorem trans (one : Signals calm first second) (two : Signals calm second third) : Signals calm first third := by
  intro sound
  obtain ⟨early, run, calmly⟩ := one sound
  obtain ⟨late, rest, quietly⟩ := two (sound.run run)
  refine ⟨early ++ late, run.append rest, fun mode id listed => ?_⟩
  rcases List.mem_append.mp listed with before | after
  · exact calmly mode id before
  · exact quietly mode id after

theorem andThen {rest : Handled Scene} (start : Signals calm first second) (after : Ensures rest (Signals calm second)) :
    Ensures rest (Signals calm first) :=
  after.weaken fun _ later => start.trans later

theorem single {event : RosterEvent} (moved : first.roster.Sound → first.roster.Step event second.roster)
    (running : calm = true → ∀ id, event ≠ .stopped id) : Signals calm first second := by
  intro sound
  refine ⟨[event], .single (moved sound), fun mode id listed => ?_⟩
  exact running mode id (List.mem_singleton.mp listed).symm

theorem relax (signals : Signals true first second) : Signals calm first second := by
  intro sound
  obtain ⟨events, run, running⟩ := signals sound
  exact ⟨events, run, fun _ => running rfl⟩

theorem loose (signals : Signals calm first second) : Signals false first second := by
  intro sound
  obtain ⟨events, run, _⟩ := signals sound
  exact ⟨events, run, nofun⟩

theorem setBgClient (scene : Scene) (id : BgClientId) {change : SwaylockBgClient → SwaylockBgClient}
    (kept : ∀ record, (change record).paused = record.paused ∧ (change record).pid = record.pid) :
    Signals calm scene (scene.setBgClient id change) :=
  single (fun _ => .changed scene.roster id kept) fun _ _ => nofun

theorem foldl {Item : Type} {body : Scene → Item → Scene} (iteration : ∀ scene item, Signals calm scene (body scene item))
    (items : List Item) (scene : Scene) : Signals calm scene (items.foldl body scene) :=
  foldl_keeps refl trans iteration items scene

theorem of_change {effect : Effect} (change : Change first effect second) (apart : effect ≠ .client) :
    Signals calm first second := by
  cases change with
  | serial id => exact setBgClient first id fun _ => ⟨rfl, rfl⟩
  | clients => exact absurd rfl apart
  | _ => exact of_roster rfl

theorem of_changes {effects : List Effect} (changes : Changes effects first second)
    (apart : Effect.client ∉ effects) : Signals calm first second := by
  induction changes with
  | refl => exact refl first
  | step _ listed change ih =>
      exact ih.trans (of_change change fun same => apart (same ▸ listed))

theorem of_retimed (kept : Retimed first second) : Signals calm first second := by
  obtain ⟨_, _, _, rfl⟩ := kept
  exact of_roster rfl

theorem of_indicated (indicated : Indicated first second) : Signals calm first second := by
  obtain ⟨start, stop, early, draws, late⟩ := indicated
  exact ((of_retimed early).trans (of_changes draws.changes (by simp))).trans (of_retimed late)

end Signals

theorem Changes.signals {calm : Bool} {scene : Scene} {effects : List Effect} {computation : Handled Scene}
    (covered : Ensures computation (Changes effects scene)) (apart : Effect.client ∉ effects) :
    Ensures computation (Signals calm scene) :=
  covered.weaken fun _ changes => .of_changes changes apart

variable {scene : Scene} {env : Environment}

section Clients

theorem setClientPaused_signals (id : BgClientId) (paused : Bool)
    (listed : paused = true → id ∈ scene.clients) :
    Signals (!paused) scene (setClientPaused scene env id paused) := by
  unfold setClientPaused
  cases present : scene.bgClients.cell id with
  | none => exact .refl scene
  | some record =>
      dsimp only
      split
      · exact .refl scene
      · rename_i moves
        simp only [Bool.or_eq_true, decide_eq_true_eq, beq_iff_eq, Bool.not_eq_true', not_or, Int.not_le,
          Bool.not_eq_false] at moves
        cases paused with
        | true => exact .single (fun _ => .stopped scene.roster (listed rfl) present moves.1.1) nofun
        | false => exact .single (fun _ => .continued scene.roster id) fun _ _ => nofun

theorem setClientPaused_runs (kills : ∀ pid, env.kill pid = true) (id : BgClientId) (sound : scene.roster.Sound) :
    (setClientPaused scene env id false).roster.Runs id := by
  unfold setClientPaused
  cases present : scene.bgClients.cell id with
  | none => exact fun record there => nomatch present.symm.trans there
  | some record =>
      dsimp only
      split
      · rename_i still
        rintro _ there
        cases there.symm.trans present
        simp only [Bool.or_eq_true, decide_eq_true_eq, beq_iff_eq, Bool.not_eq_true', kills, Bool.true_eq_false,
          or_false] at still
        by_contra paused
        rw [Bool.not_eq_false] at paused
        rcases still with low | same
        · exact absurd (sound id record present paused).1 (Int.not_lt.mpr low)
        · exact absurd (paused.symm.trans same) (by decide)
      · intro other there
        obtain ⟨old, _, ⟨_, rfl⟩ | ⟨apart, _⟩⟩ := scene.bgClients.old_of_modify there
        · rfl
        · exact absurd rfl apart

theorem resumeAllClients_signals : Signals true scene (resumeAllClients scene env) :=
  .foldl (fun _ id => setClientPaused_signals id false nofun) scene.clients scene

theorem Signals.runs {first second : Scene} (signals : Signals true first second) (sound : first.roster.Sound)
    {id : BgClientId} (runs : first.roster.Runs id) : second.roster.Runs id := by
  obtain ⟨events, run, calm⟩ := signals sound
  exact runs.run run (calm rfl id)

theorem resumeAllClients_runs (kills : ∀ pid, env.kill pid = true) (sound : scene.roster.Sound) (id : BgClientId) :
    (resumeAllClients scene env).roster.Runs id := by
  have resumes (items : List BgClientId) (state : Scene) (sound : state.roster.Sound)
      (runs : id ∈ items ∨ state.roster.Runs id) :
      (items.foldl (fun state id => setClientPaused state env id false) state).roster.Runs id := by
    induction items generalizing state with
    | nil => exact runs.resolve_left nofun
    | cons first rest ih =>
        have signals : Signals true state (setClientPaused state env first false) :=
          setClientPaused_signals first false nofun
        obtain ⟨events, run, _⟩ := signals sound
        refine ih _ (sound.run run) ?_
        rcases runs with listed | runs
        · rcases List.mem_cons.mp listed with rfl | later
          · exact .inr (setClientPaused_runs kills id sound)
          · exact .inl later
        · exact .inr (signals.runs sound runs)
  refine resumes scene.clients scene sound ?_
  by_cases listed : id ∈ scene.clients
  · exact .inl listed
  · refine .inr fun record present => ?_
    by_contra paused
    exact listed (sound id record present ((Bool.not_eq_false _).mp paused)).2

theorem resumeClientForSurface_signals (output : SwaylockSurface) :
    Signals true scene (resumeClientForSurface scene env output) := by
  unfold resumeClientForSurface
  split
  · exact .refl scene
  · exact setClientPaused_signals _ false nofun

theorem hiddenCheckTimeout_signals : Signals false scene (hiddenCheckTimeout scene env) := by
  have clients (state : Scene) (id : BgClientId) (paused : Bool) :
      (setClientPaused state env id paused).clients = state.clients := by
    unfold setClientPaused
    split
    · rfl
    · split <;> rfl
  have checks (items : List BgClientId) (state : Scene) (listed : ∀ id ∈ items, id ∈ state.clients) :
      Signals false state (items.foldl (fun state id => setClientPaused state env id (clientIsHidden state id)) state) := by
    induction items generalizing state with
    | nil => exact .refl state
    | cons id rest ih =>
        have checked : Signals false state (setClientPaused state env id (clientIsHidden state id)) :=
          (setClientPaused_signals id _ fun _ => listed id List.mem_cons_self).loose
        refine checked.trans (ih _ fun other later => ?_)
        rw [clients]
        exact listed other (List.mem_cons_of_mem _ later)
  have start : Signals false scene { scene with hiddenCheckTimer := none } := .of_roster rfl
  exact (start.trans (checks scene.clients _ fun _ listed => listed)).trans
    (.of_changes armHiddenCheck_changes (by simp))

theorem releaseClient_roster (id : BgClientId) (output : Option OutputId) :
    Ensures (releaseClient scene id output) fun next => next.roster = scene.roster := by
  cases output with
  | none => exact .check fun _ => .pure rfl
  | some output => exact .read fun record _ => .check fun _ => .pure rfl

theorem cleanupClient_signals (kills : ∀ pid, env.kill pid = true) (id : BgClientId) :
    Ensures (cleanupClient scene env id) (Signals true scene) := by
  refine .read fun record _ => ?_
  have disarmed (scene : Scene) : (scene.removeTimer? record.clientConnectTimer).roster = scene.roster := by
    cases record.clientConnectTimer <;> rfl
  refine (releaseClient_roster id record.uniqueOutput).bind fun released same => .pure fun sound => ?_
  have continued : Signals true scene (setClientPaused scene env id false) := setClientPaused_signals id false nofun
  have runs := setClientPaused_runs kills id sound
  generalize setClientPaused scene env id false = resumed at same continued runs
  have delisted : Signals true resumed { resumed with clients := resumed.clients.erase id } :=
    .single (fun _ => .delisted resumed.roster runs) fun _ _ => nofun
  have roster : released.roster = ⟨resumed.bgClients, resumed.clients.erase id⟩ := same.trans (disarmed _)
  have still : released.roster.Runs id := by
    rw [roster]
    exact runs
  have freed : Signals true released { released with bgClients := released.bgClients.free id } :=
    .single (fun _ => .freed released.roster still) fun _ _ => nofun
  exact (continued.trans (delisted.trans (Signals.trans (.of_roster roster) freed))) sound

theorem assignClient_signals (id : BgClientId) (output : Option OutputId) :
    Ensures (assignClient scene id output) (Signals true scene) := by
  cases output with
  | none => exact .check fun _ => .pure (.of_roster rfl)
  | some output =>
      refine .read fun record _ => .check fun _ => .pure ?_
      have taken : Signals true scene (scene.setOutput output fun output => { output with client := some id }) :=
        .of_roster rfl
      exact taken.trans (.setBgClient _ id fun _ => ⟨rfl, rfl⟩)

theorem runPluginCommand_signals (output : Option OutputId) :
    Ensures (runPluginCommand scene env output) fun result => Signals true scene result.1 := by
  unfold runPluginCommand
  split
  · exact .pure (.refl scene)
  · refine .via (Signals true scene) ?_ fun connected signals => .pure signals
    refine .check fun _ => Signals.andThen ?_ (assignClient_signals scene.bgClients.next output)
    exact .single (fun _ => .started scene.roster rfl) fun _ _ => nofun

theorem clientDestroyed_signals (kills : ∀ pid, env.kill pid = true) (id : BgClientId) :
    Ensures (clientDestroyed scene env id) (Signals true scene) := by
  have failed {middle : Scene} (signals : Signals true scene middle) :
      Signals true scene { middle with startClientlessMode := true } := signals.trans (.of_roster rfl)
  refine .read fun record _ => (cleanupClient_signals kills id).bind fun cleaned signals => ?_
  split
  · refine (runPluginCommand_signals record.uniqueOutput).bind fun result started => ?_
    obtain ⟨next, success⟩ := result
    dsimp only
    split
    · exact .pure (signals.trans started)
    · exact .pure (failed (signals.trans started))
  · exact .pure (failed signals)

theorem clientResourceCreate_signals (client : WlClientId) :
    Ensures (clientResourceCreate scene client) (Signals true scene) := by
  unfold clientResourceCreate
  split
  · exact .pure (.refl scene)
  · refine .read fun record _ => .pure ?_
    have disarmed : Signals true scene (scene.removeTimer? record.clientConnectTimer) := by
      cases record.clientConnectTimer <;> exact .of_roster rfl
    exact disarmed.trans (.setBgClient _ _ fun _ => ⟨rfl, rfl⟩)

theorem wlClientDestroy_signals (client : WlClientId) (owned : List Owned) :
    Ensures (wlClientDestroy scene client owned) (Signals true scene) := by
  unfold wlClientDestroy
  split
  · have emptied : Ensures (owned.foldlM destroyOwned scene) (Signals true scene) :=
      Ensures.foldlM Signals.refl Signals.trans
        (fun state item => Changes.signals (destroyOwned_changes item) (by simp)) owned scene
    exact emptied.bind fun middle signals => .pure (signals.trans (.of_roster rfl))
  · exact .throw

theorem clientGone_signals (kills : ∀ pid, env.kill pid = true) (client : WlClientId) :
    Ensures (clientGone scene env client) (Signals true scene) := by
  refine .via (Signals true scene) ?_ fun notified signals => signals.andThen (wlClientDestroy_signals client env.owned)
  cases recordOf scene client with
  | none => exact .pure (.refl scene)
  | some id => exact clientDestroyed_signals kills id

theorem setupClientlessMode_signals : Signals true scene (setupClientlessMode scene env) := by
  unfold setupClientlessMode
  split
  · have cancels (state : Scene) (id : OutputId) : Signals true state (cancelSubmissionTimer state id) :=
      .of_changes (cancelSubmissionTimer_changes id) (by simp)
    have cancelled : Signals true scene _ := resumeAllClients_signals.trans
      (.foldl cancels (resumeAllClients scene env).surfaces (resumeAllClients scene env))
    refine cancelled.trans (Signals.trans (.of_roster rfl) (.foldl (fun state id => ?_) _ (destroyDisplay _)))
    exact .of_changes (fallBackSurface_changes env id) (by simp)
  · exact .refl scene

theorem clientTimeout_signals (kills : ∀ pid, env.kill pid = true) (id : BgClientId) :
    Ensures (clientTimeout scene env id) (Signals true scene) := by
  refine .read fun record _ => ?_
  refine .via (Signals true scene) ?_ fun destroyed signals => ?_
  · unfold destroyTimedOut
    split
    · exact wlClientDestroy_signals record.client env.owned
    · exact .pure (.refl scene)
  · refine (signals.andThen (cleanupClient_signals kills id)).bind fun cleaned signals => .pure ?_
    exact signals.trans setupClientlessMode_signals

theorem clientConnectionTimeout_signals (kills : ∀ pid, env.kill pid = true) (id : BgClientId) :
    Ensures (clientConnectionTimeout scene env id) (Signals true scene) := by
  refine .read fun record _ => Signals.andThen ?_ (clientTimeout_signals kills id)
  exact .setBgClient scene id fun _ => ⟨rfl, rfl⟩

theorem outputRedrawTimeout_signals (kills : ∀ pid, env.kill pid = true) (id : OutputId) :
    Ensures (outputRedrawTimeout scene env id) (Signals true scene) := by
  refine .read fun output _ => ?_
  have cleared : Signals true scene
      (scene.setOutput id fun output => { output with clientSubmissionTimer := none }) := .of_roster rfl
  dsimp only
  split
  · exact .pure cleared
  · exact cleared.andThen (clientTimeout_signals kills _)

end Clients

section Outputs

theorem createSurface_signals (id : OutputId) : Ensures (createSurface scene env id) (Signals true scene) := by
  refine .read fun output _ => ?_
  have locked : Signals true scene (createLockSurface scene id) := .of_roster rfl
  refine .via (Signals true scene) ?_ fun started signals => .pure (signals.trans (.of_roster rfl))
  refine locked.andThen ?_
  unfold startOutputPlugin
  split
  · refine (runPluginCommand_signals (some id)).bind fun result started => ?_
    obtain ⟨next, success⟩ := result
    dsimp only
    split
    · exact .pure started
    · exact .pure (started.trans setupClientlessMode_signals)
  · exact .pure (.refl _)

theorem initSurfaceIfReady_signals (runDisplay : Bool) (id : OutputId) :
    Ensures (initSurfaceIfReady scene env runDisplay id) (Signals true scene) := by
  refine .read fun output _ => ?_
  split
  · exact .pure (.refl scene)
  · exact createSurface_signals id

theorem bgFrameHandleDone_signals (id : CallbackId) : Ensures (bgFrameHandleDone scene env id) (Signals true scene) := by
  refine .read fun callbacks _ => ?_
  refine .via (Signals true scene) ?_ fun presented signals => .pure ?_
  · cases callbacks.swaySurface with
    | none => exact .pure (.refl scene)
    | some output =>
        refine .read fun _ _ => .read fun record _ => .pure ?_
        have presented : Signals true scene (scene.setOutput output fun output =>
            { output with framePending := false, frameLastDone := scene.clock }) := .of_roster rfl
        exact presented.trans (resumeClientForSurface_signals record)
  · have completes (state : Scene) (callback : ResourceId) : Signals true state (completeCallback state callback) :=
      .of_roster rfl
    exact (signals.trans (.foldl completes callbacks.list presented)).trans (.of_roster rfl)

theorem destroySurface_signals (kills : ∀ pid, env.kill pid = true) (id : OutputId) :
    Ensures (destroySurface scene env id) (Signals true scene) := by
  refine .read fun output _ => ?_
  have delisted : Signals true scene { scene with surfaces := scene.surfaces.erase id } := .of_roster rfl
  refine (closePluginSurface_changes output.pluginSurface).bind fun closed closing => ?_
  have signals : Signals true scene closed := delisted.trans (.of_changes closing (by simp))
  have emptied : Ensures (destroyOutputClient closed env output.client) (Signals true closed) := by
    cases output.client with
    | none => exact .pure (.refl closed)
    | some client =>
        refine .read fun record _ => (wlClientDestroy_signals record.client env.owned).bind fun destroyed gone => ?_
        exact gone.andThen (cleanupClient_signals kills client)
  refine (signals.andThen emptied).bind fun emptied signals => .check fun _ => .pure ?_
  have disarmed : Signals true emptied (emptied.removeTimer? output.clientSubmissionTimer) := by
    cases output.clientSubmissionTimer <;> exact .of_roster rfl
  exact (signals.trans disarmed).trans (.of_roster rfl)

theorem handleScene_signals (kills : ∀ pid, env.kill pid = true) (runDisplay : Bool) (event : SceneEvent) :
    Ensures (handleScene scene env runDisplay event) (Signals true scene) := by
  cases event with
  | configure output serial width height =>
      exact Changes.signals (extSessionLockSurfaceV1HandleConfigure_changes env output serial width height) (by simp)
  | outputAdded name => exact .pure (.of_roster rfl)
  | outputRemoved name =>
      change Ensures (handleGlobalRemove scene env name) _
      unfold handleGlobalRemove
      split
      · exact .pure (.refl scene)
      · exact destroySurface_signals kills _
  | outputGeometry output => exact Changes.signals (handleWlOutputGeometry_changes runDisplay output) (by simp)
  | outputScale output factor => exact Changes.signals (handleWlOutputScale_changes runDisplay output factor) (by simp)
  | outputDone output =>
      refine .read fun _ _ => Signals.andThen ?_ (initSurfaceIfReady_signals runDisplay output)
      exact .of_roster rfl
  | outputDescReady output =>
      refine .read fun _ _ => Signals.andThen ?_ (initSurfaceIfReady_signals runDisplay output)
      exact .of_roster rfl
  | preferredScale output scale => exact Changes.signals (fractScalePreferredScale_changes output scale) (by simp)
  | frameDone output => exact Changes.signals (surfaceFrameHandleDone_changes output) (by simp)
  | backgroundFrameDone callbacks => exact bgFrameHandleDone_signals callbacks
  | request client request =>
      by_cases registry : request = .getRegistry
      · subst registry
        exact clientResourceCreate_signals client
      · exact Changes.signals (handleRequest_requestEffects client registry) (by simp)
  | clientGone client => exact clientGone_signals kills client
  | nestedDispatched =>
      refine .pure ?_
      unfold afterDispatchNested
      split
      · exact setupClientlessMode_signals
      · exact .refl scene

end Outputs

section Steps

theorem createSurfaces_signals : Ensures (createSurfaces scene env) (Signals true scene) :=
  Ensures.foldlM Signals.refl Signals.trans
    (fun _ id => .read fun _ _ => .check fun _ => createSurface_signals id) scene.surfaces scene

theorem startMainPlugin_signals : Ensures (startMainPlugin scene env) (Signals true scene) := by
  unfold startMainPlugin
  split
  · exact .pure (.refl scene)
  · refine (runPluginCommand_signals none).bind fun result started => ?_
    obtain ⟨next, success⟩ := result
    dsimp only
    split
    · exact .pure started
    · exact .pure (started.trans setupClientlessMode_signals)

/-- A timer with a hidden check is due. -/
def checksHidden (state : SwaylockState) : Event → Bool
  | .timer timer _ => state.scene.eventloop.due state.scene.clock timer == some .hiddenCheckTimeout
  | _ => false

theorem signals_of_step {state next : SwaylockState} {occurrence : Occurrence}
    (kills : ∀ pid, occurrence.env.kill pid = true) (moved : swaylock.machine.step state occurrence next) :
    Signals (!checksHidden state occurrence.event) state.scene next.scene := by
  have step := sceneStep_of_step moved
  obtain ⟨event, env⟩ := occurrence
  generalize next.scene = last at step
  cases step with
  | tick now => exact .of_roster rfl
  | scene _ handled => exact .relax (handleScene_signals kills state.runDisplay _ last handled)
  | @hiddenCheck timer result _ due kept =>
      have checks : checksHidden state (.timer timer result) = true := beq_iff_eq.mpr due
      rw [checks]
      exact hiddenCheckTimeout_signals.trans (.of_retimed kept)
  | connectionTimeout _ handled kept =>
      exact .relax ((clientConnectionTimeout_signals kills _ _ handled).trans (.of_retimed kept))
  | redrawTimeout _ handled kept =>
      exact .relax ((outputRedrawTimeout_signals kills _ _ handled).trans (.of_retimed kept))
  | start kept creates runs =>
      exact ((Signals.of_retimed kept).trans (createSurfaces_signals _ creates)).trans (startMainPlugin_signals _ runs)
  | armHiddenCheck => exact .of_changes armHiddenCheck_changes (by simp)
  | resume => exact resumeAllClients_signals
  | indicated indicated => exact .of_indicated indicated

end Steps

end SwaylockPlugin
