import SwaylockPlugin.Proof.ObjectFootprints

namespace SwaylockPlugin

open Library

variable {scene : Scene}

section Clients

theorem setClientPaused_changes (env : Environment) (id : BgClientId) (paused : Bool) :
    Changes [.client] scene (setClientPaused scene env id paused) := by
  unfold setClientPaused
  split
  · exact .refl scene
  · split
    · exact .refl scene
    · exact .setBgClient scene id _ (by simp)

theorem resumeAllClients_changes (env : Environment) :
    Changes [.client] scene (resumeAllClients scene env) :=
  Changes.foldl (fun _ id => setClientPaused_changes env id false) scene.clients scene

theorem resumeClientForSurface_changes (env : Environment) (output : SwaylockSurface) :
    Changes [.client] scene (resumeClientForSurface scene env output) := by
  unfold resumeClientForSurface
  split
  · exact .refl scene
  · exact setClientPaused_changes env _ false

theorem armHiddenCheck_changes : Changes [.arm] scene (armHiddenCheck scene) := by
  unfold armHiddenCheck
  split
  · have armed : Changes [.arm] scene (scene.addTimer hiddenCheckInterval .hiddenCheckTimeout).1 :=
      .addTimer scene hiddenCheckInterval rfl (by simp)
    exact armed.trans (.single (.hiddenCheck _) (by simp))
  · exact .refl scene

theorem hiddenCheckTimeout_changes (env : Environment) :
    Changes [.client, .arm] scene (hiddenCheckTimeout scene env) := by
  have started : Changes [.client, .arm] scene { scene with hiddenCheckTimer := none } :=
    .single (.hiddenCheck none) (by simp)
  have checks (state : Scene) (id : BgClientId) : Changes [.client, .arm] state
      (setClientPaused state env id (clientIsHidden state id)) :=
    (setClientPaused_changes env id _).widen (by simp)
  have checked := Changes.foldl checks scene.clients { scene with hiddenCheckTimer := none }
  exact (started.trans checked).trans (armHiddenCheck_changes.widen (by simp))

theorem releaseClient_changes (id : BgClientId) (output : Option OutputId) :
    Ensures (releaseClient scene id output) (Changes clientEffects scene) := by
  cases output with
  | none =>
      apply Ensures.check
      intro _
      exact .pure (.single (.clients scene.bgClients scene.wlClients scene.clients none
        scene.startClientlessMode) (by simp))
  | some output =>
      apply Ensures.read
      intro record _
      apply Ensures.check
      intro _
      exact .pure (.setOutput .client scene output (fun _ => rfl) (by simp))

theorem cleanupClient_changes (env : Environment) (id : BgClientId) :
    Ensures (cleanupClient scene env id) (Changes clientEffects scene) := by
  have resumed : Changes clientEffects scene (setClientPaused scene env id false) :=
    (setClientPaused_changes env id false).widen (by simp)
  apply Ensures.read
  intro record _
  have delisted := resumed.trans (.single (.clients (setClientPaused scene env id false).bgClients
    (setClientPaused scene env id false).wlClients ((setClientPaused scene env id false).clients.erase id)
    (setClientPaused scene env id false).mainClient (setClientPaused scene env id false).startClientlessMode)
    (by simp))
  have disarmed := delisted.trans (.removeTimer? _ record.clientConnectTimer (by simp))
  refine (disarmed.andThen (releaseClient_changes id record.uniqueOutput)).bind fun released changed => ?_
  apply Ensures.pure
  exact changed.trans (.single (.clients (released.bgClients.free id) released.wlClients released.clients
    released.mainClient released.startClientlessMode) (by simp))

theorem assignClient_changes (id : BgClientId) (output : Option OutputId) :
    Ensures (assignClient scene id output) (Changes clientEffects scene) := by
  cases output with
  | none =>
      apply Ensures.check
      intro _
      exact .pure (.single (.clients scene.bgClients scene.wlClients scene.clients (some id)
        scene.startClientlessMode) (by simp))
  | some output =>
      apply Ensures.read
      intro record _
      apply Ensures.check
      intro _
      apply Ensures.pure
      refine Changes.trans ?_ (.setBgClient _ id _ (by simp))
      exact .setOutput .client scene output (fun _ => rfl) (by simp)

theorem runPluginCommand_changes (env : Environment) (output : Option OutputId) :
    Ensures (runPluginCommand scene env output) fun result => Changes clientEffects scene result.1 := by
  unfold runPluginCommand
  split
  · exact .pure (.refl scene)
  · rename_i pid _
    refine .via (Changes clientEffects scene) ?_ fun connected changed => .pure changed
    apply Ensures.check
    intro _
    have armed : Changes clientEffects scene
        (scene.addTimer timeoutConnect (.clientConnectionTimeout scene.bgClients.next)).1 :=
      .addTimer scene _ rfl (by simp)
    refine Changes.andThen (armed.trans ?_) (assignClient_changes scene.bgClients.next output)
    exact .single (.clients _ _ _ scene.mainClient scene.startClientlessMode) (by simp)

theorem clientDestroyed_changes (env : Environment) (id : BgClientId) :
    Ensures (clientDestroyed scene env id) (Changes clientEffects scene) := by
  have failed {middle : Scene} (changed : Changes clientEffects scene middle) :
      Changes clientEffects scene { middle with startClientlessMode := true } :=
    changed.trans (.single (.clients middle.bgClients middle.wlClients middle.clients middle.mainClient true)
      (by simp))
  apply Ensures.read
  intro record _
  refine (cleanupClient_changes env id).bind fun cleaned changed => ?_
  split
  · refine (runPluginCommand_changes env record.uniqueOutput).bind fun result started => ?_
    obtain ⟨next, success⟩ := result
    dsimp only
    split
    · exact .pure (changed.trans started)
    · exact .pure (failed (changed.trans started))
  · exact .pure (failed changed)

theorem clientResourceCreate_changes (client : WlClientId) :
    Ensures (clientResourceCreate scene client) (Changes clientEffects scene) := by
  unfold clientResourceCreate
  split
  · exact .pure (.refl scene)
  · apply Ensures.read
    intro record _
    apply Ensures.pure
    refine Changes.trans ?_ (.setBgClient _ _ _ (by simp))
    exact .removeTimer? scene record.clientConnectTimer (by simp)

theorem wlClientDestroy_changes (client : WlClientId) (owned : List Owned) :
    Ensures (wlClientDestroy scene client owned) (Changes (destroyEffects ++ [.client]) scene) := by
  unfold wlClientDestroy
  split
  · refine .via (Changes (destroyEffects ++ [.client]) scene) ?_ fun emptied changed => ?_
    · apply Changes.foldlM
      exact fun state item => (destroyOwned_changes item).weaken fun _ after => after.widen (by simp)
    · apply Ensures.pure
      exact changed.trans (.single (.clients emptied.bgClients (emptied.wlClients.free client) emptied.clients
        emptied.mainClient emptied.startClientlessMode) (by simp))
  · exact .throw

theorem clientGone_changes (env : Environment) (client : WlClientId) :
    Ensures (clientGone scene env client) (Changes (destroyEffects ++ clientEffects) scene) := by
  refine .via (Changes (destroyEffects ++ clientEffects) scene) ?_ fun notified changed => ?_
  · cases recordOf scene client with
    | none => exact .pure (.refl scene)
    | some id => exact (clientDestroyed_changes env id).weaken fun _ after => after.widen (by simp)
  · refine changed.andThen ?_
    exact (wlClientDestroy_changes client env.owned).weaken fun _ after => after.widen (by simp)

end Clients

section Rendering

theorem render_changes (id : OutputId) : Changes renderEffects scene (render scene id) := by
  unfold render
  split
  · exact .refl scene
  · split
    · exact .refl scene
    · refine Changes.trans ?_ (.requestAll _ (.lock id) _ (by simp [Message.effect]))
      exact .setOutput .screen scene id (fun _ => rfl) (by simp)

theorem renderDirty_changes (id : OutputId) : Changes renderEffects scene (renderDirty scene id) := by
  apply Changes.trans _ (render_changes id)
  exact .setOutput .screen scene id (fun _ => rfl) (by simp)

theorem damageState_changes : Changes renderEffects scene (damageState scene) :=
  Changes.foldl (fun _ id => renderDirty_changes id) scene.surfaces scene

theorem renderFallbackSurface_changes (env : Environment) (id : OutputId) :
    Changes renderEffects scene (renderFallbackSurface scene env id) := by
  unfold renderFallbackSurface
  split
  · exact .refl scene
  · split
    · refine Changes.trans ?_ (.setOutput .screen _ id (fun _ => rfl) (by simp))
      exact .requestAll scene (.lock id) _ (by simp [Message.effect])
    · exact .refl scene

theorem fallBackSurface_changes (env : Environment) (id : OutputId) :
    Changes renderEffects scene (fallBackSurface scene env id) := by
  have acknowledged : Changes renderEffects scene (ackNewest scene id) := by
    unfold ackNewest
    split
    · exact .refl scene
    · split
      · refine Changes.trans ?_ (.setOutput .screen _ id (fun _ => rfl) (by simp))
        exact .tell scene _ (by simp [Message.effect])
      · exact .refl scene
  unfold fallBackSurface
  split
  · exact .refl scene
  · split
    · exact .refl scene
    · split
      · exact renderDirty_changes id
      · exact (acknowledged.trans (renderFallbackSurface_changes env id)).trans (renderDirty_changes id)

theorem cancelSubmissionTimer_changes (id : OutputId) :
    Changes [.disarm, .output .timer] scene (cancelSubmissionTimer scene id) := by
  unfold cancelSubmissionTimer
  split
  · exact .refl scene
  · rename_i output _
    refine Changes.trans ?_ (.setOutput .timer _ id (fun _ => rfl) (by simp))
    exact .removeTimer? scene output.clientSubmissionTimer (by simp)

theorem setupClientlessMode_changes (env : Environment) :
    Changes fallBackEffects scene (setupClientlessMode scene env) := by
  unfold setupClientlessMode
  split
  · rename_i up
    have resumed : Changes [.client, .disarm, .output .timer] scene (resumeAllClients scene env) :=
      (resumeAllClients_changes env).widen (by simp)
    have cancels (state : Scene) (id : OutputId) :
        Changes [.client, .disarm, .output .timer] state (cancelSubmissionTimer state id) :=
      (cancelSubmissionTimer_changes id).widen (by simp)
    have cancelled := resumed.trans
      (Changes.foldl cancels (resumeAllClients scene env).surfaces (resumeAllClients scene env))
    have stillUp := (cancelled.display (by simp)).trans up
    have closed := (cancelled.widen (by simp)).trans (.single (.display stillUp) (by simp) : Changes fallBackEffects _ _)
    have falls (state : Scene) (id : OutputId) : Changes fallBackEffects state (fallBackSurface state env id) :=
      (fallBackSurface_changes env id).widen (by simp)
    exact closed.trans (Changes.foldl falls _ _)
  · exact .refl scene

end Rendering

section Timeouts

/-- A client that times out has these effects. -/
abbrev timeoutEffects : List Effect := destroyEffects ++ fallBackEffects ++ clientEffects

theorem clientTimeout_changes (env : Environment) (id : BgClientId) :
    Ensures (clientTimeout scene env id) (Changes timeoutEffects scene) := by
  apply Ensures.read
  intro record _
  refine .via (Changes timeoutEffects scene) ?_ fun destroyed changed => ?_
  · unfold destroyTimedOut
    split
    · exact (wlClientDestroy_changes record.client env.owned).weaken fun _ after => after.widen (by simp)
    · exact .pure (.refl scene)
  · refine .via (Changes timeoutEffects scene) ?_ fun cleaned changed => ?_
    · exact changed.andThen ((cleanupClient_changes env id).weaken fun _ after => after.widen (by simp))
    · exact .pure (changed.trans ((setupClientlessMode_changes env).widen (by simp)))

theorem clientConnectionTimeout_changes (env : Environment) (id : BgClientId) :
    Ensures (clientConnectionTimeout scene env id) (Changes timeoutEffects scene) := by
  apply Ensures.read
  intro record _
  exact Changes.andThen (.setBgClient scene id _ (by simp)) (clientTimeout_changes env id)

theorem outputRedrawTimeout_changes (env : Environment) (id : OutputId) :
    Ensures (outputRedrawTimeout scene env id) (Changes timeoutEffects scene) := by
  apply Ensures.read
  intro output _
  have cleared : Changes timeoutEffects scene
      (scene.setOutput id fun output => { output with clientSubmissionTimer := none }) :=
    .setOutput .timer scene id (fun _ => rfl) (by simp)
  dsimp only
  split
  · exact .pure cleared
  · exact cleared.andThen (clientTimeout_changes env _)

end Timeouts

section Outputs

/-- A configure that is relayed to a plugin surface has these effects. -/
abbrev relayEffects : List Effect := renderEffects ++ [.serial, .surface .role, .plugin]

/-- A configure event has these effects. -/
abbrev configureEffects : List Effect := relayEffects ++ [.arm, .output .timer]

theorem reconfigurePlugin_changes (output : OutputId) (serial : UInt32) (surface : Option SurfaceId) :
    Ensures (reconfigurePlugin scene output serial surface) (Changes relayEffects scene) := by
  cases surface with
  | none => exact .pure (.refl scene)
  | some id =>
      apply Ensures.read
      intro record _
      apply Ensures.read
      intro surface _
      split
      · refine (takeSerial_changes _).bind fun taken serial => ?_
        have widened : Changes relayEffects scene taken.1 := serial.widen (by simp)
        apply Ensures.pure
        refine Changes.trans ?_ (.tell _ _ (by simp [Message.effect]))
        exact widened.trans (.setForward .role _ id (fun _ => rfl) (by simp))
      · exact .pure (.refl scene)

theorem forwardConfigure_changes (id : OutputId) (first : Bool) (serial : UInt32) :
    Ensures (forwardConfigure scene id first serial) (Changes relayEffects scene) := by
  apply Ensures.read
  intro output _
  split
  · exact .pure (.setOutput .screen scene id (fun _ => rfl) (by simp))
  · split
    · exact reconfigurePlugin_changes id serial output.pluginSurface
    · exact .pure (.refl scene)

theorem answerConfigure_changes (env : Environment) (id : OutputId) (first : Bool) (serial : UInt32) :
    Ensures (answerConfigure scene env id first serial) (Changes relayEffects scene) := by
  unfold answerConfigure
  split
  · refine (forwardConfigure_changes id first serial).bind fun forwarded changed => ?_
    exact .pure (changed.trans (.setOutput .screen forwarded id (fun _ => rfl) (by simp)))
  · apply Ensures.pure
    refine Changes.trans ?_ ((renderFallbackSurface_changes env id).widen (by simp))
    refine Changes.trans ?_ (.setOutput .screen _ id (fun _ => rfl) (by simp))
    exact .tell scene _ (by simp [Message.effect])

theorem armRedraw_changes (id : OutputId) :
    Ensures (armRedraw scene id) (Changes configureEffects scene) := by
  apply Ensures.read
  intro output _
  split
  · exact .pure (.refl scene)
  · apply Ensures.pure
    refine Changes.trans ?_ (.setOutput .timer _ id (fun _ => rfl) (by simp))
    exact .addTimer scene timeoutSurface rfl (by simp)

theorem extSessionLockSurfaceV1HandleConfigure_changes (env : Environment) (id : OutputId)
    (serial width height : UInt32) :
    Ensures (extSessionLockSurfaceV1HandleConfigure scene env id serial width height)
      (Changes configureEffects scene) := by
  apply Ensures.read
  intro output _
  have recorded : Changes relayEffects scene (recordConfigure scene id serial width height) := by
    refine Changes.trans ?_ (.setOutput .screen _ id (fun _ => rfl) (by simp))
    exact .tell scene _ (by simp [Message.effect])
  refine (recorded.andThen (answerConfigure_changes env id _ serial)).bind fun answered changed => ?_
  have rendered : Changes relayEffects scene (renderDirty answered id) :=
    changed.trans ((renderDirty_changes id).widen (by simp))
  dsimp only
  split
  · exact (rendered.widen (by simp)).andThen (armRedraw_changes id)
  · exact .pure (rendered.widen (by simp))

/-- An output that is created has these effects. -/
abbrev createEffects : List Effect := fallBackEffects ++ clientEffects

theorem createSurface_changes (env : Environment) (id : OutputId) :
    Ensures (createSurface scene env id) (Changes createEffects scene) := by
  apply Ensures.read
  intro output _
  have locked : Changes createEffects scene (createLockSurface scene id) := by
    refine Changes.trans ?_ (.setOutput .timer _ id (fun _ => rfl) (by simp))
    exact .addTimer scene timeoutSurface rfl (by simp)
  refine .via (Changes createEffects scene) ?_ fun started changed => ?_
  · refine locked.andThen ?_
    unfold startOutputPlugin
    split
    · refine (runPluginCommand_changes env (some id)).bind fun result started => ?_
      obtain ⟨next, success⟩ := result
      have widened : Changes createEffects (createLockSurface scene id) next := started.widen (by simp)
      dsimp only
      split
      · exact .pure widened
      · exact .pure (widened.trans ((setupClientlessMode_changes env).widen (by simp)))
    · exact .pure (.refl _)
  · exact .pure (changed.trans (.setOutput .client started id (fun _ => rfl) (by simp)))

theorem initSurfaceIfReady_changes (env : Environment) (runDisplay : Bool) (id : OutputId) :
    Ensures (initSurfaceIfReady scene env runDisplay id) (Changes createEffects scene) := by
  apply Ensures.read
  intro output _
  split
  · exact .pure (.refl scene)
  · exact createSurface_changes env id

theorem fractScalePreferredScale_changes (id : OutputId) (scale : UInt32) :
    Ensures (fractScalePreferredScale scene id scale) (Changes [.output .screen, .plugin] scene) := by
  apply Ensures.read
  intro output _
  apply Ensures.check
  intro _
  split
  · exact .pure (.refl scene)
  · have noted : Changes [.output .screen, .plugin] scene
        (scene.setOutput id fun output => { output with lastFractionalScale := scale }) :=
      .setOutput .screen scene id (fun _ => rfl) (by simp)
    refine noted.andThen ?_
    cases output.pluginSurface with
    | none => exact .pure (.refl _)
    | some surface =>
        apply Ensures.read
        intro record _
        split
        · exact .pure (.tell _ _ (by simp [Message.effect]))
        · exact .pure (.refl _)

theorem markPresented_changes (env : Environment) (output : Option OutputId) :
    Ensures (markPresented scene env output) (Changes [.output .presented, .client] scene) := by
  cases output with
  | none => exact .pure (.refl scene)
  | some id =>
      refine .read fun _ _ => .read fun record _ => .pure ?_
      have presented : Changes [.output .presented, .client] scene (scene.setOutput id fun output =>
          { output with framePending := false, frameLastDone := scene.clock }) :=
        .setOutput .presented scene id (fun _ => rfl) (by simp)
      exact presented.trans ((resumeClientForSurface_changes env record).widen (by simp))

/-- A completed frame callback of the background has these effects. -/
abbrev presentEffects : List Effect := [.output .presented, .client, .done, .resource, .await]

theorem bgFrameHandleDone_changes (env : Environment) (id : CallbackId) :
    Ensures (bgFrameHandleDone scene env id) (Changes presentEffects scene) := by
  apply Ensures.read
  intro callbacks _
  refine .via (Changes presentEffects scene) ?_ fun presented changed => ?_
  · exact (markPresented_changes env callbacks.swaySurface).weaken fun _ presented => presented.widen (by simp)
  · have completes (state : Scene) (callback : ResourceId) :
        Changes presentEffects state (completeCallback state callback) := by
      refine Changes.trans ?_ (.destroyResource _ callback (by simp))
      exact .tell state _ (by simp [Message.effect])
    apply Ensures.pure
    refine (changed.trans (Changes.foldl completes callbacks.list presented)).trans ?_
    exact .single (.await _) (by simp)

theorem closePluginSurface_changes (surface : Option SurfaceId) :
    Ensures (closePluginSurface scene surface) (Changes [.plugin, .surface .assigned] scene) := by
  cases surface with
  | none => exact .pure (.refl scene)
  | some id =>
      refine .read fun record _ => .pure ?_
      refine Changes.trans ?_ (.setForward .assigned _ id (fun _ => rfl) (by simp))
      exact .tell scene _ (by simp [Message.effect])

theorem destroyOutputClient_changes (env : Environment) (client : Option BgClientId) :
    Ensures (destroyOutputClient scene env client) (Changes (destroyEffects ++ clientEffects) scene) := by
  cases client with
  | none => exact .pure (.refl scene)
  | some id =>
      refine .read fun record _ => (wlClientDestroy_changes record.client env.owned).bind fun destroyed gone => ?_
      have widened : Changes (destroyEffects ++ clientEffects) scene destroyed := gone.widen (by simp)
      exact widened.andThen ((cleanupClient_changes env id).weaken fun _ after => after.widen (by simp))

/-- An output that goes away has these effects. -/
abbrev removeEffects : List Effect :=
  destroyEffects ++ clientEffects ++ [.surface .assigned, .plugin, .removeOutput]

theorem destroySurface_changes (env : Environment) (id : OutputId) :
    Ensures (destroySurface scene env id) (Changes removeEffects scene) := by
  apply Ensures.read
  intro output _
  have delisted : Changes removeEffects scene { scene with surfaces := scene.surfaces.erase id } :=
    .single (.delistOutput id) (by simp)
  refine (closePluginSurface_changes output.pluginSurface).bind fun closed closing => ?_
  have changed : Changes removeEffects scene closed := delisted.trans (closing.widen (by simp))
  refine (destroyOutputClient_changes env output.client).bind fun emptied emptying => ?_
  have changed : Changes removeEffects scene emptied := changed.trans (emptying.widen (by simp))
  apply Ensures.check
  intro _
  apply Ensures.pure
  refine (changed.trans (.removeTimer? emptied output.clientSubmissionTimer (by simp))).trans ?_
  exact .single (.freeOutput id) (by simp)

theorem handleGlobalRemove_changes (env : Environment) (name : UInt32) :
    Ensures (handleGlobalRemove scene env name) (Changes removeEffects scene) := by
  unfold handleGlobalRemove
  split
  · exact .pure (.refl scene)
  · exact destroySurface_changes env _

end Outputs

end SwaylockPlugin
