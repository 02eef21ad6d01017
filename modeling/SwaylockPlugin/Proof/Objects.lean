import SwaylockPlugin.Proof.SceneSteps

namespace SwaylockPlugin

open Library

/-- These effects leave the surfaces' attachments and trees, the buffers and the resources alone. -/
abbrev asideEffects : List Effect :=
  [.output .client, .output .timer, .output .plugin, .output .presented, .output .screen, .addOutput, .removeOutput,
    .surface .role, .serial, .client, .arm, .armIndicator, .disarm, .upstream, .plugin, .display]

/-- A surface without its role is the same for every output. -/
def ForwardSurface.unassigned (surface : ForwardSurface) : ForwardSurface :=
  SurfaceGroup.assigned.mask (SurfaceGroup.role.mask surface)

/-- A surface keeps its layer surface and its output, unless the output goes away and leaves it inert. -/
def ForwardSurface.KeepsRole (before after : ForwardSurface) : Prop :=
  after.layerSurface = before.layerSurface ∧
    (after.swaySurface = before.swaySurface ∧ after.inert = before.inert ∨
      after.swaySurface = none ∧ after.inert = true)

namespace ForwardSurface.KeepsRole

variable {one two three : ForwardSurface}

theorem refl (surface : ForwardSurface) : surface.KeepsRole surface := ⟨rfl, .inl ⟨rfl, rfl⟩⟩

theorem trans (first : one.KeepsRole two) (second : two.KeepsRole three) : one.KeepsRole three := by
  refine ⟨second.1.trans first.1, ?_⟩
  rcases second.2 with ⟨sway, inert⟩ | gone
  · rw [sway, inert]
    exact first.2
  · exact .inr gone

theorem of_mask (same : SurfaceGroup.role.mask two = SurfaceGroup.role.mask one) : one.KeepsRole two := by
  have layer := congrArg layerSurface same
  have sway := congrArg swaySurface same
  have live := congrArg inert same
  exact ⟨layer, .inl ⟨sway, live⟩⟩

end ForwardSurface.KeepsRole

/-- Every surface of the second scene kept its role from the first. -/
def KeepsRoles (first second : Scene) : Prop :=
  ∀ id after, second.forwardSurfaces.cell id = some after →
    ∃ before, first.forwardSurfaces.cell id = some before ∧ before.KeepsRole after

namespace KeepsRoles

variable {first second third : Scene}

theorem same (forward : second.forwardSurfaces = first.forwardSurfaces) : KeepsRoles first second :=
  fun _ after present => ⟨after, forward ▸ present, .refl after⟩

theorem trans (one : KeepsRoles first second) (two : KeepsRoles second third) : KeepsRoles first third := by
  intro id after present
  obtain ⟨middle, there, late⟩ := two id after present
  obtain ⟨before, start, early⟩ := one id middle there
  exact ⟨before, start, early.trans late⟩

theorem setForward (scene : Scene) (id : SurfaceId) {change : ForwardSurface → ForwardSurface}
    (kept : ∀ surface, ForwardSurface.KeepsRole surface (change surface)) : KeepsRoles scene (scene.setForward id change) := by
  intro other after present
  obtain ⟨before, there, ⟨_, rfl⟩ | ⟨_, rfl⟩⟩ := scene.forwardSurfaces.old_of_modify present
  · exact ⟨before, there, kept before⟩
  · exact ⟨after, there, .refl after⟩

end KeepsRoles

/-- A scene changes aside when no plugin object changes but in its role. -/
structure Aside (first second : Scene) : Prop where
  forward : ∀ id, (second.forwardSurfaces.cell id).map ForwardSurface.unassigned =
    (first.forwardSurfaces.cell id).map ForwardSurface.unassigned
  nextSurface : second.forwardSurfaces.next = first.forwardSurfaces.next
  buffers : second.forwardBuffers = first.forwardBuffers
  descs : second.imageDescs = first.imageDescs
  resources : second.resources = first.resources
  callbacks : second.frameCallbacks = first.frameCallbacks
  done : callbacksDone second.wire = callbacksDone first.wire
  roles : KeepsRoles first second

namespace Aside

variable {first second third : Scene}

theorem same (forward : second.forwardSurfaces = first.forwardSurfaces)
    (buffers : second.forwardBuffers = first.forwardBuffers) (descs : second.imageDescs = first.imageDescs)
    (resources : second.resources = first.resources) (callbacks : second.frameCallbacks = first.frameCallbacks)
    (wire : second.wire = first.wire) : Aside first second :=
  ⟨fun id => by rw [forward], by rw [forward], buffers, descs, resources, callbacks, by rw [wire], .same forward⟩

theorem refl (scene : Scene) : Aside scene scene := same rfl rfl rfl rfl rfl rfl

theorem trans (one : Aside first second) (two : Aside second third) : Aside first third where
  forward id := (two.forward id).trans (one.forward id)
  nextSurface := two.nextSurface.trans one.nextSurface
  buffers := two.buffers.trans one.buffers
  descs := two.descs.trans one.descs
  resources := two.resources.trans one.resources
  callbacks := two.callbacks.trans one.callbacks
  done := two.done.trans one.done
  roles := one.roles.trans two.roles

theorem told (scene : Scene) {message : Message} (other : message.effect ≠ .done) : Aside scene (scene.tell message) :=
  ⟨fun _ => rfl, rfl, rfl, rfl, rfl, rfl,
    callbacksDone_append scene.wire fun _ member => List.mem_singleton.mp member ▸ other, .same rfl⟩

theorem setForward (scene : Scene) (id : SurfaceId) {change : ForwardSurface → ForwardSurface}
    (unassigned : ∀ surface, (change surface).unassigned = surface.unassigned)
    (kept : ∀ surface, ForwardSurface.KeepsRole surface (change surface)) : Aside scene (scene.setForward id change) :=
  ⟨fun other => scene.forwardSurfaces.view_modify id change _ (fun surface _ => unassigned surface) other,
    rfl, rfl, rfl, rfl, rfl, rfl, .setForward scene id kept⟩

theorem of_change {effect : Effect} (change : Change first effect second) (listed : effect ∈ asideEffects) :
    Aside first second := by
  cases change with
  | surface id kept =>
      rename_i group change
      have role : group = .role := by
        cases group with
        | role => rfl
        | _ => simp at listed
      subst role
      exact setForward first id (fun surface => congrArg SurfaceGroup.assigned.mask (kept surface))
        fun surface => .of_mask (kept surface)
  | sweep kept =>
      rename_i group change
      have role : group = .role := by
        cases group with
        | role => rfl
        | _ => simp at listed
      subst role
      have unassigned (id : SurfaceId) (surface : ForwardSurface) :
          (change id surface).unassigned = surface.unassigned := congrArg SurfaceGroup.assigned.mask (kept id surface)
      refine ⟨first.forwardSurfaces.view_mapAll change _ unassigned, rfl, rfl, rfl, rfl, rfl, rfl, ?_⟩
      intro other after present
      obtain ⟨before, there, rfl⟩ := Option.map_eq_some_iff.mp present
      exact ⟨before, there, .of_mask (kept other before)⟩
  | tell message =>
      refine told first fun done => ?_
      rw [done] at listed
      simp at listed
  | error client error =>
      have posted : Aside first (first.tell (.plugin (.error client error))) := told first (by simp [Message.effect])
      exact ⟨fun _ => rfl, rfl, rfl, rfl, rfl, rfl, posted.done, .same rfl⟩
  | createSurface | freeSurface | buffers | descs | resources | callbacks | await => simp at listed
  | _ => exact same rfl rfl rfl rfl rfl rfl

theorem of_changes {effects : List Effect} (changes : Changes effects first second)
    (listed : ∀ effect ∈ effects, effect ∈ asideEffects) : Aside first second := by
  induction changes with
  | refl => exact refl first
  | step _ member change ih =>
      exact ih.trans (of_change change (listed _ member))

theorem of_retimed (retimed : Retimed first second) : Aside first second := by
  obtain ⟨_, _, _, rfl⟩ := retimed
  exact same rfl rfl rfl rfl rfl rfl

theorem of_indicated (indicated : Indicated first second) : Aside first second := by
  obtain ⟨start, stop, early, drawn, late⟩ := indicated
  exact ((of_retimed early).trans (of_changes drawn.changes (by simp))).trans (of_retimed late)

end Aside

/-- A connection is emptied when its objects are destroyed in the order of the environment. -/
def Emptied (env : Environment) (first last : Scene) : Prop :=
  ∃ before after, Aside first before ∧ env.owned.foldlM destroyOwned before = .ok after ∧ Aside after last

namespace Emptied

variable {env : Environment} {first second third : Scene}

theorem before (aside : Aside first second) (emptied : Emptied env second third) : Emptied env first third := by
  obtain ⟨start, stop, early, destroyed, late⟩ := emptied
  exact ⟨start, stop, aside.trans early, destroyed, late⟩

theorem after (emptied : Emptied env first second) (aside : Aside second third) : Emptied env first third := by
  obtain ⟨start, stop, early, destroyed, late⟩ := emptied
  exact ⟨start, stop, early, destroyed, late.trans aside⟩

end Emptied

variable {scene : Scene}

theorem wlClientDestroy_emptied (env : Environment) (client : WlClientId) :
    Ensures (wlClientDestroy scene client env.owned) (Emptied env scene) := by
  unfold wlClientDestroy
  split
  · intro last computed
    obtain ⟨after, destroyed, rest⟩ := bind_ok.mp computed
    cases rest
    exact ⟨scene, after, .refl scene, destroyed, .same rfl rfl rfl rfl rfl rfl⟩
  · exact .throw

theorem clientGone_emptied (env : Environment) (client : WlClientId) :
    Ensures (clientGone scene env client) (Emptied env scene) := by
  refine .via (Aside scene) ?_ fun notified changed => ?_
  · cases recordOf scene client with
    | none => exact .pure (.refl scene)
    | some id => exact (clientDestroyed_changes env id).weaken fun _ after => .of_changes after (by simp)
  · exact (wlClientDestroy_emptied env client).weaken fun _ emptied => emptied.before changed

/-- A client that timed out is emptied while the nested display exists. -/
inductive TimedOut (env : Environment) (scene next : Scene) : Option BgClientId → Prop
  | emptied {id : BgClientId} (up : scene.display = true) (there : (scene.bgClients.cell id).isSome = true)
      (emptied : Emptied env scene next) : TimedOut env scene next (some id)
  | aside {client : Option BgClientId} (dead : scene.display = false ∨ client = none) (changes : Aside scene next) :
      TimedOut env scene next client

theorem TimedOut.before {env : Environment} {noted next : Scene} {client : Option BgClientId}
    (aside : Aside scene noted) (display : noted.display = scene.display)
    (live : ∀ id, (noted.bgClients.cell id).isSome = (scene.bgClients.cell id).isSome)
    (timedOut : TimedOut env noted next client) : TimedOut env scene next client := by
  cases timedOut with
  | emptied up there emptied => exact .emptied (display ▸ up) (live _ ▸ there) (emptied.before aside)
  | aside dead changes => exact .aside (display ▸ dead) (aside.trans changes)

theorem clientTimeout_timedOut (env : Environment) (id : BgClientId) :
    Ensures (clientTimeout scene env id) fun next => TimedOut env scene next (some id) := by
  have cleaned {middle : Scene} : Ensures (cleanupClient middle env id) fun cleaned =>
      Aside middle (setupClientlessMode cleaned env) := by
    refine (cleanupClient_changes env id).weaken fun cleaned changes => ?_
    exact (Aside.of_changes changes (by simp)).trans (.of_changes (setupClientlessMode_changes env) (by simp))
  refine .read fun record present => ?_
  unfold destroyTimedOut
  split
  · rename_i up
    refine (wlClientDestroy_emptied env record.client).bind fun middle destroyed => ?_
    exact cleaned.bind fun last changes => .pure (.emptied up (by rw [present]; rfl) (destroyed.after changes))
  · rename_i down
    exact cleaned.bind fun last changes => .pure (.aside (.inl (by simpa using down)) changes)

theorem clientConnectionTimeout_timedOut (env : Environment) (id : BgClientId) :
    Ensures (clientConnectionTimeout scene env id) fun next => TimedOut env scene next (some id) := by
  refine .read fun record _ => (clientTimeout_timedOut env id).weaken fun next timedOut => ?_
  have live (other : BgClientId) : ((scene.setBgClient id fun record =>
      { record with clientConnectTimer := none }).bgClients.cell other).isSome = (scene.bgClients.cell other).isSome := by
    change ((scene.bgClients.modify id _).cell other).isSome = _
    rw [Heap.cell_modify]
    split
    · exact Option.isSome_map
    · rfl
  have noted : Aside scene (scene.setBgClient id fun record => { record with clientConnectTimer := none }) :=
    .same rfl rfl rfl rfl rfl rfl
  exact timedOut.before noted rfl live

theorem outputRedrawTimeout_timedOut (env : Environment) (id : OutputId) :
    Ensures (outputRedrawTimeout scene env id) fun next => ∃ output, scene.outputs.cell id = some output ∧
      TimedOut env scene next (clientForSurface scene output) := by
  refine .read fun output present => ?_
  have noted : Aside scene (scene.setOutput id fun output => { output with clientSubmissionTimer := none }) :=
    .same rfl rfl rfl rfl rfl rfl
  have same : clientForSurface (scene.setOutput id fun output => { output with clientSubmissionTimer := none }) output =
      clientForSurface scene output := rfl
  dsimp only
  rw [same]
  cases served : clientForSurface scene output with
  | none => exact .pure ⟨output, present, .aside (.inr served) noted⟩
  | some client =>
      refine (clientTimeout_timedOut env client).weaken fun next timedOut => ⟨output, present, ?_⟩
      rw [served]
      exact timedOut.before noted rfl fun _ => rfl

theorem destroySurface_emptied (env : Environment) (id : OutputId) :
    Ensures (destroySurface scene env id) fun next => ∃ output, scene.outputs.cell id = some output ∧
      if output.client.isSome then (output.client.bind scene.bgClients.cell).isSome = true ∧ Emptied env scene next
      else Aside scene next := by
  refine .read fun output present => ?_
  have delisted : Aside scene { scene with surfaces := scene.surfaces.erase id } := .same rfl rfl rfl rfl rfl rfl
  refine .via (fun closed => Aside scene closed ∧ closed.bgClients = scene.bgClients) ?_ fun closed changed => ?_
  · cases output.pluginSurface with
    | none => exact .pure ⟨delisted, rfl⟩
    | some surface =>
        refine .read fun record _ => .pure ⟨delisted.trans ?_, rfl⟩
        have told : Aside { scene with surfaces := scene.surfaces.erase id } _ :=
          @Aside.told _ (.plugin (.closed surface)) (by simp [Message.effect])
        exact told.trans (.setForward _ surface (fun _ => rfl) fun _ => ⟨rfl, .inr ⟨rfl, rfl⟩⟩)
  have finished (middle : Scene) : Aside middle
      { middle.removeTimer? output.clientSubmissionTimer with
        outputs := (middle.removeTimer? output.clientSubmissionTimer).outputs.free id } :=
    (Aside.of_retimed (.removeTimer? middle output.clientSubmissionTimer)).trans (.same rfl rfl rfl rfl rfl rfl)
  obtain ⟨aside, records⟩ := changed
  cases owned : output.client with
  | none =>
      refine .check fun _ => .pure ⟨output, present, ?_⟩
      rw [owned]
      exact aside.trans (finished closed)
  | some client =>
      refine .via (fun emptied => (scene.bgClients.cell client).isSome = true ∧ Emptied env scene emptied) ?_ ?_
      · refine .read fun record there => ?_
        refine (wlClientDestroy_emptied env record.client).bind fun middle destroyed => ?_
        refine (cleanupClient_changes env client).weaken fun cleaned changes => ⟨?_, ?_⟩
        · rw [← records, there]
          rfl
        · exact (destroyed.before aside).after (.of_changes changes (by simp))
      · rintro emptied ⟨there, destroyed⟩
        refine .check fun _ => .pure ⟨output, present, ?_⟩
        rw [owned]
        exact ⟨there, destroyed.after (finished emptied)⟩

/-- A request destroys the object that it names where the plugin owns it and the object has a destructor. -/
def requestedObjects (scene : Scene) (client : WlClientId) : Request → List Owned
  | .surface id .destroy => if ownsSurface scene client id then [.surface id] else []
  | .destroyBuffer buffer => if ownsBuffer scene client buffer then [.buffer buffer] else []
  | .destroyImageDesc desc => if ownsImageDesc scene client desc then [.imageDesc desc] else []
  | .object id .destroy =>
      match ownedRole scene client id with
      | none | some (.layerSurface _) | some .frameCallback => []
      | some _ => [.resource id]
  | _ => []

/-- A timer ends the client that did not connect or did not draw in time. -/
def endsClient (scene : Scene) : TimerCallback → Bool
  | .clientConnectionTimeout _ => true
  | .outputRedrawTimeout output =>
      (scene.outputs.cell output).any fun output => (clientForSurface scene output).isSome
  | _ => false

/-- An event destroys these plugin objects in this order. -/
def destroyedObjects (state : SwaylockState) (occurrence : Occurrence) : List Owned :=
  match occurrence.event with
  | .scene (.request client request) => requestedObjects state.scene client request
  | .scene (.clientGone _) => occurrence.env.owned
  | .scene (.outputRemoved name) =>
      if ((state.scene.surfaces.find? fun id =>
          (state.scene.outputs.cell id).any fun output => output.outputGlobalName == name).bind
          state.scene.outputs.cell).any fun output => output.client.isSome then occurrence.env.owned
      else []
  | .timer timer _ =>
      if state.scene.display && (state.scene.eventloop.due state.scene.clock timer).any (endsClient state.scene) then
        occurrence.env.owned
      else []
  | _ => []

/-- An event changes the plugin objects in one of these ways. -/
inductive ObjectStep (state : SwaylockState) (env : Environment) : Event → SwaylockState → Prop
  | aside {event : Event} {next : SwaylockState} (changes : Aside state.scene next.scene) :
      ObjectStep state env event next
  | emptied {event : Event} {next : SwaylockState} (listed : destroyedObjects state ⟨event, env⟩ = env.owned)
      (client : WlClientId) (ordered : orderly state.scene env client = true)
      (emptied : Emptied env state.scene next.scene) : ObjectStep state env event next
  | presented {callbacks : CallbackId} {next : SwaylockState}
      (handled : bgFrameHandleDone state.scene env callbacks = .ok next.scene) :
      ObjectStep state env (.scene (.backgroundFrameDone callbacks)) next
  | request {client : WlClientId} {request : Request} {next : SwaylockState}
      (offers : offered state.scene client request = true)
      (handled : handleRequest state.scene client request = .ok next.scene) :
      ObjectStep state env (.scene (.request client request)) next

theorem handleScene_objectStep (state : SwaylockState) (env : Environment) (event : SceneEvent)
    (allowed : sceneEnabled state.scene env event = true) :
    Ensures (handleScene state.scene env state.runDisplay event) fun scene =>
      ∀ next : SwaylockState, next.scene = scene → ObjectStep state env (.scene event) next := by
  have aside {effects : List Effect} {computation : Handled Scene}
      (covered : Ensures computation (Changes effects state.scene))
      (listed : ∀ effect ∈ effects, effect ∈ asideEffects) :
      Ensures computation fun scene =>
        ∀ next : SwaylockState, next.scene = scene → ObjectStep state env (.scene event) next :=
    covered.weaken fun _ changes next reached => .aside (reached ▸ .of_changes changes listed)
  cases event with
  | configure output serial width height =>
      exact aside (extSessionLockSurfaceV1HandleConfigure_changes env output serial width height) (by simp)
  | outputAdded name => exact .pure fun _ reached => .aside (reached ▸ .same rfl rfl rfl rfl rfl rfl)
  | outputRemoved name =>
      change Ensures (handleGlobalRemove state.scene env name) _
      unfold handleGlobalRemove
      split
      · exact .pure fun _ reached => .aside (reached ▸ .refl _)
      · rename_i id found
        refine (destroySurface_emptied env id).weaken fun scene emptied next reached => ?_
        obtain ⟨output, present, outcome⟩ := emptied
        split at outcome
        · rename_i some_
          obtain ⟨there, emptied⟩ := outcome
          obtain ⟨client, owned⟩ := Option.isSome_iff_exists.mp some_
          rw [owned, Option.bind_some] at there
          obtain ⟨record, kept⟩ := Option.isSome_iff_exists.mp there
          refine .emptied ?_ record.client ?_ (reached ▸ emptied)
          · simp [destroyedObjects, found, present, owned]
          · have listed : (state.scene.surfaces.find? fun id => state.scene.outputIs id fun output =>
                output.outputGlobalName == name) = some id := found
            simpa [sceneEnabled, orderlyRemoval, listed, present, orderlyClient, owned, kept] using allowed
        · exact .aside (reached ▸ outcome)
  | outputGeometry output => exact aside (handleWlOutputGeometry_changes state.runDisplay output) (by simp)
  | outputScale output factor => exact aside (handleWlOutputScale_changes state.runDisplay output factor) (by simp)
  | outputDone output => exact aside (handleWlOutputDone_changes env state.runDisplay output) (by simp)
  | outputDescReady output => exact aside (handleOutputDescReady_changes env state.runDisplay output) (by simp)
  | preferredScale output scale => exact aside (fractScalePreferredScale_changes output scale) (by simp)
  | frameDone output => exact aside (surfaceFrameHandleDone_changes output) (by simp)
  | backgroundFrameDone callbacks => exact fun _ handled _ reached => .presented (reached ▸ handled)
  | request client request =>
      refine fun _ handled _ reached => .request ?_ (reached ▸ handled)
      simp only [sceneEnabled, Bool.and_eq_true] at allowed
      exact allowed.2
  | clientGone client =>
      refine (clientGone_emptied env client).weaken fun scene emptied _ reached => .emptied rfl client ?_ (reached ▸ emptied)
      simp only [sceneEnabled, Bool.and_eq_true] at allowed
      exact allowed.2
  | nestedDispatched => exact .pure fun _ reached => .aside (reached ▸ .of_changes (afterDispatchNested_changes env) (by simp))

theorem TimedOut.objectStep {state next : SwaylockState} {env : Environment} {timer : TimerId} {result : InputResult}
    {callback : TimerCallback} (due : state.scene.eventloop.due state.scene.clock timer = some callback) {last : Scene}
    {client : Option BgClientId} (timedOut : TimedOut env state.scene last client) (late : Aside last next.scene)
    (ends : client.isSome = true → endsClient state.scene callback = true)
    (order : orderlyClient state.scene env client = true) : ObjectStep state env (.timer timer result) next := by
  cases timedOut with
  | emptied up there emptied =>
      obtain ⟨record, kept⟩ := Option.isSome_iff_exists.mp there
      refine .emptied ?_ record.client ?_ (emptied.after late)
      · simp [destroyedObjects, up, due, ends rfl]
      · simpa [orderlyClient, kept] using order
  | aside _ changes => exact .aside (changes.trans late)

theorem objectStep_of_step {state next : SwaylockState} {occurrence : Occurrence}
    (moved : swaylock.machine.step state occurrence next) : ObjectStep state occurrence.env occurrence.event next := by
  have step := sceneStep_of_step moved
  obtain ⟨event, env⟩ := occurrence
  have allowed : enabled state ⟨event, env⟩ = true := moved.1
  clear moved
  generalize reached : next.scene = last at step
  cases step with
  | tick now => exact .aside (reached ▸ .same rfl rfl rfl rfl rfl rfl)
  | scene allowed handled => exact handleScene_objectStep state env _ allowed last handled next reached
  | hiddenCheck due kept =>
      have checked : Aside state.scene (hiddenCheckTimeout state.scene env) :=
        .of_changes (hiddenCheckTimeout_changes env) (by simp)
      exact .aside (reached ▸ checked.trans (.of_retimed kept))
  | connectionTimeout due handled kept =>
      have ordered := ((Bool.and_eq_true _ _).mp allowed).2
      simp only [due] at ordered
      exact (clientConnectionTimeout_timedOut env _ _ handled).objectStep due (reached ▸ .of_retimed kept) (fun _ => rfl)
        ordered
  | redrawTimeout due handled kept =>
      have ordered := ((Bool.and_eq_true _ _).mp allowed).2
      obtain ⟨record, present, timedOut⟩ := outputRedrawTimeout_timedOut env _ _ handled
      refine timedOut.objectStep due (reached ▸ .of_retimed kept) (fun served => ?_) ?_
      · simpa [endsClient, present] using served
      · simpa [due, orderlyTimer, present] using ordered
  | start kept creates runs =>
      have created : Aside _ _ := .of_changes (createSurfaces_changes env _ creates) (by simp)
      have started : Aside _ _ := .of_changes (startMainPlugin_changes env _ runs) (by simp)
      exact .aside (reached ▸ ((Aside.of_retimed kept).trans created).trans started)
  | armHiddenCheck => exact .aside (reached ▸ .of_changes armHiddenCheck_changes (by simp))
  | resume => exact .aside (reached ▸ .of_changes (resumeAllClients_changes env) (by simp))
  | indicated indicated => exact .aside (reached ▸ .of_indicated indicated)

end SwaylockPlugin
