import SwaylockPlugin.Proof.Parts
import SwaylockPlugin.Proof.SceneSteps

namespace SwaylockPlugin

open Library

/-- Every surface in the layer role, beside one that goes away, is the plugin surface of a live output. -/
def Partnered (leaving : Option SurfaceId) (scene : Scene) : Prop :=
  ∀ id surface output, scene.forwardSurfaces.cell id = some surface → surface.swaySurface = some output →
    some id ≠ leaving → ∃ record, scene.outputs.cell output = some record ∧ record.pluginSurface = some id

/-- No surface is in the layer role on an output. -/
def Deserted (output : OutputId) (scene : Scene) : Prop :=
  ∀ id surface, scene.forwardSurfaces.cell id = some surface → surface.swaySurface ≠ some output

/-- These effects touch the partners of outputs and surfaces. -/
abbrev partnerEffects : List Effect := [.output .plugin, .surface .assigned, .removeOutput]

section Changes

variable {first second : Scene} {effect : Effect} {effects : List Effect}

theorem Changes.assigned (changes : Changes effects first second) (apart : Effect.surface .assigned ∉ effects)
    {id : SurfaceId} {surface : ForwardSurface} (present : second.forwardSurfaces.cell id = some surface) :
    surface.swaySurface = none ∨
      ∃ before, first.forwardSurfaces.cell id = some before ∧ before.swaySurface = surface.swaySurface := by
  have seen (group : SurfaceGroup) (listed : Effect.surface group ∈ effects) (surface : ForwardSurface) :
      (group.mask surface).swaySurface = surface.swaySurface := by
    cases group with
    | assigned => exact absurd listed apart
    | _ => rfl
  rcases changes.viewed ForwardSurface.swaySurface seen present with ⟨_, _, fresh⟩ | ⟨before, there, same⟩
  · exact .inl fresh
  · exact .inr ⟨before, there, same.symm⟩

theorem Change.partner (change : Change first effect second) (apart : effect ∉ partnerEffects) {id : OutputId}
    {output : SwaylockSurface} (present : first.outputs.cell id = some output) :
    ∃ after, second.outputs.cell id = some after ∧ after.pluginSurface = output.pluginSurface := by
  cases change with
  | @output group target change kept =>
      have same (record : SwaylockSurface) : (change record).pluginSurface = record.pluginSurface := by
        cases group with
        | plugin => exact absurd (by simp) apart
        | _ =>
            have masked := congrArg SwaylockSurface.pluginSurface (kept record)
            exact masked
      have there : ((first.outputs.modify target change).cell id) = _ := Heap.cell_modify first.outputs target change id
      rw [present] at there
      split at there
      · exact ⟨change output, there, same output⟩
      · exact ⟨output, there, rfl⟩
  | addOutput record => exact ⟨output, first.outputs.cell_alloc_of_live record present, rfl⟩
  | freeOutput => exact absurd (by simp) apart
  | _ => exact ⟨output, present, rfl⟩

theorem Changes.partner (changes : Changes effects first second) (apart : ∀ effect ∈ effects, effect ∉ partnerEffects)
    {id : OutputId} {output : SwaylockSurface} (present : first.outputs.cell id = some output) :
    ∃ after, second.outputs.cell id = some after ∧ after.pluginSurface = output.pluginSurface := by
  induction changes with
  | refl => exact ⟨output, present, rfl⟩
  | step _ listed change ih =>
      obtain ⟨middle, there, same⟩ := ih
      obtain ⟨after, kept, still⟩ := change.partner (apart _ listed) there
      exact ⟨after, kept, still.trans same⟩

theorem Deserted.of_changes {output : OutputId} (deserted : Deserted output first) (changes : Changes effects first second)
    (apart : Effect.surface .assigned ∉ effects) : Deserted output second := by
  intro id surface present role
  rcases changes.assigned apart present with gone | ⟨before, there, same⟩
  · cases gone.symm.trans role
  · exact deserted id before there (same.trans role)

theorem Partnered.of_changes {leaving : Option SurfaceId} (partnered : Partnered leaving first)
    (changes : Changes effects first second) (apart : ∀ effect ∈ effects, effect ∉ partnerEffects) :
    Partnered leaving second := by
  intro id surface output present role stays
  have unassigned : Effect.surface .assigned ∉ effects := fun listed => apart _ listed (by simp)
  rcases changes.assigned unassigned present with gone | ⟨before, there, same⟩
  · cases gone.symm.trans role
  · obtain ⟨record, found, partner⟩ := partnered id before output there (same.trans role) stays
    obtain ⟨after, kept, still⟩ := changes.partner apart found
    exact ⟨after, kept, still.trans partner⟩

end Changes

namespace Partnered

variable {scene : Scene} {leaving : Option SurfaceId}

theorem covered {effects : List Effect} {computation : Handled Scene} (partnered : Partnered leaving scene)
    (changes : Ensures computation (Changes effects scene)) (apart : ∀ effect ∈ effects, effect ∉ partnerEffects) :
    Ensures computation (Partnered leaving) :=
  changes.weaken fun _ changed => partnered.of_changes changed apart

theorem same {other : Scene} (partnered : Partnered leaving scene) (surfaces : other.forwardSurfaces = scene.forwardSurfaces)
    (outputs : other.outputs = scene.outputs) : Partnered leaving other := by
  intro id surface output present role stays
  rw [outputs]
  exact partnered id surface output (surfaces ▸ present) role stays

theorem surfaceGone (partnered : Partnered none scene) (id : SurfaceId) :
    Ensures (surfaceHandleResourceDestroy scene id) (Partnered none) := by
  refine .read fun surface present => ?_
  have leaves : Ensures (clearPluginSurface scene surface.swaySurface) (Partnered (some id)) := by
    cases role : surface.swaySurface with
    | none => exact .pure fun other current output there on _ => partnered other current output there on nofun
    | some output =>
        obtain ⟨record, found, partner⟩ := partnered id surface output present role nofun
        refine .read fun _ _ => .pure fun other current screen there on stays => ?_
        obtain ⟨entry, shown, named⟩ := partnered other current screen there on nofun
        have apart : screen ≠ output := by
          rintro rfl
          cases found.symm.trans shown
          exact stays (named.symm.trans partner)
        exact ⟨entry, (Heap.cell_modify_other _ _ apart).trans shown, named⟩
  refine leaves.bind fun _ left => ?_
  refine (left.covered (unlinkAttachment_changes _ _) (by simp)).bind fun _ left => ?_
  refine (left.covered (unlinkAttachment_changes _ _) (by simp)).bind fun _ left => ?_
  refine (left.covered (unlinkDesc_changes _ _) (by simp)).bind fun _ left => ?_
  refine (left.covered (unlinkDesc_changes _ _) (by simp)).bind fun _ left => ?_
  refine (left.covered (clearUserData_changes _ _) (by simp)).bind fun _ left => ?_
  refine (left.covered (clearUserData_changes _ _) (by simp)).bind fun _ left => ?_
  refine (left.covered (clearUserData_changes _ _) (by simp)).bind fun _ left => ?_
  refine (left.covered (clearUserData_changes _ _) (by simp)).bind fun _ left => ?_
  refine (left.covered (clearUserData_changes _ _) (by simp)).bind fun _ left => ?_
  refine (left.covered (destroySubsurfaceParts_changes id) (by simp)).bind fun parted left => .pure ?_
  intro other current output there on _
  refine left other current output (Heap.old_of_free _ there) on fun same => ?_
  rw [Option.some.inj same] at there
  cases (Heap.cell_free_self parted.forwardSurfaces id).symm.trans there

theorem destroyed (partnered : Partnered none scene) (owned : Owned) :
    Ensures (destroyOwned scene owned) (Partnered none) := by
  intro last ended
  cases destroyOwned_cases owned last ended with
  | surface handled => exact partnered.surfaceGone _ last handled
  | buffer handled => exact partnered.of_changes (bufferHandleResourceDestroy_changes _ last handled) (by simp)
  | imageDesc changes => exact partnered.of_changes changes (by simp)
  | parted handled =>
      exact (partnered.of_changes (destroySubsurfaceParts_changes _ _ handled) (by simp)).same rfl rfl
  | resource changes => exact (partnered.of_changes changes (by simp)).same rfl rfl

theorem disconnected (partnered : Partnered none scene) (client : WlClientId) (owned : List Owned) :
    Ensures (wlClientDestroy scene client owned) (Partnered none) := by
  unfold wlClientDestroy
  split
  · have emptied := Ensures.foldlM_holds (fun _ item start => destroyed start item) owned partnered
    exact emptied.bind fun last kept => .pure (kept.same rfl rfl)
  · exact .throw

theorem timedOut (partnered : Partnered none scene) (env : Environment) (id : BgClientId) :
    Ensures (clientTimeout scene env id) (Partnered none) := by
  refine .read fun record _ => .via (Partnered none) ?_ fun emptied kept => ?_
  · unfold destroyTimedOut
    split
    · exact partnered.disconnected record.client env.owned
    · exact .pure partnered
  · refine (kept.covered (cleanupClient_changes env id) (by simp)).bind fun cleaned kept => .pure ?_
    exact kept.of_changes (setupClientlessMode_changes env) (by simp)

theorem outputGone (partnered : Partnered none scene) (env : Environment) (id : OutputId) :
    Ensures (destroySurface scene env id) (Partnered none) := by
  refine .read fun output present => ?_
  have only {surface : SurfaceId} {current : ForwardSurface} (there : scene.forwardSurfaces.cell surface = some current)
      (role : current.swaySurface = some id) : output.pluginSurface = some surface := by
    obtain ⟨record, found, partner⟩ := partnered surface current id there role nofun
    cases present.symm.trans found
    exact partner
  refine .via (fun closed => Partnered none closed ∧ Deserted id closed) ?_ fun closed left => ?_
  · cases shown : output.pluginSurface with
    | none =>
        refine .pure ⟨partnered.same rfl rfl, fun surface current there role => ?_⟩
        cases shown.symm.trans (only there role)
    | some plugin =>
        refine .read fun _ _ => .pure ⟨fun surface current screen there role _ => ?_, fun surface current there role => ?_⟩
        · obtain ⟨before, found, ⟨_, rfl⟩ | ⟨_, rfl⟩⟩ := scene.forwardSurfaces.old_of_modify there
          · cases role
          · exact partnered surface current screen found role nofun
        · obtain ⟨before, found, ⟨_, rfl⟩ | ⟨apart, rfl⟩⟩ := scene.forwardSurfaces.old_of_modify there
          · cases role
          · exact apart (Option.some.inj ((only found role).symm.trans shown))
  · obtain ⟨kept, deserted⟩ := left
    refine .via (fun emptied => Partnered none emptied ∧ Deserted id emptied) ?_ fun emptied left => .check fun _ => .pure ?_
    · refine Ensures.both ?_ ?_
      · cases output.client with
        | none => exact .pure kept
        | some client =>
            refine .read fun record _ => (kept.disconnected record.client env.owned).bind fun emptied kept => ?_
            exact kept.covered (cleanupClient_changes env client) (by simp)
      · exact fun last computed => deserted.of_changes (destroyOutputClient_changes env output.client last computed) (by simp)
    · obtain ⟨kept, deserted⟩ := left
      obtain ⟨loop, fd, _, same⟩ := Retimed.removeTimer? emptied output.clientSubmissionTimer
      rw [same]
      intro surface current screen there role _
      obtain ⟨record, found, partner⟩ := kept surface current screen there role nofun
      refine ⟨record, (Heap.cell_free_other _ fun gone => ?_).trans found, partner⟩
      exact deserted surface current there (role.trans (congrArg some gone))

theorem layered {first second : Scene} (partnered : Partnered none first) {client : WlClientId} {id : SurfaceId}
    (layered : Layered client id first second) : Partnered none second := by
  obtain ⟨output, target, surface, taken, serial, there, alone, present, free, before, after⟩ := layered
  have assumed : Partnered none (assumeRole first id output) := by
    intro other current screen found role _
    obtain ⟨old, stood, ⟨rfl, rfl⟩ | ⟨_, rfl⟩⟩ := first.forwardSurfaces.old_of_modify found
    · cases role
      refine ⟨{ target with pluginSurface := some other }, ?_, rfl⟩
      change (first.outputs.modify output _).cell output = _
      rw [Heap.cell_modify_self, there]
      rfl
    · obtain ⟨record, shown, partner⟩ := partnered other current screen stood role nofun
      have apart : screen ≠ output := by
        rintro rfl
        cases there.symm.trans shown
        cases alone.symm.trans partner
      exact ⟨record, (Heap.cell_modify_other _ _ apart).trans shown, partner⟩
  have kept := assumed.of_changes before (by simp)
  refine of_changes (fun other current screen found role stays => ?_) after (by simp)
  obtain ⟨old, stood, ⟨_, rfl⟩ | ⟨_, rfl⟩⟩ := taken.forwardSurfaces.old_of_modify found
  · exact kept other old screen stood role stays
  · exact kept other current screen stood role stays

theorem request {first second : Scene} (partnered : Partnered none first) {client : WlClientId} {request : Request}
    (step : RequestStep first client request second) : Partnered none second := by
  cases step with
  | plain changes => exact partnered.of_changes changes (by simp)
  | bound => exact partnered.of_changes (Allotted.bound _ client _).changes (by simp)
  | layered layered => exact partnered.layered layered
  | surface version => exact partnered.of_changes (compositorCreateSurface_changes _ client version) (by simp)
  | buffer width height => exact partnered.same rfl rfl
  | attached _ _ handled => exact partnered.of_changes (nestedSurfaceAttach_changes _ _ second handled) (by simp)
  | framed id => exact partnered.of_changes (nestedSurfaceFrame_changes client id) (by simp)
  | committed _ handled => exact partnered.of_changes (nestedSurfaceCommit_changes _ _ handled) (by simp)
  | parented _ _ handled =>
      exact partnered.of_changes (subcompositorGetSubsurface_changes client _ _ second handled) (by simp)
  | extended _ extended => exact partnered.of_changes extended.changes (by simp)
  | placedAbove _ _ handled => exact partnered.of_changes (nestedSubsurfacePlaceAbove_changes client _ _ second handled) (by simp)
  | placedBelow _ _ handled => exact partnered.of_changes (nestedSubsurfacePlaceBelow_changes client _ _ second handled) (by simp)
  | destroyed _ before handled => exact (partnered.of_changes before (by simp)).destroyed _ second handled

theorem event (partnered : Partnered none scene) (env : Environment) (runDisplay : Bool) (event : SceneEvent) :
    Ensures (handleScene scene env runDisplay event) (Partnered none) := by
  cases event with
  | configure output serial width height =>
      exact partnered.covered (extSessionLockSurfaceV1HandleConfigure_changes env output serial width height) (by simp)
  | outputAdded name =>
      have added : Changes [.addOutput] scene (handleGlobalOutput scene name) := .single (.addOutput _ ⟨rfl, rfl⟩) (by simp)
      exact .pure (partnered.of_changes added (by simp))
  | outputRemoved name =>
      change Ensures (handleGlobalRemove scene env name) _
      unfold handleGlobalRemove
      split
      · exact .pure partnered
      · exact partnered.outputGone env _
  | outputGeometry output => exact partnered.covered (handleWlOutputGeometry_changes runDisplay output) (by simp)
  | outputScale output factor => exact partnered.covered (handleWlOutputScale_changes runDisplay output factor) (by simp)
  | outputDone output => exact partnered.covered (handleWlOutputDone_changes env runDisplay output) (by simp)
  | outputDescReady output => exact partnered.covered (handleOutputDescReady_changes env runDisplay output) (by simp)
  | preferredScale output scale => exact partnered.covered (fractScalePreferredScale_changes output scale) (by simp)
  | frameDone output => exact partnered.covered (surfaceFrameHandleDone_changes output) (by simp)
  | backgroundFrameDone callbacks => exact partnered.covered (bgFrameHandleDone_changes env callbacks) (by simp)
  | request client request =>
      exact (handleRequest_step client request).weaken fun _ step => partnered.request step
  | clientGone client =>
      refine .via (Partnered none) ?_ fun notified kept => kept.disconnected client env.owned
      cases recordOf scene client with
      | none => exact .pure partnered
      | some id => exact partnered.covered (clientDestroyed_changes env id) (by simp)
  | nestedDispatched => exact .pure (partnered.of_changes (afterDispatchNested_changes env) (by simp))

theorem step {state : SwaylockState} {env : Environment} {event : Event} {next : Scene}
    (partnered : Partnered none state.scene) (step : SceneStep state env event next) : Partnered none next := by
  have retimed {first second : Scene} (kept : Partnered none first) (same : Retimed first second) :
      Partnered none second := by
    obtain ⟨_, _, _, rfl⟩ := same
    exact kept.same rfl rfl
  cases step with
  | tick => exact partnered.same rfl rfl
  | scene _ handled => exact partnered.event env _ _ _ handled
  | hiddenCheck _ same => exact retimed (partnered.of_changes (hiddenCheckTimeout_changes env) (by simp)) same
  | connectionTimeout _ handled same =>
      rename_i client _ _
      refine retimed (Ensures.read (fun record _ => ?_) _ handled) same
      have noted : Partnered none (state.scene.setBgClient client fun record => { record with clientConnectTimer := none }) :=
        partnered.same rfl rfl
      exact noted.timedOut env client
  | redrawTimeout _ handled same =>
      rename_i id _ _
      refine retimed (Ensures.read (fun output _ => ?_) _ handled) same
      have noted : Partnered none (state.scene.setOutput id fun output => { output with clientSubmissionTimer := none }) :=
        partnered.of_changes (.setOutput .timer _ id (fun _ => rfl) (by simp : Effect.output .timer ∈ [.output .timer])) (by simp)
      dsimp only
      split
      · exact .pure noted
      · exact noted.timedOut env _
  | start same creates runs =>
      have created := (retimed partnered same).of_changes (createSurfaces_changes env _ creates) (by simp)
      exact created.of_changes (startMainPlugin_changes env _ runs) (by simp)
  | armHiddenCheck => exact partnered.of_changes armHiddenCheck_changes (by simp)
  | resume => exact partnered.of_changes (resumeAllClients_changes env) (by simp)
  | indicated indicated =>
      obtain ⟨start, stop, early, draws, late⟩ := indicated
      exact retimed ((retimed partnered early).of_changes draws.changes (by simp)) late

end Partnered

/-- In every reachable state the surfaces in the layer role are the plugin surfaces of live outputs. -/
theorem partnered_of_reachable {state : SwaylockState} (reachable : swaylock.machine.Reachable state) :
    Partnered none state.scene := by
  refine reachable.invariant (fun state => Partnered none state.scene) (fun start initial => ?_)
    fun _ _ _ partnered moved => partnered.step (sceneStep_of_step moved)
  intro id surface output present
  rw [initial.surfaces.1] at present
  cases present

end SwaylockPlugin
