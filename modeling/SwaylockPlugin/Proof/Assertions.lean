import SwaylockPlugin.Proof.Bindings
import SwaylockPlugin.Proof.Places
import SwaylockPlugin.Proof.Polled

namespace SwaylockPlugin

open Library

section Outputs

variable {state next : SwaylockState} {occurrence : Occurrence}

/-- A plugin with its own output has no resource for another output. -/
def OutputsBound (scene : Scene) : Prop :=
  ∀ id resource output, scene.resources.cell id = some resource → resource.role = .output output →
    resource.client < scene.wlClients.next ∧ ∀ bg record, scene.bgClients.cell bg = some record →
      record.client = resource.client → record.uniqueOutput = none ∨ record.uniqueOutput = some output

theorem KeepsFixed.output {first second : Scene} (kept : KeepsFixed first second) {id : ResourceId} {resource : Resource}
    {output : OutputId} (present : second.resources.cell id = some resource) (role : resource.role = .output output) :
    first.resources.cell id = some resource :=
  kept id resource present (by rw [role]; rfl)

theorem Layered.output {client : WlClientId} {surface : SurfaceId} {first second : Scene}
    (layered : Layered client surface first second) {id : ResourceId} {resource : Resource} {output : OutputId}
    (present : second.resources.cell id = some resource) (role : resource.role = .output output) :
    first.resources.cell id = some resource := by
  obtain ⟨screen, _, _, taken, serial, _, _, _, _, before, after⟩ := layered
  rw [after.resources (by simp)] at present
  change (taken.resources.alloc _).cell id = some resource at present
  rcases taken.resources.old_of_alloc present with ⟨_, rfl⟩ | ⟨_, there⟩
  · cases role
  · rw [before.resources (by simp)] at there
    exact there

theorem OutputsBound.hires {first second : Scene} (bound : OutputsBound first) (hires : Hires first second)
    (kept : ∀ id resource output, second.resources.cell id = some resource → resource.role = .output output →
      first.resources.cell id = some resource) : OutputsBound second := by
  intro id resource output present role
  obtain ⟨below, seats⟩ := bound id resource output (kept id resource output present role) role
  refine ⟨Nat.lt_of_lt_of_le below hires.connections, fun bg record found shared => ?_⟩
  rcases hires.records bg record found with ⟨old, there, seat⟩ | new
  · have client : old.client = record.client := congrArg Prod.fst seat
    have unique : old.uniqueOutput = record.uniqueOutput := congrArg Prod.snd seat
    exact unique ▸ seats bg old there (client.trans shared)
  · exact absurd (shared ▸ new) (Nat.not_le_of_lt below)

theorem recordOf_some {scene : Scene} {client : WlClientId} {id : BgClientId} (found : recordOf scene client = some id) :
    id ∈ scene.clients ∧ ∃ record, scene.bgClients.cell id = some record ∧ record.client = client := by
  refine ⟨List.mem_of_find?_eq_some found, ?_⟩
  have test := List.find?_some found
  obtain ⟨record, present, same⟩ := (Option.any_eq_true _ _).mp test
  exact ⟨record, present, eq_of_beq same⟩

theorem request_enabled {env : Environment} {client : WlClientId} {request : Request}
    (allowed : enabled state ⟨.scene (.request client request), env⟩ = true) :
    registered state.scene client request = true ∧ offered state.scene client request = true := by
  change ((state.polling && state.scene.display) && (openConnection state.scene client &&
    registered state.scene client request && offered state.scene client request)) = true at allowed
  simp only [Bool.and_eq_true] at allowed
  exact ⟨allowed.2.1.2, allowed.2.2⟩

theorem OutputsBound.step (bound : OutputsBound state.scene) (guard : PlaceGuard none state.scene)
    (moved : swaylock.machine.step state occurrence next) : OutputsBound next.scene := by
  have hires : Hires state.scene next.scene := .step (moved_of_step moved)
  obtain ⟨event, env⟩ := occurrence
  rcases binds_of_step moved with kept | ⟨client, request, rfl, allowed, binds⟩
  · exact bound.hires hires fun _ _ _ present role => kept.output present role
  · revert hires
    generalize next.scene = last at binds
    intro hires
    cases binds with
    | kept kept => exact bound.hires hires fun _ _ _ present role => kept.output present role
    | layered layered => exact bound.hires hires fun _ _ _ present role => layered.output present role
    | @output output present =>
        intro id resource screen there role
        rcases state.scene.resources.old_of_alloc there with ⟨_, rfl⟩ | ⟨_, old⟩
        · cases role
          have visible : visibleOutput state.scene client output = true := (request_enabled allowed).2
          obtain ⟨target, live⟩ := Option.isSome_iff_exists.mp present
          simp only [visibleOutput, live, Bool.and_eq_true] at visible
          obtain ⟨record, found, filtered⟩ := (Option.any_eq_true _ _).mp visible.2
          obtain ⟨bg, listed, found⟩ := Option.bind_eq_some_iff.mp found
          obtain ⟨_, other, known, owner⟩ := recordOf_some listed
          cases found.symm.trans known
          refine ⟨owner ▸ guard.below bg record known, fun another entry placed shared => ?_⟩
          cases guard.apart another bg entry record placed known (shared.trans owner.symm)
          cases known.symm.trans placed
          simpa using filtered
        · exact bound id resource screen old role

end Outputs

section Startup

variable {scene : Scene} {env : Environment}

theorem Changes.mainClient {effects : List Effect} {first second : Scene} (changes : Changes effects first second)
    (apart : Effect.client ∉ effects) : second.mainClient = first.mainClient := by
  induction changes with
  | refl => rfl
  | step _ listed change ih =>
      refine Eq.trans ?_ ih
      cases change with
      | clients => exact absurd listed apart
      | _ => rfl

theorem bgFrameHandleDone_mainClient (id : CallbackId) :
    Ensures (bgFrameHandleDone scene env id) fun next => next.mainClient = scene.mainClient := by
  refine .read fun callbacks _ => ?_
  refine .via (fun presented => presented.mainClient = scene.mainClient) ?_ fun presented kept => .pure ?_
  · cases callbacks.swaySurface with
    | none => exact .pure rfl
    | some output =>
        refine .read fun _ _ => .read fun record _ => .pure ?_
        unfold resumeClientForSurface
        split
        · rfl
        · rename_i client _
          obtain ⟨records, paused, _⟩ := setClientPaused_records
            (scene.setOutput output fun output => { output with framePending := false, frameLastDone := scene.clock })
            env client false
          rw [paused]
          rfl
  · have completes (state : Scene) (callback : ResourceId) :
        Changes [.done, .resource] state (completeCallback state callback) := by
      refine Changes.trans ?_ (.destroyResource _ callback (by simp))
      exact .tell state _ (by simp [Message.effect])
    have completed : Changes [.done, .resource] presented (callbacks.list.foldl completeCallback presented) :=
      Changes.foldl completes callbacks.list presented
    exact (completed.mainClient (by simp)).trans kept

theorem destroySurface_mainClient (id : OutputId) (nobody : scene.mainClient = none) :
    Ensures (destroySurface scene env id) fun next => next.mainClient = none := by
  refine .read fun output _ => ?_
  refine (closePluginSurface_changes output.pluginSurface).bind fun closed changes => ?_
  have closing : closed.mainClient = none := (changes.mainClient (by simp)).trans nobody
  refine .via (fun cleaned => cleaned.mainClient = none) ?_ fun cleaned kept => .check fun _ => .pure ?_
  · cases output.client with
    | none => exact .pure closing
    | some client =>
        refine .read fun record _ => (wlClientDestroy_still record.client env.owned).bind fun middle still => ?_
        refine (cleanupClient_cleaned client).weaken fun last ends => ?_
        obtain ⟨_, cleaned⟩ := ends
        have place : last.place none = _ := cleaned.place none
        change last.mainClient = none
        refine Eq.trans place ?_
        split
        · rfl
        · exact still.mainClient.trans closing
  · cases output.clientSubmissionTimer <;> exact kept

theorem handleScene_mainClient {event : SceneEvent} (upstream : event.nested = false) (nobody : scene.mainClient = none) :
    Ensures (handleScene scene env false event) fun next => next.mainClient = none := by
  have quiet {effects : List Effect} {computation : Handled Scene} (covered : Ensures computation (Changes effects scene))
      (apart : Effect.client ∉ effects) : Ensures computation fun next => next.mainClient = none :=
    covered.weaken fun _ changes => (changes.mainClient apart).trans nobody
  have waits (waiting : Scene) (id : OutputId) (same : waiting.mainClient = none) :
      Ensures (initSurfaceIfReady waiting env false id) fun next => next.mainClient = none := by
    refine .read fun output _ => ?_
    simp only [Bool.not_false, Bool.or_true, Bool.true_or, if_true]
    exact .pure same
  cases event with
  | configure output serial width height =>
      exact quiet (extSessionLockSurfaceV1HandleConfigure_changes env output serial width height) (by simp)
  | outputAdded name => exact .pure nobody
  | outputRemoved name =>
      change Ensures (handleGlobalRemove scene env name) _
      unfold handleGlobalRemove
      split
      · exact .pure nobody
      · exact destroySurface_mainClient _ nobody
  | outputGeometry output => exact quiet (handleWlOutputGeometry_changes false output) (by simp)
  | outputScale output factor => exact quiet (handleWlOutputScale_changes false output factor) (by simp)
  | outputDone output => exact .read fun _ _ => waits _ output nobody
  | outputDescReady output => exact .read fun _ _ => waits _ output nobody
  | preferredScale output scale => exact quiet (fractScalePreferredScale_changes output scale) (by simp)
  | frameDone output => exact quiet (surfaceFrameHandleDone_changes output) (by simp)
  | backgroundFrameDone callbacks =>
      exact (bgFrameHandleDone_mainClient callbacks).weaken fun _ same => same.trans nobody
  | request client request => cases upstream
  | clientGone client => cases upstream
  | nestedDispatched => cases upstream

/-- Before the start the lock does not run and there is no main client. -/
def Unstaffed (state : SwaylockState) : Prop :=
  state.phase = .startup → state.runDisplay = false ∧ state.scene.mainClient = none

theorem LockStep.idle {state : SwaylockState} {event : Event} {core : LockCore} (step : LockStep state event core)
    (back : core.phase = .startup) (idle : state.runDisplay = false) : core.runDisplay = false := by
  cases step with
  | keeps => exact idle
  | graceOver => exact idle
  | locked => exact idle
  | swept => exact idle
  | polled => exact idle
  | unlockedByInput => rfl
  | ended => rfl
  | _ => cases back

theorem startDisplay_phase (state : SwaylockState) :
    Ensures (startDisplay state env) fun next => next.phase = .waitCheck :=
  .via (fun _ => True) (fun _ _ => trivial) fun _ _ => .via (fun _ => True) (fun _ _ => trivial) fun _ _ => .pure rfl

/-- A step before the start handles an upstream event while the lock does not run, draws the indicator or takes time. -/
theorem startup_step {state next : SwaylockState} {occurrence : Occurrence} (idle : state.runDisplay = false)
    (moved : swaylock.machine.step state occurrence next) (back : next.phase = .startup) :
    (∃ event : SceneEvent, event.nested = false ∧ handleScene state.scene occurrence.env false event = .ok next.scene) ∨
      Indicated state.scene next.scene ∨ ∃ now, next.scene = { state.scene with clock := now } := by
  have before : state.phase = .startup := (lockStep_of_step moved).startup back
  have ended : state.polling = false := by rw [SwaylockState.polling, before]; rfl
  have settled : state.expiring = false := by rw [SwaylockState.expiring, before]; rfl
  obtain ⟨event, env⟩ := occurrence
  have step : SceneStep state env event next.scene := sceneStep_of_step moved
  obtain ⟨allowed, handled⟩ := moved
  change enabled state ⟨event, env⟩ = true at allowed
  change handleEvent state env event = .ok next at handled
  revert step
  generalize last : next.scene = scene
  intro step
  cases step with
  | tick now => exact .inr (.inr ⟨now, rfl⟩)
  | @scene event scene _ ran =>
      have upstream : event.nested = false := by
        cases nested : event.nested with
        | false => rfl
        | true => simp [enabled, nested, ended] at allowed
      exact .inl ⟨event, upstream, idle ▸ ran⟩
  | hiddenCheck | connectionTimeout | redrawTimeout => simp [enabled, settled] at allowed
  | start => cases (startDisplay_phase state next handled).symm.trans back
  | armHiddenCheck => simp [enabled, before] at allowed
  | resume => simp [enabled, before] at allowed
  | indicated indicated => exact .inr (.inl indicated)

theorem Unstaffed.step {state next : SwaylockState} {occurrence : Occurrence} (unstaffed : Unstaffed state)
    (moved : swaylock.machine.step state occurrence next) : Unstaffed next := by
  intro back
  have lock := lockStep_of_step moved
  obtain ⟨idle, nobody⟩ := unstaffed (lock.startup back)
  refine ⟨lock.idle back idle, ?_⟩
  rcases startup_step idle moved back with ⟨event, upstream, ran⟩ | indicated | ⟨now, same⟩
  · exact handleScene_mainClient upstream nobody _ ran
  · have place : next.scene.place none = state.scene.place none := (SamePlaces.of_indicated indicated).place none
    exact place.trans nobody
  · rw [same]
    exact nobody

end Startup

section Calls

variable {scene : Scene} {env : Environment}

theorem cleanupClient_passes {creating : Option OutputId} (guard : PlaceGuard creating scene) (id : BgClientId) :
    Delivers .assertion (cleanupClient scene env id) fun _ => True := by
  obtain ⟨records, paused, _, _, running⟩ := setClientPaused_records scene env id false
  unfold cleanupClient
  rw [paused]
  refine .seek nofun fun record found => ?_
  change records.cell id = some record at found
  have same := running id
  rw [found, Option.map_some] at same
  obtain ⟨old, present, same⟩ := Option.map_eq_some_iff.mp same.symm
  have output : old.uniqueOutput = record.uniqueOutput := congrArg (fun running => running.uniqueOutput) same
  have placed := guard.placed id old present
  rw [output] at placed
  refine .via (fun _ => True) ?_ fun _ _ => trivial
  cases unique : record.uniqueOutput with
  | none =>
      rw [unique] at placed
      refine .test (fun _ => ?_) fun _ => trivial
      cases record.clientConnectTimer <;> exact beq_iff_eq.mpr placed
  | some screen =>
      rw [unique] at placed
      refine .seek nofun fun target there => .test (fun _ => ?_) fun _ => trivial
      have there : scene.outputs.cell screen = some target := by
        cases timer : record.clientConnectTimer <;> (rw [timer] at there; exact there)
      rw [PlaceGuard.place_some there] at placed
      exact beq_iff_eq.mpr placed

theorem runPluginCommand_passes {output : Option OutputId} (free : scene.place output = none) :
    Delivers .assertion (runPluginCommand scene env output) fun _ => True := by
  unfold runPluginCommand
  split
  · exact trivial
  · refine .via (fun _ => True) ?_ fun _ _ => trivial
    refine .check nofun fun _ => ?_
    cases output with
    | none => exact .test (fun _ => Option.isNone_iff_eq_none.mpr free) fun _ => trivial
    | some screen =>
        refine .seek nofun fun target there => .test (fun _ => ?_) fun _ => trivial
        exact Option.isNone_iff_eq_none.mpr ((PlaceGuard.place_some there).symm.trans free)

theorem layerOutput_unnamed {client : WlClientId} {record : SwaylockBgClient} {id output : Nat}
    (guard : PlaceGuard none scene) (known : scene.bgClients.cell id = some record)
    (owner : record.client = client) (found : layerOutput scene client none = some output) :
    record.uniqueOutput = some output := by
  have same {entry : SwaylockBgClient} (member : entry ∈ scene.clients.filterMap scene.bgClients.cell)
      (shared : entry.client = client) : entry.uniqueOutput = record.uniqueOutput := by
    obtain ⟨other, _, there⟩ := List.mem_filterMap.mp member
    cases guard.apart other id entry record there known (shared.trans owner.symm)
    cases there.symm.trans known
    rfl
  have folded (records : List SwaylockBgClient) (start : Option OutputId)
      (same : ∀ entry ∈ records, entry.client = client → entry.uniqueOutput = record.uniqueOutput) :
      records.foldl (fun found entry => if entry.client == client then entry.uniqueOutput else found) start =
        start ∨ records.foldl (fun found entry => if entry.client == client then entry.uniqueOutput else found) start =
          record.uniqueOutput := by
    induction records generalizing start with
    | nil => exact .inl rfl
    | cons entry records ih =>
        rw [List.foldl_cons]
        have rest := ih (if entry.client == client then entry.uniqueOutput else start)
          fun other member => same other (List.mem_cons_of_mem _ member)
        split at rest
        · rename_i shared
          rw [same entry List.mem_cons_self (eq_of_beq shared)] at rest ⊢
          rw [if_pos shared]
          exact .inr (rest.elim (fun same => same) fun same => same)
        · rename_i apart
          rw [if_neg apart]
          exact rest
  unfold layerOutput at found
  dsimp only at found
  split at found
  · cases found
  · rcases folded _ none fun entry member => same member with none_ | unique
    · exact nomatch none_.symm.trans found
    · exact unique.symm.trans found

theorem linkLayerSurface_passes {client : WlClientId} {record : SwaylockBgClient} {id : BgClientId} {output : OutputId}
    {surface : SurfaceId} (guard : PlaceGuard none scene) (known : scene.bgClients.cell id = some record)
    (owner : record.client = client) (own : record.uniqueOutput = none ∨ record.uniqueOutput = some output) :
    Delivers .assertion (linkLayerSurface scene client surface output) fun _ => True := by
  have placed := guard.placed id record known
  unfold linkLayerSurface
  refine .seek nofun fun screen there => ?_
  have service : clientForSurface scene screen = some id := by
    obtain ⟨old, present, same⟩ : ∃ old, scene.outputs.cell output = some old ∧ screen.client = old.client := by
      obtain ⟨old, present, ⟨_, rfl⟩ | ⟨_, rfl⟩⟩ := scene.outputs.old_of_modify there
      · exact ⟨old, present, rfl⟩
      · exact ⟨screen, present, rfl⟩
    have place : scene.place (some output) = screen.client := (PlaceGuard.place_some present).trans same.symm
    unfold clientForSurface
    rcases own with main | own
    · rw [main] at placed
      have single : false = scene.args.pluginPerOutput := guard.mode none id placed
      cases client : screen.client with
      | none => exact placed
      | some other =>
          have each : true = scene.args.pluginPerOutput := guard.mode (some output) other (place.trans client)
          exact nomatch single.trans each.symm
    · rw [own, place] at placed
      rw [placed]
      rfl
  refine .read service (.read known (.test (fun _ => beq_iff_eq.mpr owner) fun _ => ?_))
  change Delivers .assertion (takeSerial _ (clientForSurface scene screen) >>= _) _
  rw [service]
  exact .via (fun _ => True) (.read rfl (.read known trivial)) fun _ _ => trivial

/-- A named output is a live output that the plugin has a resource for. -/
def NamesOutput (scene : Scene) (client : WlClientId) : Option ResourceId → Option OutputId → Prop
  | none, none => True
  | some resource, some output =>
      ownedRole scene client resource = some (.output output) ∧ (scene.outputs.cell output).isSome = true
  | _, _ => False

theorem wlrLayerShellGetLayerSurface_passes {client : WlClientId} {surface : SurfaceId} {resource : Option ResourceId}
    {output : Option OutputId} (guard : PlaceGuard none scene) (bound : OutputsBound scene)
    (registry : registered scene client (.surface surface (.getLayerSurface resource)) = true)
    (names : NamesOutput scene client resource output) :
    Delivers .assertion (wlrLayerShellGetLayerSurface scene client surface output) fun _ => True := by
  obtain ⟨record, found, _⟩ := (Option.any_eq_true _ _).mp registry
  obtain ⟨id, listed, known⟩ := Option.bind_eq_some_iff.mp found
  obtain ⟨_, other, there, owner⟩ := recordOf_some listed
  cases known.symm.trans there
  have own {target : OutputId} (chosen : layerOutput scene client output = some target) :
      record.uniqueOutput = none ∨ record.uniqueOutput = some target := by
    cases output with
    | none => exact .inr (layerOutput_unnamed guard known owner chosen)
    | some named =>
        have same : named = target := by simpa [layerOutput] using chosen
        cases resource with
        | none => exact names.elim
        | some name =>
            obtain ⟨entry, present, role⟩ := Option.map_eq_some_iff.mp names.1
            obtain ⟨present, client⟩ := Option.filter_eq_some_iff.mp present
            exact same ▸ (bound name entry named present role).2 id record known (owner.trans (eq_of_beq client).symm)
  unfold wlrLayerShellGetLayerSurface
  split
  · exact trivial
  · rename_i target chosen
    refine .seek nofun fun screen _ => .seek nofun fun asking _ => ?_
    split
    · exact trivial
    · refine (linkLayerSurface_passes guard known owner (own chosen)).bind fun linked _ => ?_
      split
      · refine .seek nofun fun scaled _ => ?_
        split <;> exact trivial
      · exact trivial

end Calls

section Runs

variable {state next : SwaylockState} {occurrence : Occurrence}

/-- Every listed plugin record is the main client or the client of its own output alone, no other record is referenced,
and the mode decides which of the two it is. -/
structure ClientsPlaced (scene : Scene) : Prop where
  served : ∀ id ∈ scene.clients, ∃ record, scene.bgClients.cell id = some record ∧
    ∀ place, scene.place place = some id ↔ place = record.uniqueOutput
  only : ∀ place id, scene.place place = some id → id ∈ scene.clients
  mode : ∀ place id, scene.place place = some id → place.isSome = scene.args.pluginPerOutput

theorem PlaceGuard.clientsPlaced {creating : Option OutputId} {scene : Scene} (guard : PlaceGuard creating scene) :
    ClientsPlaced scene := by
  refine ⟨fun id listed => ?_, fun place id served => ?_, guard.mode⟩
  · obtain ⟨record, present⟩ := Option.isSome_iff_exists.mp ((guard.listed id).mp listed)
    refine ⟨record, present, fun place => ⟨fun served => ?_, ?_⟩⟩
    · obtain ⟨found, there, same⟩ := guard.placing place id served
      cases there.symm.trans present
      exact same.symm
    · rintro rfl
      exact guard.placed id record present
  · obtain ⟨record, present, _⟩ := guard.placing place id served
    exact (guard.listed id).mpr (Option.isSome_iff_exists.mpr ⟨record, present⟩)

/-- These calls assert something about clients: a clean up, a start of the plugin command, the end of an output after
its client was cleaned up, and a layer surface for an output. -/
inductive ClientCall where
  | cleanup (id : BgClientId)
  | command (output : Option OutputId)
  | removal (output : OutputId)
  | layer (client : WlClientId) (id : SurfaceId) (output : Option OutputId)

/-- No assertion about clients fails in a call. -/
def ClientCall.passes (scene : Scene) (env : Environment) : ClientCall → Prop
  | .cleanup id => cleanupClient scene env id ≠ .error .assertion
  | .command output => runPluginCommand scene env output ≠ .error .assertion
  | .removal output => scene.outputIs output fun output => output.client.isNone
  | .layer client id output => wlrLayerShellGetLayerSurface scene client id output ≠ .error .assertion

/-- A timer that ends a client forgets itself first. -/
inductive TimesOut (scene : Scene) : TimerCallback → BgClientId → Scene → Prop
  | connection (client : BgClientId) : TimesOut scene (.clientConnectionTimeout client) client
      (scene.setBgClient client fun record => { record with clientConnectTimer := none })
  | redraw {output : OutputId} {record : SwaylockSurface} {client : BgClientId}
      (present : scene.outputs.cell output = some record) (served : clientForSurface scene record = some client) :
      TimesOut scene (.outputRedrawTimeout output) client
        (scene.setOutput output fun output => { output with clientSubmissionTimer := none })

/-- An event completes what an output needs before its lock surface is made. -/
inductive Readies (scene : Scene) (output : OutputId) : SceneEvent → Scene → Prop
  | done : Readies scene output (.outputDone output)
      (scene.setOutput output fun output => { output with hasOutputDone := true })
  | described : Readies scene output (.outputDescReady output)
      (scene.setOutput output fun output => { output with outputDescCurrent := true })

/-- An output that goes away ends the connection of its client. -/
inductive Evicts (scene : Scene) (env : Environment) (name : UInt32) (id : OutputId) (client : BgClientId) : Scene → Prop
  | ends {output : SwaylockSurface} {closed next : Scene} {record : SwaylockBgClient}
      (listed : (scene.surfaces.find? fun id =>
        (scene.outputs.cell id).any fun output => output.outputGlobalName == name) = some id)
      (present : scene.outputs.cell id = some output) (served : output.client = some client)
      (closes : closePluginSurface { scene with surfaces := scene.surfaces.erase id } output.pluginSurface = .ok closed)
      (known : closed.bgClients.cell client = some record)
      (destroys : wlClientDestroy closed record.client env.owned = .ok next) : Evicts scene env name id client next

/-- The main function starts with this scene. -/
def startScene (state : SwaylockState) : Scene :=
  (addDescriptors { state with sleepCommR := -1, sleepCommW := -1 }).scene

/-- The handlers of the events make these calls in these scenes. -/
inductive ClientCalls (state : SwaylockState) (env : Environment) : Event → Scene → ClientCall → Prop
  | timedOut {timer : TimerId} {result : InputResult} {callback : TimerCallback} {client : BgClientId}
      {start middle : Scene} {record : SwaylockBgClient}
      (due : state.scene.eventloop.due state.scene.clock timer = some callback)
      (times : TimesOut state.scene callback client start) (present : start.bgClients.cell client = some record)
      (destroys : destroyTimedOut start env record.client = .ok middle) :
      ClientCalls state env (.timer timer result) middle (.cleanup client)
  | died {client : WlClientId} {id : BgClientId} (known : recordOf state.scene client = some id) :
      ClientCalls state env (.scene (.clientGone client)) state.scene (.cleanup id)
  | restarted {client : WlClientId} {id : BgClientId} {record : SwaylockBgClient} {cleaned : Scene}
      (known : recordOf state.scene client = some id) (present : state.scene.bgClients.cell id = some record)
      (cleans : cleanupClient state.scene env id = .ok cleaned) (registry : record.madeARegistry = true) :
      ClientCalls state env (.scene (.clientGone client)) cleaned (.command record.uniqueOutput)
  | announced {event : SceneEvent} {id : OutputId} {ready : Scene} {output : SwaylockSurface}
      (readies : Readies state.scene id event ready) (present : ready.outputs.cell id = some output)
      (uncreated : output.created = false) (runs : state.runDisplay = true) (each : ready.args.pluginPerOutput = true) :
      ClientCalls state env (.scene event) (createLockSurface ready id) (.command (some id))
  | created {before after : List OutputId} {id : OutputId} {middle : Scene} {output : SwaylockSurface}
      (listed : (startScene state).surfaces = before ++ id :: after)
      (creates : before.foldlM (fun scene id => do
        let output ← scene.output id
        check (!output.created)
        createSurface scene env id) (startScene state) = .ok middle)
      (present : middle.outputs.cell id = some output) (uncreated : output.created = false)
      (each : middle.args.pluginPerOutput = true) :
      ClientCalls state env .start (createLockSurface middle id) (.command (some id))
  | started {middle : Scene} (creates : createSurfaces (startScene state) env = .ok middle)
      (single : middle.args.pluginPerOutput = false) : ClientCalls state env .start middle (.command none)
  | evicted {name : UInt32} {id : OutputId} {client : BgClientId} {middle : Scene}
      (evicts : Evicts state.scene env name id client middle) :
      ClientCalls state env (.scene (.outputRemoved name)) middle (.cleanup client)
  | removed {name : UInt32} {id : OutputId} {client : BgClientId} {middle cleaned : Scene}
      (evicts : Evicts state.scene env name id client middle) (cleans : cleanupClient middle env client = .ok cleaned) :
      ClientCalls state env (.scene (.outputRemoved name)) cleaned (.removal id)
  | layer {client : WlClientId} {id : SurfaceId} {resource : Option ResourceId} {output : Option OutputId}
      (names : NamesOutput state.scene client resource output) :
      ClientCalls state env (.scene (.request client (.surface id (.getLayerSurface resource)))) state.scene
        (.layer client id output)

theorem TimesOut.places {scene start : Scene} {callback : TimerCallback} {client : BgClientId}
    (times : TimesOut scene callback client start) : SamePlaces scene start := by
  cases times with
  | connection client =>
      refine .of_records scene fun other => ?_
      refine scene.bgClients.view_modify client _ SwaylockBgClient.seat (fun record _ => ?_) other
      rfl
  | @redraw output => exact .setOutput scene output (fun _ => rfl) fun _ created => created

theorem Readies.places {scene ready : Scene} {output : OutputId} {event : SceneEvent} (readies : Readies scene output event ready) :
    SamePlaces scene ready := by
  cases readies with
  | done => exact .setOutput scene output (fun _ => rfl) fun _ created => created
  | described => exact .setOutput scene output (fun _ => rfl) fun _ created => created

theorem Evicts.still {scene middle : Scene} {env : Environment} {name : UInt32} {id : OutputId} {client : BgClientId}
    (evicts : Evicts scene env name id client middle) :
    Still scene middle ∧ ∃ output, scene.outputs.cell id = some output ∧ output.client = some client := by
  obtain ⟨_, present, served, closes, _, destroys⟩ := evicts
  have delisted : Still scene { scene with surfaces := scene.surfaces.erase id } :=
    ⟨rfl, ⟨rfl, rfl⟩, rfl, rfl, rfl, rfl, rfl, rfl, rfl, fun _ => rfl, fun _ => .inl rfl⟩
  have closed := (closePluginSurface_changes _ _ closes).still (by simp)
  exact ⟨(delisted.trans closed).trans (wlClientDestroy_still _ _ _ destroys), _, present, served⟩

theorem Evicts.left {scene middle cleaned : Scene} {env : Environment} {name : UInt32} {id : OutputId} {client : BgClientId}
    (evicts : Evicts scene env name id client middle) (guard : PlaceGuard none middle)
    (cleans : cleanupClient middle env client = .ok cleaned) :
    cleaned.outputIs id (fun output => output.client.isNone) = true := by
  obtain ⟨still, output, present, served⟩ := evicts.still
  obtain ⟨record, cleaning⟩ := cleanupClient_cleaned client cleaned cleans
  obtain ⟨target, there, same⟩ := still.output present
  have client_ : target.client = some client := (congrArg Service.client same).trans served
  obtain ⟨found, known, unique⟩ := guard.placing (some id) client ((PlaceGuard.place_some there).trans client_)
  cases known.symm.trans cleaning.present
  have place : cleaned.place (some id) = none := by rw [cleaning.place, if_pos unique.symm]
  have view := cleaning.lasting.outputs id
  rw [there, Option.map_some] at view
  obtain ⟨last, stays, _⟩ := Option.map_eq_some_iff.mp view
  rw [PlaceGuard.place_some stays] at place
  rw [Scene.outputIs, stays]
  exact Option.isNone_iff_eq_none.mpr place

/-- Without a plugin for each output the main client is kept. -/
def KeepsMain (first second : Scene) : Prop :=
  first.args.pluginPerOutput = false → second.args.pluginPerOutput = false ∧ second.mainClient = first.mainClient

theorem createSurfaces_keepsMain (scene : Scene) (env : Environment) :
    Ensures (createSurfaces scene env) (KeepsMain scene) := by
  refine Ensures.foldlM (fun _ single => ⟨single, rfl⟩) ?_ (fun state id => ?_) scene.surfaces scene
  · intro first second third one two single
    obtain ⟨middle, early⟩ := one single
    obtain ⟨last, late⟩ := two middle
    exact ⟨last, late.trans early⟩
  · refine .read fun output _ => .check fun _ => .read fun _ _ => ?_
    refine .via (KeepsMain state) ?_ fun started kept => .pure fun single => kept single
    intro started handled single
    have lock : (createLockSurface state id).args.pluginPerOutput = false := single
    unfold startOutputPlugin at handled
    rw [lock] at handled
    cases handled
    exact ⟨single, rfl⟩

theorem unstaffed_of_reachable (reachable : swaylock.machine.Reachable state) : Unstaffed state := by
  refine reachable.invariant Unstaffed ?_ ?_
  · exact fun _ start _ => ⟨start.lock.1, start.plugins.2.2.2⟩
  · exact fun _ _ _ unstaffed moved => unstaffed.step moved

theorem outputsBound_of_reachable (reachable : swaylock.machine.Reachable state) : OutputsBound state.scene := by
  have both : PlaceGuard none state.scene ∧ OutputsBound state.scene := by
    refine reachable.invariant (fun state => PlaceGuard none state.scene ∧ OutputsBound state.scene) ?_ ?_
    · intro _ start
      refine ⟨placeGuard_initial start, fun id resource output present => ?_⟩
      rw [start.objects.2.2] at present
      cases present
    · exact fun _ _ _ guards moved => ⟨guards.1.step (moved_of_step moved), guards.2.step guards.1 moved⟩
  exact both.2

/-- In every reachable state the plugin records have their places, and no assertion about clients fails in a call that an
event makes. -/
theorem clients_keep_places (reachable : swaylock.machine.Reachable state) :
    ClientsPlaced state.scene ∧ ∀ env event scene call, enabled state ⟨event, env⟩ = true →
      ClientCalls state env event scene call → call.passes scene env := by
  have guard : PlaceGuard none state.scene := placeGuard_of_reachable reachable
  have bound : OutputsBound state.scene := outputsBound_of_reachable reachable
  refine ⟨guard.clientsPlaced, fun env event scene call allowed calls => ?_⟩
  have started : SamePlaces state.scene (startScene state) := .of_outputs _ rfl rfl rfl rfl rfl rfl
  have locked {before : Scene} {id : OutputId} {output : SwaylockSurface} (guard : PlaceGuard none before)
      (present : before.outputs.cell id = some output) (uncreated : output.created = false) :
      (createLockSurface before id).place (some id) = none := by
    have same : SamePlaces before (createLockSurface before id) := .timed before _ id (fun _ => rfl) fun _ created => created
    rw [same.place, PlaceGuard.place_some present]
    refine Option.not_isSome_iff_eq_none.mp fun served => ?_
    rcases guard.created id output present served with created | creating
    · cases created.symm.trans uncreated
    · cases creating
  cases calls with
  | @timedOut _ _ _ _ start middle record _ times _ destroys =>
      have same : SamePlaces start scene := by
        unfold destroyTimedOut at destroys
        split at destroys
        · exact .of_still (wlClientDestroy_still _ _ _ destroys)
        · cases destroys
          exact .of_outputs _ rfl rfl rfl rfl rfl rfl
      exact (cleanupClient_passes ((guard.same times.places).same same) _).safe
  | died => exact (cleanupClient_passes guard _).safe
  | restarted _ present cleans =>
      obtain ⟨record, cleaning⟩ := cleanupClient_cleaned _ _ cleans
      cases present.symm.trans cleaning.present
      refine (runPluginCommand_passes ?_).safe
      rw [cleaning.place, if_pos rfl]
  | announced readies present uncreated =>
      exact (runPluginCommand_passes (locked (guard.same readies.places) present uncreated)).safe
  | created _ creates present uncreated =>
      have moves : Moves .lasting none (startScene state) _ := creates_moves (fun _ => rfl) _ _ creates
      exact (runPluginCommand_passes (locked (moves.places (guard.same started)) present uncreated)).safe
  | started creates single =>
      have startup : state.phase = .startup := by simpa [enabled] using allowed
      have nobody : state.scene.mainClient = none := (unstaffed_of_reachable reachable startup).2
      have settled : scene.args = (startScene state).args := (createSurfaces_changes env _ creates).settings.1
      rw [settled] at single
      have free : scene.place none = none := (createSurfaces_keepsMain _ env _ creates single).2.trans nobody
      exact (runPluginCommand_passes free).safe
  | evicted evicts =>
      exact (cleanupClient_passes (guard.same (.of_still evicts.still.1)) _).safe
  | removed evicts cleans => exact evicts.left (guard.same (.of_still evicts.still.1)) cleans
  | layer names => exact (wlrLayerShellGetLayerSurface_passes guard bound (request_enabled allowed).1 names).safe

/-- A plugin that was restarted has its place and would be cleaned up again. -/
theorem clients_keep_places_restarted : ∃ state : SwaylockState, state.scene.clients = [1] ∧ ClientsPlaced state.scene ∧
    cleanupClient state.scene .obliging 1 ≠ .error .assertion := by
  obtain ⟨state, reachable, passed⟩ := swaylock.play_reachable
    ([.start, .check true, .scene (.request 0 .getRegistry), .scene (.clientGone 0)].map Event.obliged)
    (fun state => state.scene.clients == [1] && enabled state (Event.scene (.clientGone 1)).obliged &&
      recordOf state.scene 1 == some 1)
    (startState_initial .default .complete .opened : swaylock.initial defaultState)
    (by decide +kernel : (swaylock.play _ _).any _ = true)
  simp only [Bool.and_eq_true, beq_iff_eq] at passed
  obtain ⟨placed, calls⟩ := clients_keep_places reachable
  exact ⟨state, passed.1.1, placed, calls .obliging _ _ _ passed.1.2 (.died passed.2)⟩

end Runs

end SwaylockPlugin
