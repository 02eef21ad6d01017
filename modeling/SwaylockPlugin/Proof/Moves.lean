import Mathlib.Logic.Relation
import SwaylockPlugin.Proof.Clients

namespace SwaylockPlugin

open Library

/-- These effects leave the clients, the timers and the life of the outputs alone. -/
abbrev quietEffects : List Effect := calmEffects ++ applyEffects ++ [.addOutput, .done]

/-- What a plugin record keeps while serials are taken from it. -/
def SwaylockBgClient.still (record : SwaylockBgClient) : SwaylockBgClient := { record with serial := 0 }

/-- What an output has to do with clients and timers. -/
structure Service where
  client : Option BgClientId
  clientSubmissionTimer : Option TimerId
  created : Bool

/-- An output serves by these fields. -/
def SwaylockSurface.service (output : SwaylockSurface) : Service :=
  ⟨output.client, output.clientSubmissionTimer, output.created⟩

/-- A scene is still when its clients and its timers are as before, and so are its outputs beside new ones. -/
structure Still (first second : Scene) : Prop where
  eventloop : second.eventloop = first.eventloop
  settings : second.args = first.args ∧ second.clock = first.clock
  display : second.display = first.display
  hiddenCheckTimer : second.hiddenCheckTimer = first.hiddenCheckTimer
  clients : second.clients = first.clients
  mainClient : second.mainClient = first.mainClient
  startClientlessMode : second.startClientlessMode = first.startClientlessMode
  connections : second.wlClients.next = first.wlClients.next
  named : second.bgClients.next = first.bgClients.next
  records : ∀ id, (second.bgClients.cell id).map SwaylockBgClient.still =
    (first.bgClients.cell id).map SwaylockBgClient.still
  outputs : ∀ id, (second.outputs.cell id).map SwaylockSurface.service =
      (first.outputs.cell id).map SwaylockSurface.service ∨
    first.outputs.cell id = none ∧ ∃ output, second.outputs.cell id = some output ∧ output.client = none ∧
      output.clientSubmissionTimer = none

namespace Still

variable {first second third : Scene}

theorem refl (scene : Scene) : Still scene scene :=
  ⟨rfl, ⟨rfl, rfl⟩, rfl, rfl, rfl, rfl, rfl, rfl, rfl, fun _ => rfl, fun _ => .inl rfl⟩

theorem record (still : Still first second) {id : BgClientId} {record : SwaylockBgClient}
    (present : second.bgClients.cell id = some record) :
    ∃ old, first.bgClients.cell id = some old ∧ record.still = old.still := by
  have view := still.records id
  rw [present, Option.map_some] at view
  obtain ⟨old, there, same⟩ := Option.map_eq_some_iff.mp view.symm
  exact ⟨old, there, same.symm⟩

theorem output (still : Still first second) {id : OutputId} {output : SwaylockSurface}
    (present : first.outputs.cell id = some output) :
    ∃ new, second.outputs.cell id = some new ∧ new.service = output.service := by
  rcases still.outputs id with view | ⟨absent, _⟩
  · rw [present, Option.map_some] at view
    exact Option.map_eq_some_iff.mp view
  · cases absent.symm.trans present

theorem old (still : Still first second) {id : OutputId} {output : SwaylockSurface}
    (present : second.outputs.cell id = some output) :
    (∃ old, first.outputs.cell id = some old ∧ old.service = output.service) ∨
      first.outputs.cell id = none ∧ output.client = none ∧ output.clientSubmissionTimer = none := by
  rcases still.outputs id with view | ⟨absent, new, there, bare⟩
  · rw [present, Option.map_some] at view
    exact .inl (Option.map_eq_some_iff.mp view.symm)
  · cases there.symm.trans present
    exact .inr ⟨absent, bare⟩

theorem trans (one : Still first second) (two : Still second third) : Still first third where
  eventloop := two.eventloop.trans one.eventloop
  settings := ⟨two.settings.1.trans one.settings.1, two.settings.2.trans one.settings.2⟩
  display := two.display.trans one.display
  hiddenCheckTimer := two.hiddenCheckTimer.trans one.hiddenCheckTimer
  clients := two.clients.trans one.clients
  mainClient := two.mainClient.trans one.mainClient
  startClientlessMode := two.startClientlessMode.trans one.startClientlessMode
  connections := two.connections.trans one.connections
  named := two.named.trans one.named
  records id := (two.records id).trans (one.records id)
  outputs id := by
    rcases one.outputs id with early | ⟨absent, output, there, unserved, untimed⟩
    · rcases two.outputs id with late | ⟨absent, new⟩
      · exact .inl (late.trans early)
      · refine .inr ⟨?_, new⟩
        rw [absent, Option.map_none] at early
        exact Option.map_eq_none_iff.mp early.symm
    · obtain ⟨new, present, same⟩ := two.output there
      refine .inr ⟨absent, new, present, ?_, ?_⟩
      · exact (congrArg Service.client same).trans unserved
      · exact (congrArg Service.clientSubmissionTimer same).trans untimed

end Still

section Quiet

variable {first second : Scene}

theorem setOutput_still (scene : Scene) (id : OutputId) {change : SwaylockSurface → SwaylockSurface}
    (kept : ∀ output, (change output).service = output.service) : Still scene (scene.setOutput id change) :=
  ⟨rfl, ⟨rfl, rfl⟩, rfl, rfl, rfl, rfl, rfl, rfl, rfl, fun _ => rfl,
    fun other => .inl (Heap.view_modify _ id _ _ (fun output _ => kept output) other)⟩

theorem Change.still {effect : Effect} (change : Change first effect second) (quiet : effect ∈ quietEffects) :
    Still first second := by
  cases change with
  | @output group id change kept =>
      refine setOutput_still first id fun output => ?_
      have masked : (group.mask (change output)).service = (group.mask output).service := by rw [kept output]
      cases group with
      | client | timer => simp at quiet
      | plugin | presented | screen => exact masked
  | addOutput record bare =>
      refine ⟨rfl, ⟨rfl, rfl⟩, rfl, rfl, rfl, rfl, rfl, rfl, rfl, fun _ => rfl, fun id => ?_⟩
      by_cases new : id = first.outputs.next
      · subst new
        exact .inr ⟨first.outputs.cell_next, record, first.outputs.cell_alloc_next record, bare⟩
      · refine .inl ?_
        change ((first.outputs.alloc record).cell id).map _ = _
        rw [Heap.cell_alloc, if_neg new]
  | serial id =>
      refine ⟨rfl, ⟨rfl, rfl⟩, rfl, rfl, rfl, rfl, rfl, rfl, rfl, fun other => ?_, fun _ => .inl rfl⟩
      refine Heap.view_modify _ id _ SwaylockBgClient.still (fun record _ => ?_) other
      rfl
  | delistOutput | freeOutput | clients | arm | armIndicator | hiddenCheck | disarm | display => simp at quiet
  | _ => exact ⟨rfl, ⟨rfl, rfl⟩, rfl, rfl, rfl, rfl, rfl, rfl, rfl, fun _ => rfl, fun _ => .inl rfl⟩

theorem Changes.still {effects : List Effect} (changes : Changes effects first second)
    (quiet : ∀ effect ∈ effects, effect ∈ quietEffects) : Still first second := by
  induction changes with
  | refl => exact .refl first
  | step _ listed change ih => exact ih.trans (change.still (quiet _ listed))

end Quiet

/-- The client of an output that goes away is cleaned up where there is one. -/
def cleanupServing (scene : Scene) (env : Environment) : Option BgClientId → Handled Scene
  | none => return scene
  | some id => cleanupClient scene env id

theorem cleanupServing_cleaned {scene : Scene} {env : Environment} (client : Option BgClientId) :
    Ensures (cleanupServing scene env client) fun next =>
      client = none ∧ next = scene ∨ ∃ id record, client = some id ∧ Cleaned scene id record next := by
  cases client with
  | none => exact .pure (.inl ⟨rfl, rfl⟩)
  | some id =>
      refine (cleanupClient_cleaned id).weaken fun next ⟨record, cleaned⟩ => ?_
      exact .inr ⟨id, record, rfl, cleaned⟩

/-- An output goes away with its redraw timer. -/
def Scene.dropOutput (scene : Scene) (id : OutputId) (timer : Option TimerId) : Scene :=
  { scene.removeTimer? timer with outputs := (scene.removeTimer? timer).outputs.free id }

/-- Only some handlers meet a client that ended by itself, stop one or arm the redraw timers of outputs. -/
structure Bounds where
  deaths : Bool
  stops : Bool
  arms : OutputId → Bool

/-- A handler moves a scene in these ways within its bounds, while it may be creating an output. -/
inductive Move (bounds : Bounds) : Option OutputId × Scene → Option OutputId × Scene → Prop
  | quiet {creating : Option OutputId} {scene next : Scene} (changes : Changes quietEffects scene next) :
      Move bounds (creating, scene) (creating, next)
  | pause {creating : Option OutputId} (scene : Scene) (env : Environment) (id : BgClientId) (paused : Bool)
      (allowed : paused = true → bounds.stops = true) :
      Move bounds (creating, scene) (creating, setClientPaused scene env id paused)
  | hang {creating : Option OutputId} (scene : Scene) (client : WlClientId) :
      Move bounds (creating, scene) (creating, { scene with wlClients := scene.wlClients.free client })
  | register {creating : Option OutputId} {scene next : Scene} {client : WlClientId}
      (handled : clientResourceCreate scene client = .ok next) : Move bounds (creating, scene) (creating, next)
  | forgetConnect {creating : Option OutputId} (scene : Scene) (id : BgClientId) :
      Move bounds (creating, scene)
        (creating, scene.setBgClient id fun record => { record with clientConnectTimer := none })
  | clean {creating : Option OutputId} {scene next : Scene} {env : Environment} {id : BgClientId}
      (handled : cleanupClient scene env id = .ok next) : Move bounds (creating, scene) (creating, next)
  | died {creating : Option OutputId} {scene next : Scene} {env : Environment} {id : BgClientId}
      (allowed : bounds.deaths = true) (handled : clientDestroyed scene env id = .ok next) :
      Move bounds (creating, scene) (creating, next)
  | start {creating : Option OutputId} (output : Option OutputId) {scene next : Scene} {pid : Int}
      (mode : output.isSome = scene.args.pluginPerOutput) (place : output.isSome = true → creating = output)
      (handled : connectPlugin scene output pid = .ok next) : Move bounds (creating, scene) (creating, next)
  | lock {scene : Scene} {id : OutputId} {output : SwaylockSurface} (present : scene.outputs.cell id = some output)
      (uncreated : output.created = false) (allowed : bounds.arms id = true) :
      Move bounds (none, scene) (some id, createLockSurface scene id)
  | finish (scene : Scene) (id : OutputId) :
      Move bounds (some id, scene) (none, scene.setOutput id fun output => { output with created := true })
  | redraw {creating : Option OutputId} {scene next : Scene} {id : OutputId} (handled : armRedraw scene id = .ok next)
      (allowed : bounds.arms id = true) : Move bounds (creating, scene) (creating, next)
  | cancel {creating : Option OutputId} (scene : Scene) (id : OutputId) :
      Move bounds (creating, scene) (creating, cancelSubmissionTimer scene id)
  | forgetRedraw {creating : Option OutputId} (scene : Scene) (id : OutputId) :
      Move bounds (creating, scene)
        (creating, scene.setOutput id fun output => { output with clientSubmissionTimer := none })
  | forgetHidden {creating : Option OutputId} (scene : Scene) :
      Move bounds (creating, scene) (creating, { scene with hiddenCheckTimer := none })
  | armHidden {creating : Option OutputId} (scene : Scene) :
      Move bounds (creating, scene) (creating, armHiddenCheck scene)
  | delist {creating : Option OutputId} (scene : Scene) (id : OutputId) :
      Move bounds (creating, scene) (creating, { scene with surfaces := scene.surfaces.erase id })
  | remove {creating : Option OutputId} {scene cleaned : Scene} {env : Environment} {id : OutputId}
      {output : SwaylockSurface} (present : scene.outputs.cell id = some output)
      (handled : cleanupServing scene env output.client = .ok cleaned) :
      Move bounds (creating, scene) (creating, cleaned.dropOutput id output.clientSubmissionTimer)
  | display {creating : Option OutputId} {scene : Scene} (up : scene.display = true) :
      Move bounds (creating, scene) (creating, destroyDisplay scene)

/-- A handler moves a scene step by step, and it creates the same output at its end. -/
def Moves (bounds : Bounds) (creating : Option OutputId) (first second : Scene) : Prop :=
  Relation.ReflTransGen (Move bounds) (creating, first) (creating, second)

namespace Moves

variable {bounds : Bounds} {creating : Option OutputId} {first second third : Scene}

theorem refl (scene : Scene) : Moves bounds creating scene scene :=
  Relation.ReflTransGen.refl

theorem trans (one : Moves bounds creating first second) (two : Moves bounds creating second third) :
    Moves bounds creating first third :=
  Relation.ReflTransGen.trans one two

theorem single (move : Move bounds (creating, first) (creating, second)) : Moves bounds creating first second :=
  Relation.ReflTransGen.single move

theorem andThen {rest : Handled Scene} (start : Moves bounds creating first second)
    (after : Ensures rest (Moves bounds creating second)) : Ensures rest (Moves bounds creating first) :=
  after.weaken fun _ later => start.trans later

theorem changes {effects : List Effect} (changes : Changes effects first second)
    (quiet : ∀ effect ∈ effects, effect ∈ quietEffects) : Moves bounds creating first second :=
  single (.quiet (changes.widen quiet))

theorem foldl {Item : Type} {body : Scene → Item → Scene}
    (iteration : ∀ scene item, Moves bounds creating scene (body scene item)) (items : List Item) (scene : Scene) :
    Moves bounds creating scene (items.foldl body scene) :=
  foldl_keeps refl trans iteration items scene

theorem keep (moves : Moves bounds creating first second) (Holds : Option OutputId → Scene → Prop)
    (preserved : ∀ {one two}, Move bounds one two → Holds one.1 one.2 → Holds two.1 two.2)
    (start : Holds creating first) : Holds creating second := by
  have kept (last : Option OutputId × Scene) (path : Relation.ReflTransGen (Move bounds) (creating, first) last) :
      Holds last.1 last.2 := by
    induction path with
    | refl => exact start
    | tail _ move ih => exact preserved move ih
  exact kept (creating, second) moves

end Moves

theorem Changes.moves {bounds : Bounds} {creating : Option OutputId} {scene : Scene} {effects : List Effect}
    {computation : Handled Scene} (covered : Ensures computation (Changes effects scene))
    (quiet : ∀ effect ∈ effects, effect ∈ quietEffects) : Ensures computation (Moves bounds creating scene) :=
  covered.weaken fun _ changes => .changes changes quiet

variable {bounds : Bounds} {creating : Option OutputId} {scene : Scene} {env : Environment}

section Clients

theorem wlClientDestroy_still (client : WlClientId) (owned : List Owned) :
    Ensures (wlClientDestroy scene client owned) (Still scene) := by
  unfold wlClientDestroy
  split
  · have emptied : Ensures (owned.foldlM destroyOwned scene) (Still scene) :=
      Ensures.foldlM Still.refl Still.trans
        (fun state item => (destroyOwned_changes item).weaken fun _ changes => changes.still (by simp)) owned scene
    refine emptied.bind fun middle still => .pure (still.trans ?_)
    exact ⟨rfl, ⟨rfl, rfl⟩, rfl, rfl, rfl, rfl, rfl, rfl, rfl, fun _ => rfl, fun _ => .inl rfl⟩
  · exact .throw

theorem wlClientDestroy_moves (client : WlClientId) (owned : List Owned) :
    Ensures (wlClientDestroy scene client owned) (Moves bounds creating scene) := by
  unfold wlClientDestroy
  split
  · have emptied : Ensures (owned.foldlM destroyOwned scene) (Moves bounds creating scene) :=
      Ensures.foldlM Moves.refl Moves.trans
        (fun state item => Changes.moves (destroyOwned_changes item) (by simp)) owned scene
    exact emptied.bind fun middle moves => .pure (moves.trans (.single (.hang middle client)))
  · exact .throw

theorem clientGone_moves (dies : bounds.deaths = true) (client : WlClientId) :
    Ensures (clientGone scene env client) (Moves bounds creating scene) := by
  refine .via (Moves bounds creating scene) ?_ fun notified moves => moves.andThen (wlClientDestroy_moves client env.owned)
  cases recordOf scene client with
  | none => exact .pure (.refl scene)
  | some id => exact fun _ handled => .single (.died dies handled)

theorem resumeAllClients_moves : Moves bounds creating scene (resumeAllClients scene env) :=
  .foldl (fun state id => .single (.pause state env id false nofun)) scene.clients scene

theorem setupClientlessMode_moves : Moves bounds creating scene (setupClientlessMode scene env) := by
  unfold setupClientlessMode
  split
  · rename_i up
    have resumed : Changes [.client] scene (resumeAllClients scene env) := resumeAllClients_changes env
    have cancelled : Changes [.disarm, .output .timer] (resumeAllClients scene env)
        ((resumeAllClients scene env).surfaces.foldl cancelSubmissionTimer (resumeAllClients scene env)) :=
      Changes.foldl (fun _ id => cancelSubmissionTimer_changes id) _ _
    have still := (cancelled.display (by simp)).trans ((resumed.display (by simp)).trans up)
    have cancels : Moves bounds creating (resumeAllClients scene env)
        ((resumeAllClients scene env).surfaces.foldl cancelSubmissionTimer (resumeAllClients scene env)) :=
      .foldl (fun state id => .single (.cancel state id)) _ _
    refine ((resumeAllClients_moves.trans cancels).trans (.single (.display still))).trans ?_
    exact .foldl (fun state id => .changes (fallBackSurface_changes env id) (by simp)) _ _
  · exact .refl scene

theorem clientTimeout_moves (id : BgClientId) :
    Ensures (clientTimeout scene env id) (Moves bounds creating scene) := by
  refine .read fun record _ => ?_
  refine .via (Moves bounds creating scene) ?_ fun destroyed moves => ?_
  · unfold destroyTimedOut
    split
    · exact wlClientDestroy_moves record.client env.owned
    · exact .pure (.refl scene)
  · refine .via (Moves bounds creating scene) ?_ fun cleaned moves => .pure (moves.trans setupClientlessMode_moves)
    exact moves.andThen fun _ handled => .single (.clean handled)

theorem clientConnectionTimeout_moves (id : BgClientId) :
    Ensures (clientConnectionTimeout scene env id) (Moves bounds creating scene) :=
  .read fun _ _ => (Moves.single (.forgetConnect scene id)).andThen (clientTimeout_moves id)

theorem outputRedrawTimeout_moves (id : OutputId) :
    Ensures (outputRedrawTimeout scene env id) (Moves bounds creating scene) := by
  refine .read fun output _ => ?_
  have forgotten : Moves bounds creating scene
      (scene.setOutput id fun output => { output with clientSubmissionTimer := none }) :=
    .single (.forgetRedraw scene id)
  dsimp only
  split
  · exact .pure forgotten
  · exact forgotten.andThen (clientTimeout_moves _)

theorem hiddenCheckTimeout_moves (stops : bounds.stops = true) :
    Moves bounds creating scene (hiddenCheckTimeout scene env) := by
  have forgotten : Moves bounds creating scene { scene with hiddenCheckTimer := none } := .single (.forgetHidden scene)
  refine (forgotten.trans ?_).trans (.single (.armHidden _))
  exact .foldl (fun state id => .single (.pause state env id _ fun _ => stops)) scene.clients _

end Clients

section Outputs

/-- An upstream surface that was configured gets another size. -/
def SwaylockSurface.resizes (output : SwaylockSurface) (width height : UInt32) : Bool :=
  (output.width != width || output.height != height) && !(output.width == 0 || output.height == 0)

theorem extSessionLockSurfaceV1HandleConfigure_moves {id : OutputId} {serial width height : UInt32}
    (arms : (scene.outputs.cell id).any (fun output => output.resizes width height) = true → bounds.arms id = true) :
    Ensures (extSessionLockSurfaceV1HandleConfigure scene env id serial width height)
      (Moves bounds creating scene) := by
  refine .read fun output present => ?_
  have recorded : Changes relayEffects scene (recordConfigure scene id serial width height) := by
    refine Changes.trans ?_ (.setOutput .screen _ id (fun _ => rfl) (by simp))
    exact .tell scene _ (by simp [Message.effect])
  refine (recorded.andThen (answerConfigure_changes env id _ serial)).bind fun answered changed => ?_
  have rendered : Changes relayEffects scene (renderDirty answered id) :=
    changed.trans ((renderDirty_changes id).widen (by simp))
  have moved : Moves bounds creating scene (renderDirty answered id) := .changes rendered (by simp)
  dsimp only
  split
  · rename_i resized
    refine moved.andThen fun _ handled => .single (.redraw handled (arms ?_))
    rw [present]
    exact resized
  · exact .pure moved

theorem startOutputPlugin_moves (id : OutputId) :
    Ensures (startOutputPlugin scene env id) (Moves bounds (some id) scene) := by
  unfold startOutputPlugin
  split
  · rename_i mode
    refine .via (fun result => Moves bounds (some id) scene result.1) ?_ fun result moved => ?_
    · unfold runPluginCommand
      split
      · exact .pure (.refl _)
      · refine .via (Moves bounds (some id) scene) ?_ fun connected moved => .pure moved
        exact fun _ handled => .single (.start (some id) mode.symm (fun _ => rfl) handled)
    · obtain ⟨next, success⟩ := result
      dsimp only
      split
      · exact .pure moved
      · exact .pure (moved.trans setupClientlessMode_moves)
  · exact .pure (.refl _)

theorem createSurface_moves {id : OutputId} {output : SwaylockSurface}
    (present : scene.outputs.cell id = some output) (uncreated : output.created = false) (arms : bounds.arms id = true) :
    Ensures (createSurface scene env id) (Moves bounds none scene) := by
  have started : Ensures (startOutputPlugin (createLockSurface scene id) env id)
      (Moves bounds (some id) (createLockSurface scene id)) := startOutputPlugin_moves id
  refine .read fun _ _ => started.bind fun last moved => .pure ?_
  exact ((Relation.ReflTransGen.single (.lock present uncreated arms)).trans moved).tail (.finish last id)

/-- An output is complete and has no lock surface yet. -/
def SwaylockSurface.completed (output : SwaylockSurface) (runDisplay : Bool) : Bool :=
  !(output.created || !runDisplay || !output.hasOutputDone || (output.colorOutput && !output.outputDescCurrent))

theorem initSurfaceIfReady_moves {runDisplay : Bool} {id : OutputId}
    (arms : (scene.outputs.cell id).any (fun output => output.completed runDisplay) = true → bounds.arms id = true) :
    Ensures (initSurfaceIfReady scene env runDisplay id) (Moves bounds none scene) := by
  refine .read fun output present => ?_
  split
  · exact .pure (.refl scene)
  · rename_i waits
    refine createSurface_moves present ?_ (arms ?_)
    · simp only [Bool.or_eq_true, not_or] at waits
      exact Bool.eq_false_iff.mpr waits.1.1.1
    · rw [present]
      exact Bool.not_eq_true' _ ▸ Bool.eq_false_iff.mpr waits

theorem bgFrameHandleDone_moves (id : CallbackId) :
    Ensures (bgFrameHandleDone scene env id) (Moves bounds creating scene) := by
  refine .read fun callbacks _ => ?_
  refine .via (Moves bounds creating scene) ?_ fun presented moves => .pure ?_
  · cases callbacks.swaySurface with
    | none => exact .pure (.refl scene)
    | some output =>
        refine .read fun _ _ => .read fun record _ => .pure ?_
        have noted : Changes quietEffects scene (scene.setOutput output fun output =>
            { output with framePending := false, frameLastDone := scene.clock }) :=
          .setOutput .presented scene output (fun _ => rfl) (by simp)
        refine Moves.trans (.single (.quiet noted)) ?_
        unfold resumeClientForSurface
        split
        · exact .refl _
        · exact .single (.pause _ env _ false nofun)
  · have completes (state : Scene) (callback : ResourceId) :
        Changes quietEffects state (completeCallback state callback) := by
      refine Changes.trans ?_ (.destroyResource _ callback (by simp))
      exact .tell state _ (by simp [Message.effect])
    refine (moves.trans (.single (.quiet (Changes.foldl completes callbacks.list presented)))).trans ?_
    exact .single (.quiet (.single (.await _) (by simp)))

theorem destroySurface_moves (id : OutputId) : Ensures (destroySurface scene env id) (Moves bounds creating scene) := by
  refine .read fun output present => ?_
  have delisted : Moves bounds creating scene { scene with surfaces := scene.surfaces.erase id } :=
    .single (.delist scene id)
  have still : Still scene { scene with surfaces := scene.surfaces.erase id } :=
    ⟨rfl, ⟨rfl, rfl⟩, rfl, rfl, rfl, rfl, rfl, rfl, rfl, fun _ => rfl, fun _ => .inl rfl⟩
  refine (closePluginSurface_changes output.pluginSurface).bind fun closed closing => ?_
  have moved : Moves bounds creating scene closed := delisted.trans (.changes closing (by simp))
  have still : Still scene closed := still.trans (closing.still (by simp))
  -- What the output has to do with its client and its timer was read before the connection was destroyed.
  have dropped {destroyed cleaned : Scene} (moved : Moves bounds creating scene destroyed)
      (still : Still scene destroyed) (handled : cleanupServing destroyed env output.client = .ok cleaned) :
      Moves bounds creating scene (cleaned.dropOutput id output.clientSubmissionTimer) := by
    obtain ⟨record, there, same⟩ := still.output present
    have client : record.client = output.client := congrArg Service.client same
    have timer : record.clientSubmissionTimer = output.clientSubmissionTimer :=
      congrArg Service.clientSubmissionTimer same
    rw [← timer]
    exact moved.trans (.single (.remove there (client ▸ handled)))
  refine .via (fun cleaned => Moves bounds creating scene (cleaned.dropOutput id output.clientSubmissionTimer)) ?_
    fun cleaned moved => .check fun _ => .pure moved
  cases serving : output.client with
  | none =>
      rw [serving] at dropped
      exact .pure (dropped moved still rfl)
  | some client =>
      rw [serving] at dropped
      refine .read fun record _ => ?_
      have moves : Ensures (wlClientDestroy closed record.client env.owned) (Moves bounds creating closed) :=
        wlClientDestroy_moves record.client env.owned
      refine (moves.both (wlClientDestroy_still record.client env.owned)).bind fun destroyed gone => ?_
      exact fun cleaned handled => dropped (moved.trans gone.1) (still.trans gone.2) handled

theorem handleGlobalRemove_moves (name : UInt32) :
    Ensures (handleGlobalRemove scene env name) (Moves bounds creating scene) := by
  unfold handleGlobalRemove
  split
  · exact .pure (.refl scene)
  · exact destroySurface_moves _

end Outputs

section Events

theorem acceptCommit_moves (id : SurfaceId) (output : OutputId) :
    Ensures (acceptCommit scene id output) (Moves bounds creating scene) := by
  refine .read fun surface _ => ?_
  have marked : Changes renderEffects scene (if surface.committed.attachment != .null then
      scene.setOutput output fun output => { output with hasBuffer := true } else scene) := by
    split
    · exact .setOutput .screen scene output (fun _ => rfl) (by simp)
    · exact .refl scene
  refine (marked.andThen (ackPendingConfigure_changes output)).bind fun acknowledged changed => ?_
  have moved : Moves bounds creating scene acknowledged := .changes changed (by simp)
  refine .via (Moves bounds creating scene) ?_ fun disarmed moved => .pure ?_
  · refine .read fun record present => .pure (moved.trans ?_)
    have cancel : Moves bounds creating acknowledged (cancelSubmissionTimer acknowledged output) :=
      .single (.cancel acknowledged output)
    unfold cancelSubmissionTimer at cancel
    rw [present] at cancel
    exact cancel
  · exact moved.trans (.single (.quiet (.tell disarmed _ (by simp [Message.effect]))))

theorem commitLayerSurface_moves (id : SurfaceId) (output : OutputId) :
    Ensures (commitLayerSurface scene id output) fun result => Moves bounds creating scene result.1 := by
  refine .read fun record _ => ?_
  refine (applyPendingSurfaceUpdates_changes id (.lock output) record.surface).bind fun applied changed => ?_
  have moved : Moves bounds creating scene applied := .changes changed (by simp)
  refine .read fun surface _ => .via (fun _ => True) (fun _ _ => trivial) fun verdict _ => ?_
  cases verdict with
  | some error => exact .pure (moved.trans (.single (.quiet (.postError applied _ _ (by simp)))))
  | none => exact (acceptCommit_moves id output).bind fun accepted after => .pure (moved.trans after)

theorem nestedSurfaceCommit_moves (id : SurfaceId) :
    Ensures (nestedSurfaceCommit scene id) fun result => Moves bounds creating scene result.1 := by
  refine .read fun surface _ => ?_
  split
  · exact .pure (.refl scene)
  · refine (commitSubsurface_changes id surface).bind fun middle changed => ?_
    have moved : Moves bounds creating scene middle := .changes changed (by simp)
    refine .read fun current _ => ?_
    split
    · exact .pure moved
    · rename_i output _
      refine Ensures.weaken ?_ fun result after => moved.trans after
      unfold commitInRole
      split
      · exact (sendInitialConfigure_changes id output).bind fun configured changed => .pure (.changes changed (by simp))
      · split
        · split
          · exact .pure (.refl middle)
          · exact .pure (.single (.quiet (.postError middle _ _ (by simp))))
        · exact commitLayerSurface_moves id output

theorem handleRequest_moves (client : WlClientId) (request : Request) :
    Ensures (handleRequest scene client request) (Moves bounds creating scene) := by
  by_cases calm : request.calm = true
  · exact Changes.moves (handleRequest_calm client calm) (by simp)
  · cases request with
    | getRegistry => exact fun _ handled => .single (.register handled)
    | surface id call =>
        cases call with
        | commit =>
            simp only [handleRequest]
            split
            · exact (nestedSurfaceCommit_moves id).bind fun result moved => .pure moved
            · exact .pure (.changes (invalidObject_changes client) (by simp))
        | _ => exact absurd rfl calm
    | _ => exact absurd rfl calm

/-- A connection ends by itself in this event. -/
def SceneEvent.dies : SceneEvent → Bool
  | .clientGone _ => true
  | _ => false

/-- The redraw timer of an output may be armed in this event. -/
def SceneEvent.arms (scene : Scene) (runDisplay : Bool) (event : SceneEvent) (output : OutputId) : Bool :=
  match event with
  | .configure id _ width height => id == output && (scene.outputs.cell id).any fun output => output.resizes width height
  | .outputDone id => id == output && (scene.outputs.cell id).any fun output =>
      SwaylockSurface.completed { output with hasOutputDone := true } runDisplay
  | .outputDescReady id => id == output && (scene.outputs.cell id).any fun output =>
      SwaylockSurface.completed { output with outputDescCurrent := true } runDisplay
  | _ => false

/-- A scene event stops no client. -/
def SceneEvent.limits (event : SceneEvent) (scene : Scene) (runDisplay : Bool) : Bounds :=
  ⟨event.dies, false, event.arms scene runDisplay⟩

theorem handleScene_moves (runDisplay : Bool) (event : SceneEvent) :
    Ensures (handleScene scene env runDisplay event) (Moves (event.limits scene runDisplay) none scene) := by
  have waits {bounds : Bounds} {id : OutputId} {change : SwaylockSurface → SwaylockSurface}
      (kept : ∀ output, OutputGroup.screen.mask (change output) = OutputGroup.screen.mask output)
      (arms : (scene.outputs.cell id).any (fun output => (change output).completed runDisplay) = true →
        bounds.arms id = true) :
      Ensures (initSurfaceIfReady (scene.setOutput id change) env runDisplay id) (Moves bounds none scene) := by
    have set : Moves bounds none scene (scene.setOutput id change) :=
      .single (.quiet (.setOutput .screen scene id kept (by simp)))
    refine set.andThen (initSurfaceIfReady_moves fun completes => arms ?_)
    change ((scene.outputs.modify id change).cell id).any _ = true at completes
    rw [Heap.cell_modify_self, Option.any_map] at completes
    exact completes
  cases event with
  | configure output serial width height =>
      refine extSessionLockSurfaceV1HandleConfigure_moves fun resized => ?_
      exact (Bool.and_eq_true _ _).mpr ⟨beq_self_eq_true output, resized⟩
  | outputAdded name => exact .pure (.single (.quiet (.single (.addOutput _ ⟨rfl, rfl⟩) (by simp))))
  | outputRemoved name => exact handleGlobalRemove_moves name
  | outputGeometry output => exact Changes.moves (handleWlOutputGeometry_changes runDisplay output) (by simp)
  | outputScale output factor => exact Changes.moves (handleWlOutputScale_changes runDisplay output factor) (by simp)
  | outputDone output =>
      refine .read fun _ _ => waits (fun _ => rfl) fun completes => ?_
      exact (Bool.and_eq_true _ _).mpr ⟨beq_self_eq_true output, completes⟩
  | outputDescReady output =>
      refine .read fun _ _ => waits (fun _ => rfl) fun completes => ?_
      exact (Bool.and_eq_true _ _).mpr ⟨beq_self_eq_true output, completes⟩
  | preferredScale output scale => exact Changes.moves (fractScalePreferredScale_changes output scale) (by simp)
  | frameDone output => exact Changes.moves (surfaceFrameHandleDone_changes output) (by simp)
  | backgroundFrameDone callbacks => exact bgFrameHandleDone_moves callbacks
  | request client request => exact handleRequest_moves client request
  | clientGone client => exact clientGone_moves rfl client
  | nestedDispatched =>
      refine .pure ?_
      unfold afterDispatchNested
      split
      · exact setupClientlessMode_moves
      · exact .refl scene

theorem creates_moves (arms : ∀ id, bounds.arms id = true) (outputs : List OutputId) :
    Ensures (outputs.foldlM (fun scene id => do
      let output ← scene.output id
      check (!output.created)
      createSurface scene env id) scene) (Moves bounds none scene) := by
  refine Ensures.foldlM Moves.refl Moves.trans (fun state id => ?_) outputs scene
  refine .read fun output present => .check fun uncreated => createSurface_moves present ?_ (arms id)
  simpa using uncreated

theorem createSurfaces_moves (arms : ∀ id, bounds.arms id = true) :
    Ensures (createSurfaces scene env) (Moves bounds none scene) :=
  creates_moves arms scene.surfaces

theorem startMainPlugin_moves : Ensures (startMainPlugin scene env) (Moves bounds creating scene) := by
  unfold startMainPlugin
  split
  · exact .pure (.refl scene)
  · rename_i mode
    refine .via (fun result => Moves bounds creating scene result.1) ?_ fun result moved => ?_
    · unfold runPluginCommand
      split
      · exact .pure (.refl scene)
      · refine .via (Moves bounds creating scene) ?_ fun connected moved => .pure moved
        exact fun _ handled => .single (.start none ((Bool.not_eq_true _).mp mode).symm nofun handled)
    · obtain ⟨next, success⟩ := result
      dsimp only
      split
      · exact .pure moved
      · exact .pure (moved.trans setupClientlessMode_moves)

end Events

section Steps

variable {state next : SwaylockState} {occurrence : Occurrence}

/-- No client ended by itself before an event that is not about a connection. -/
def Bounds.lasting : Bounds := ⟨false, true, fun _ => true⟩

/-- A scene is moved between two retimings, or the clock or the indicator changes it. -/
inductive Moved (first second : Scene) : Prop
  | moves {bounds : Bounds} {early late : Scene} (before : Retimed first early) (moves : Moves bounds none early late)
      (after : Retimed late second) : Moved first second
  | indicated (indicated : Indicated first second) : Moved first second
  | tick (now : Timespec) (same : second = { first with clock := now }) : Moved first second

theorem moved_of_step (moved : swaylock.machine.step state occurrence next) : Moved state.scene next.scene := by
  have step := sceneStep_of_step moved
  obtain ⟨event, env⟩ := occurrence
  generalize next.scene = last at step
  cases step with
  | tick now => exact .tick now rfl
  | scene _ handled => exact .moves (.refl _) (handleScene_moves state.runDisplay _ _ handled) (.refl _)
  | hiddenCheck _ kept =>
      have moves : Moves .lasting none state.scene (hiddenCheckTimeout state.scene env) := hiddenCheckTimeout_moves rfl
      exact .moves (.refl _) moves kept
  | connectionTimeout _ handled kept =>
      have moves : Moves .lasting none _ _ := clientConnectionTimeout_moves _ _ handled
      exact .moves (.refl _) moves kept
  | redrawTimeout _ handled kept =>
      have moves : Moves .lasting none _ _ := outputRedrawTimeout_moves _ _ handled
      exact .moves (.refl _) moves kept
  | start kept creates runs =>
      have moves : Moves .lasting none _ _ := createSurfaces_moves (fun _ => rfl) _ creates
      exact .moves kept (moves.trans (startMainPlugin_moves _ runs)) (.refl _)
  | armHiddenCheck =>
      have moves : Moves .lasting none state.scene (armHiddenCheck state.scene) := .single (.armHidden state.scene)
      exact .moves (.refl _) moves (.refl _)
  | resume =>
      have moves : Moves .lasting none state.scene (resumeAllClients state.scene env) := resumeAllClients_moves
      exact .moves (.refl _) moves (.refl _)
  | indicated indicated => exact .indicated indicated

end Steps

end SwaylockPlugin
