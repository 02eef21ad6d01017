import SwaylockPlugin.Proof.SceneSteps

namespace SwaylockPlugin

open Library

/-- A plugin record has its place in its output, or without one it is the main client. -/
def Scene.place (scene : Scene) : Option OutputId → Option BgClientId
  | none => scene.mainClient
  | some output => (scene.outputs.cell output).bind SwaylockSurface.client

/-- A plugin record without its pause keeps everything else. -/
def SwaylockBgClient.running (record : SwaylockBgClient) : SwaylockBgClient := { record with paused := false }

/-- An output without its client keeps everything else. -/
def SwaylockSurface.unserved (output : SwaylockSurface) : SwaylockSurface := { output with client := none }

/-- A scene is lasting when no more than its clients, their places and its timers change. -/
structure Lasting (first second : Scene) : Prop where
  settings : second.args = first.args ∧ second.clock = first.clock
  display : second.display = first.display
  startClientlessMode : second.startClientlessMode = first.startClientlessMode
  hiddenCheckTimer : second.hiddenCheckTimer = first.hiddenCheckTimer
  surfaces : second.surfaces = first.surfaces
  resources : second.resources = first.resources
  outputs : ∀ id, (second.outputs.cell id).map SwaylockSurface.unserved =
    (first.outputs.cell id).map SwaylockSurface.unserved

theorem Lasting.trans {first second third : Scene} (one : Lasting first second) (two : Lasting second third) :
    Lasting first third where
  settings := ⟨two.settings.1.trans one.settings.1, two.settings.2.trans one.settings.2⟩
  display := two.display.trans one.display
  startClientlessMode := two.startClientlessMode.trans one.startClientlessMode
  hiddenCheckTimer := two.hiddenCheckTimer.trans one.hiddenCheckTimer
  surfaces := two.surfaces.trans one.surfaces
  resources := two.resources.trans one.resources
  outputs id := (two.outputs id).trans (one.outputs id)

theorem Lasting.around (scene : Scene) (loop : Loop FdCallback TimerCallback) (records : Heap SwaylockBgClient)
    (connections : Heap WlClient) (clients : List BgClientId) (main : Option BgClientId) :
    Lasting scene { scene with
      eventloop := loop
      bgClients := records
      wlClients := connections
      clients := clients
      mainClient := main } :=
  ⟨⟨rfl, rfl⟩, rfl, rfl, rfl, rfl, rfl, fun _ => rfl⟩

/-- A client that is cleaned up leaves its place, the list and the loop. -/
structure Cleaned (scene : Scene) (id : BgClientId) (record : SwaylockBgClient) (next : Scene) : Prop where
  lasting : Lasting scene next
  present : scene.bgClients.cell id = some record
  placed : scene.place record.uniqueOutput = some id
  eventloop : next.eventloop = (scene.removeTimer? record.clientConnectTimer).eventloop
  clients : next.clients = scene.clients.erase id
  connections : next.wlClients = scene.wlClients
  named : next.bgClients.next = scene.bgClients.next
  records : ∀ other, next.bgClients.cell other = if other = id then none else scene.bgClients.cell other
  place : ∀ place, next.place place = if place = record.uniqueOutput then none else scene.place place

/-- A plugin that is started takes its place, the head of the list and a connection timer. -/
structure Connected (scene : Scene) (output : Option OutputId) (pid : Int) (next : Scene) : Prop where
  lasting : Lasting scene next
  up : scene.display = true
  free : scene.place output = none
  eventloop : next.eventloop =
    (scene.addTimer timeoutConnect (.clientConnectionTimeout scene.bgClients.next)).1.eventloop
  clients : next.clients = scene.bgClients.next :: scene.clients
  connections : next.wlClients.next = scene.wlClients.next + 1
  named : next.bgClients.next = scene.bgClients.next + 1
  records : ∀ other, next.bgClients.cell other = if other = scene.bgClients.next then
    some ⟨100000, scene.wlClients.next, output, pid, false, false, some scene.eventloop.nextTimer⟩
      else scene.bgClients.cell other
  place : ∀ place, next.place place = if place = output then some scene.bgClients.next else scene.place place

/-- A plugin that makes its registry is not timed any more. -/
structure Registered (scene : Scene) (id : BgClientId) (record : SwaylockBgClient) (next : Scene) : Prop where
  lasting : Lasting scene next
  present : scene.bgClients.cell id = some record
  eventloop : next.eventloop = (scene.removeTimer? record.clientConnectTimer).eventloop
  clients : next.clients = scene.clients
  connections : next.wlClients = scene.wlClients
  records : next.bgClients = scene.bgClients.modify id fun record =>
    { record with madeARegistry := true, clientConnectTimer := none }
  place : ∀ place, next.place place = scene.place place

section Functions

variable {scene : Scene} {env : Environment}

theorem setClientPaused_records (scene : Scene) (env : Environment) (id : BgClientId) (paused : Bool) :
    ∃ records, setClientPaused scene env id paused = { scene with bgClients := records } ∧
      records.next = scene.bgClients.next ∧
      (∀ other, other ≠ id → records.cell other = scene.bgClients.cell other) ∧
      ∀ other, (records.cell other).map SwaylockBgClient.running =
        (scene.bgClients.cell other).map SwaylockBgClient.running := by
  unfold setClientPaused
  split
  · exact ⟨scene.bgClients, rfl, rfl, fun _ _ => rfl, fun _ => rfl⟩
  · split
    · exact ⟨scene.bgClients, rfl, rfl, fun _ _ => rfl, fun _ => rfl⟩
    · refine ⟨_, rfl, rfl, fun _ apart => Heap.cell_modify_other _ _ apart, fun other => ?_⟩
      refine Heap.view_modify _ id _ SwaylockBgClient.running (fun record _ => ?_) other
      rfl

theorem place_congr {first second : Scene} (outputs : second.outputs = first.outputs)
    (main : second.mainClient = first.mainClient) (place : Option OutputId) :
    second.place place = first.place place := by
  cases place with
  | none => exact main
  | some output => exact congrArg (fun heap : Heap SwaylockSurface => (heap.cell output).bind SwaylockSurface.client) outputs

/-- A client that is released leaves its place. -/
structure Released (scene : Scene) (id : BgClientId) (output : Option OutputId) (next : Scene) : Prop where
  placed : scene.place output = some id
  lasting : Lasting scene next
  eventloop : next.eventloop = scene.eventloop
  clients : next.clients = scene.clients
  connections : next.wlClients = scene.wlClients
  records : next.bgClients = scene.bgClients
  place : ∀ place, next.place place = if place = output then none else scene.place place

theorem place_setOutput {output : OutputId} {record : SwaylockSurface} (present : scene.outputs.cell output = some record)
    (client : Option BgClientId) (place : Option OutputId) :
    (scene.setOutput output fun output => { output with client := client }).place place =
      if place = some output then client else scene.place place := by
  cases place with
  | none => rfl
  | some other =>
      change ((scene.outputs.modify output _).cell other).bind _ = _
      by_cases same : other = output
      · subst same
        rw [if_pos rfl, Heap.cell_modify_self, present]
        rfl
      · rw [if_neg (fun equal => same (Option.some.inj equal)), Heap.cell_modify_other _ _ same]
        rfl

theorem setOutput_lasting (scene : Scene) (output : OutputId) (client : Option BgClientId) :
    Lasting scene (scene.setOutput output fun output => { output with client := client }) := by
  refine ⟨⟨rfl, rfl⟩, rfl, rfl, rfl, rfl, rfl, fun id => ?_⟩
  refine Heap.view_modify _ output _ SwaylockSurface.unserved (fun record _ => ?_) id
  rfl

theorem releaseClient_released (id : BgClientId) (output : Option OutputId) :
    Ensures (releaseClient scene id output) (Released scene id output) := by
  cases output with
  | none =>
      refine .check fun same => .pure ⟨eq_of_beq same, ?_, rfl, rfl, rfl, rfl, fun place => ?_⟩
      · exact ⟨⟨rfl, rfl⟩, rfl, rfl, rfl, rfl, rfl, fun _ => rfl⟩
      · cases place <;> rfl
  | some output =>
      refine .read fun record present => .check fun same => .pure ⟨?_, setOutput_lasting scene output none, rfl, rfl, rfl, rfl, ?_⟩
      · change (scene.outputs.cell output).bind SwaylockSurface.client = some id
        rw [present]
        exact eq_of_beq same
      · exact place_setOutput present none

theorem cleanupClient_cleaned (id : BgClientId) :
    Ensures (cleanupClient scene env id) fun next => ∃ record, Cleaned scene id record next := by
  obtain ⟨records, paused, named, others, running⟩ := setClientPaused_records scene env id false
  unfold cleanupClient
  rw [paused]
  refine .read fun record found => ?_
  change records.cell id = some record at found
  have same := running id
  rw [found, Option.map_some] at same
  obtain ⟨old, present, same⟩ := Option.map_eq_some_iff.mp same.symm
  have output : old.uniqueOutput = record.uniqueOutput := congrArg (fun running => running.uniqueOutput) same
  have timer : old.clientConnectTimer = record.clientConnectTimer :=
    congrArg (fun running => running.clientConnectTimer) same
  refine (releaseClient_released id record.uniqueOutput).bind fun last released => .pure ⟨old, ?_⟩
  rw [← output] at released
  rw [← timer] at released
  -- The scene that the client is released in differs from the first one around the outputs only.
  obtain ⟨start, same, retimed⟩ : ∃ start : Scene, start =
      ({ scene with bgClients := records, clients := scene.clients.erase id } : Scene).removeTimer? old.clientConnectTimer ∧
      start = { scene with
        bgClients := records
        clients := scene.clients.erase id
        eventloop := (scene.removeTimer? old.clientConnectTimer).eventloop } := by
    refine ⟨_, rfl, ?_⟩
    cases old.clientConnectTimer <;> rfl
  rw [← same, retimed] at released
  have freed : Lasting last { last with bgClients := last.bgClients.free id } :=
    .around last last.eventloop _ last.wlClients last.clients last.mainClient
  refine ⟨?_, present, released.placed, released.eventloop, released.clients, released.connections, ?_, fun other => ?_, ?_⟩
  · exact ((Lasting.around scene _ records scene.wlClients _ scene.mainClient).trans released.lasting).trans freed
  · exact (congrArg Heap.next released.records).trans named
  · change (last.bgClients.free id).cell other = _
    rw [released.records, Heap.cell_free]
    split
    · rfl
    · rename_i apart
      exact others other apart
  · exact released.place

theorem connectPlugin_connected (output : Option OutputId) (pid : Int) :
    Ensures (connectPlugin scene output pid) (Connected scene output pid) := by
  refine .check fun up => ?_
  have records (other : BgClientId) (record : SwaylockBgClient) : (scene.bgClients.alloc record).cell other =
      if other = scene.bgClients.next then some record else scene.bgClients.cell other :=
    Heap.cell_alloc scene.bgClients record other
  cases output with
  | none =>
      refine .check fun free => .pure ⟨.around scene _ _ _ _ _, up, Option.isNone_iff_eq_none.mp free, rfl, rfl, rfl, rfl, ?_, ?_⟩
      · exact fun other => records other _
      · intro place
        cases place <;> rfl
  | some output =>
      refine .read fun screen present => .check fun free => .pure ?_
      change scene.outputs.cell output = some screen at present
      have place : scene.place (some output) = none := by
        change (scene.outputs.cell output).bind SwaylockSurface.client = none
        rw [present]
        exact Option.isNone_iff_eq_none.mp free
      refine ⟨?_, up, place, rfl, rfl, rfl, rfl, fun other => ?_, fun place => ?_⟩
      · exact (setOutput_lasting scene output _).trans (.around _ _ _ _ _ _)
      · change ((scene.bgClients.alloc _).modify scene.bgClients.next _).cell other = _
        by_cases new : other = scene.bgClients.next
        · subst new
          rw [Heap.cell_modify_self, Heap.cell_alloc_next, if_pos rfl]
          rfl
        · rw [Heap.cell_modify_other _ _ new, records, if_neg new, if_neg new]
      · refine Eq.trans ?_ (place_setOutput present (some scene.bgClients.next) place)
        exact place_congr rfl rfl place

theorem runPluginCommand_connected (output : Option OutputId) :
    Ensures (runPluginCommand scene env output) fun result =>
      result = (scene, false) ∧ env.spawn output = none ∨
        result.2 = true ∧ ∃ pid, env.spawn output = some pid ∧ Connected scene output pid result.1 := by
  unfold runPluginCommand
  split
  · rename_i failed
    exact .pure (.inl ⟨rfl, failed⟩)
  · rename_i pid spawned
    exact (connectPlugin_connected output pid).bind fun next connected => .pure (.inr ⟨rfl, pid, spawned, connected⟩)

theorem clientResourceCreate_registered (client : WlClientId) :
    Ensures (clientResourceCreate scene client) fun next =>
      next = scene ∨ ∃ id record, Registered scene id record next := by
  unfold clientResourceCreate
  split
  · exact .pure (.inl rfl)
  · rename_i id _
    refine .read fun record present => .pure (.inr ⟨id, record, ?_⟩)
    have retimed : scene.removeTimer? record.clientConnectTimer =
        { scene with eventloop := (scene.removeTimer? record.clientConnectTimer).eventloop } := by
      cases record.clientConnectTimer <;> rfl
    rw [retimed]
    exact ⟨.around scene _ _ _ _ _, present, rfl, rfl, rfl, rfl, fun place => place_congr rfl rfl place⟩

/-- The program gives a client up that made no registry or cannot be started again. -/
def abandons (env : Environment) (record : SwaylockBgClient) : Bool :=
  !record.madeARegistry || (env.spawn record.uniqueOutput).isNone

theorem clientDestroyed_ends (id : BgClientId) :
    Ensures (clientDestroyed scene env id) fun next => ∃ record cleaned, Cleaned scene id record cleaned ∧
      (abandons env record = true ∧ next = { cleaned with startClientlessMode := true } ∨
        abandons env record = false ∧ ∃ pid, Connected cleaned record.uniqueOutput pid next) := by
  refine .read fun record present => (cleanupClient_cleaned id).bind fun cleaned cleaning => ?_
  obtain ⟨_, cleaning⟩ := cleaning
  cases cleaning.present.symm.trans present
  split
  · rename_i made
    refine (runPluginCommand_connected record.uniqueOutput).bind fun result ran => ?_
    rcases ran with ⟨rfl, failed⟩ | ⟨started, pid, spawned, connected⟩
    · exact .pure ⟨record, cleaned, cleaning, .inl ⟨by simp [abandons, failed], rfl⟩⟩
    · obtain ⟨next, success⟩ := result
      cases started
      exact .pure ⟨record, cleaned, cleaning, .inr ⟨by simp [abandons, made, spawned], pid, connected⟩⟩
  · rename_i unmade
    exact .pure ⟨record, cleaned, cleaning, .inl ⟨by simp [abandons, unmade], rfl⟩⟩

end Functions

end SwaylockPlugin
