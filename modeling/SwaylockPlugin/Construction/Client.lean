import SwaylockPlugin.Construction.Extension

namespace SwaylockPlugin

open Library

/-- An object that a connection owns is one of these. -/
inductive Owned where
  | surface (id : SurfaceId)
  | buffer (id : BufferId)
  | imageDesc (id : DescId)
  | resource (id : ResourceId)
  deriving DecidableEq

/-- The environment decides what system calls and libwayland return during one event. -/
structure Environment where
  spawn : Option OutputId → Option Int
  kill : Int → Bool
  createBuffer : OutputId → Bool
  owned : List Owned

/-- In the obliging environment every system call succeeds and no connection owns anything. -/
def Environment.obliging : Environment := ⟨fun _ => some 2, fun _ => true, fun _ => true, []⟩

/-- The destroy handler of a resource depends on its role. -/
def runDestroyHandler (scene : Scene) (id : ResourceId) : Role → Handled Scene
  | .viewport user => viewportHandleResourceDestroy scene user
  | .fractionalScale user => fractionalScaleHandleResourceDestroy scene user
  | .colorSurface user => colorSurfaceHandleResourceDestroy scene id user
  | .colorRepresentation user => colorRepHandleResourceDestroy scene id user
  | .subsurface user => subsurfaceHandleResourceDestroy scene user
  | .layerSurface _ => return scene
  | .output _ => return scene
  | .frameCallback => return frameCallbackHandleResourceDestroy scene id

/-- A resource is destroyed after its destroy handler ran. -/
def destroyResourceObject (scene : Scene) (id : ResourceId) : Handled Scene := do
  let resource ← scene.resource id
  let scene ← runDestroyHandler scene id resource.role
  return scene.destroyResource id

/-- An object of a connection is destroyed. -/
def destroyOwned (scene : Scene) : Owned → Handled Scene
  | .surface id => surfaceHandleResourceDestroy scene id
  | .buffer id => bufferHandleResourceDestroy scene id
  | .imageDesc id => imageDescHandleResourceDestroy scene id
  | .resource id => destroyResourceObject scene id

/-- The addresses below a bound whose record meets a test are listed in order. -/
def addresses {Record : Type} (heap : Heap Record) (test : Record → Bool) : List Nat :=
  (List.range heap.next).filter fun id => (heap.cell id).any test

/-- A connection owns its surfaces, its buffers, its image descriptions and its resources. -/
def ownedBy (scene : Scene) (client : WlClientId) : List Owned :=
  (addresses scene.forwardSurfaces fun surface => surface.client == client).map .surface ++
  (addresses scene.forwardBuffers fun buffer => buffer.client == client && buffer.resource).map .buffer ++
  (addresses scene.imageDescs fun desc => desc.client == client && desc.resource).map .imageDesc ++
  (addresses scene.resources fun resource => resource.client == client).map .resource

/-- This is the `wl_client_destroy` operation after its listeners ran, which needs a live display. -/
def wlClientDestroy (scene : Scene) (client : WlClientId) (owned : List Owned) : Handled Scene :=
  if scene.display then do
    let scene ← owned.foldlM destroyOwned scene
    return { scene with wlClients := scene.wlClients.free client }
  else throw .destroyedDisplay

def setClientPaused (scene : Scene) (env : Environment) (id : BgClientId) (paused : Bool) : Scene :=
  match scene.bgClients.cell id with
  | none => scene
  | some record =>
      if record.pid ≤ 0 || record.paused == paused || !env.kill record.pid then scene
      else scene.setBgClient id fun record => { record with paused := paused }

def resumeAllClients (scene : Scene) (env : Environment) : Scene :=
  scene.clients.foldl (fun scene id => setClientPaused scene env id false) scene

def resumeClientForSurface (scene : Scene) (env : Environment) (output : SwaylockSurface) : Scene :=
  match clientForSurface scene output with
  | none => scene
  | some id => setClientPaused scene env id false

/-- An output is visible, stalled or idle for the hidden check. -/
inductive Presentation where
  | visible
  | stalled
  | idle
  deriving DecidableEq

/-- The stall record of an output decides how it is presented. -/
def presentation (scene : Scene) (output : SwaylockSurface) : Presentation :=
  if output.framePending then
    if scene.clock.msSince output.framePendingSince ≥ scene.args.hiddenTimeoutMs then .stalled
    else .visible
  else if output.frameLastDone.tvSec != 0 &&
      decide (scene.clock.msSince output.frameLastDone < scene.args.hiddenTimeoutMs) then .visible
  else .idle

def clientIsHidden (scene : Scene) (id : BgClientId) : Bool :=
  let served := (scene.surfaces.filterMap scene.outputs.cell).filter fun output =>
    clientForSurface scene output == some id
  served.all (fun output => presentation scene output != .visible) &&
    served.any fun output => presentation scene output == .stalled

/-- This is the interval between two hidden checks in milliseconds. -/
def hiddenCheckInterval : Int := 1000

def armHiddenCheck (scene : Scene) : Scene :=
  if scene.args.pauseWhenHidden then
    let armed := scene.addTimer hiddenCheckInterval .hiddenCheckTimeout
    { armed.1 with hiddenCheckTimer := some armed.2 }
  else scene

def hiddenCheckTimeout (scene : Scene) (env : Environment) : Scene :=
  let scene := { scene with hiddenCheckTimer := none }
  armHiddenCheck (scene.clients.foldl
    (fun scene id => setClientPaused scene env id (clientIsHidden scene id)) scene)

/-- A client record leaves its output, or the place of the main client. -/
def releaseClient (scene : Scene) (id : BgClientId) : Option OutputId → Handled Scene
  | some outputId => do
      let output ← scene.output outputId
      check (output.client == some id)
      return scene.setOutput outputId fun output => { output with client := none }
  | none => do
      check (scene.mainClient == some id)
      return { scene with mainClient := none }

def cleanupClient (scene : Scene) (env : Environment) (id : BgClientId) : Handled Scene := do
  let scene := setClientPaused scene env id false
  let record ← scene.bgClient id
  let scene := { scene with clients := scene.clients.erase id }
  let scene := scene.removeTimer? record.clientConnectTimer
  let scene ← releaseClient scene id record.uniqueOutput
  return { scene with bgClients := scene.bgClients.free id }

/-- This is the time in milliseconds within which a plugin must connect. -/
def timeoutConnect : Int := 2500

/-- A client record takes its output, or the place of the main client. -/
def assignClient (scene : Scene) (id : BgClientId) : Option OutputId → Handled Scene
  | some outputId => do
      let output ← scene.output outputId
      check output.client.isNone
      return (scene.setOutput outputId fun output => { output with client := some id }).setBgClient id
        fun record => { record with uniqueOutput := some outputId }
  | none => do
      check scene.mainClient.isNone
      return { scene with mainClient := some id }

/-- A started plugin gets a connection, a record and a connection timer. -/
def connectPlugin (scene : Scene) (output : Option OutputId) (pid : Int) : Handled Scene := do
  let id := scene.bgClients.next
  require .destroyedDisplay scene.display
  let armed := scene.addTimer timeoutConnect (.clientConnectionTimeout id)
  let scene := { armed.1 with
    clients := id :: scene.clients
    wlClients := scene.wlClients.alloc ⟨false⟩
    bgClients := scene.bgClients.alloc ⟨100000, scene.wlClients.next, none, pid, false, false, some armed.2⟩ }
  assignClient scene id output

def runPluginCommand (scene : Scene) (env : Environment) (output : Option OutputId) :
    Handled (Scene × Bool) :=
  match env.spawn output with
  | none => return (scene, false)
  | some pid => do
      let scene ← connectPlugin scene output pid
      return (scene, true)

def clientDestroyed (scene : Scene) (env : Environment) (id : BgClientId) : Handled Scene := do
  let record ← scene.bgClient id
  let scene ← cleanupClient scene env id
  if record.madeARegistry then do
    let (scene, started) ← runPluginCommand scene env record.uniqueOutput
    if started then return scene else return { scene with startClientlessMode := true }
  else return { scene with startClientlessMode := true }

/-- The record of a connection is found in the list of clients. -/
def recordOf (scene : Scene) (client : WlClientId) : Option BgClientId :=
  scene.clients.find? fun id => (scene.bgClients.cell id).any fun record => record.client == client

/-- The listener of a connection runs where its record is still in the list. -/
def notifyDestroyed (scene : Scene) (env : Environment) : Option BgClientId → Handled Scene
  | none => return scene
  | some id => clientDestroyed scene env id

/-- A connection that ends by itself runs its listener and then loses its objects. -/
def clientGone (scene : Scene) (env : Environment) (client : WlClientId) : Handled Scene := do
  let scene ← notifyDestroyed scene env (recordOf scene client)
  wlClientDestroy scene client env.owned

def clientResourceCreate (scene : Scene) (client : WlClientId) : Handled Scene :=
  match recordOf scene client with
  | none => return scene
  | some id => do
      let record ← scene.bgClient id
      return (scene.removeTimer? record.clientConnectTimer).setBgClient id fun record =>
        { record with madeARegistry := true, clientConnectTimer := none }

end SwaylockPlugin
