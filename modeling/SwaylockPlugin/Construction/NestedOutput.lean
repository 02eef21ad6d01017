import SwaylockPlugin.Library.Machine
import SwaylockPlugin.Library.Heap
import SwaylockPlugin.Library.Ring
import SwaylockPlugin.Construction.Scene

namespace SwaylockPlugin.Nested

open Library

/-- A nested resource for an output is of one of these families, and each family has lists of its own. -/
inductive Family where
  | wlOutput
  | xdgOutput
  | colorOutput
  deriving DecidableEq

/-- A `wl_list` structure is a head in an output, a stale head in the state or the link of a resource. -/
inductive Link where
  | output (id : OutputId) (family : Family)
  | stale (family : Family)
  | resource (id : ResourceId)
  deriving DecidableEq

/-- This is the part of the `swaylock_surface` structure that the nested resources of an output rely on. -/
structure NestedSurface where
  outputGlobalName : UInt32
  nestedServerOutput : Bool
  client : Option WlClientId

/-- A nested resource belongs to a client and has an output as its user data. -/
structure NestedResource where
  client : WlClientId
  family : Family
  output : OutputId

/-- The nested outputs consist of the output records with their list, the globals, the clients with their unique
outputs, the resources and the links of the lists. -/
structure NestedScene where
  outputs : Heap NestedSurface
  surfaces : List OutputId
  globals : List OutputId
  clients : Heap (Option OutputId)
  resources : Heap NestedResource
  links : Links Link

/-- A handler fails where it uses the record of a removed output, a resource that is gone or a broken list. -/
inductive NestedFault where
  | removedOutput
  | invalidResource
  | link (fault : LinkFault)
  deriving DecidableEq

/-- A handler returns the nested outputs after it or fails. -/
abbrev Handling := Except NestedFault

namespace NestedScene

def output (scene : NestedScene) (id : OutputId) : Handling NestedSurface :=
  demand .removedOutput (scene.outputs.cell id)

def resource (scene : NestedScene) (id : ResourceId) : Handling NestedResource :=
  demand .invalidResource (scene.resources.cell id)

def setOutput (scene : NestedScene) (id : OutputId) (change : NestedSurface → NestedSurface) : NestedScene :=
  { scene with outputs := scene.outputs.modify id change }

/-- The lists change where the operation on them does not fail. -/
def withLinks (scene : NestedScene) : Except LinkFault (Links Link) → Handling NestedScene
  | .ok links => return { scene with links := links }
  | .error fault => throw (.link fault)

end NestedScene

/-- The state of the main function is cleared memory that holds the stale heads. -/
def clearedLinks : Links Link where
  live
    | .stale _ => true
    | _ => false
  next _ := none
  prev _ := none

/-- This is the initialisation of the stale lists in the `main` function. -/
def mainLinks : Links Link :=
  let links := clearedLinks.init (.stale .wlOutput)
  links.init (.stale .xdgOutput)

/-- At the start there is no output and no client. -/
def startScene : NestedScene := ⟨.empty, [], [], .empty, .empty, mainLinks⟩

/-- A head in a new record is cleared memory that is initialised. -/
def newHead (links : Links Link) (id : OutputId) (family : Family) : Links Link :=
  (links.map (.output id family)).init (.output id family)

/-- This is the part of `handle_global` that adds an output with its lists. -/
def handleGlobalOutput (scene : NestedScene) (name : UInt32) : NestedScene :=
  let id := scene.outputs.next
  let links := newHead scene.links id .wlOutput
  let links := newHead links id .xdgOutput
  let links := newHead links id .colorOutput
  { scene with
    outputs := scene.outputs.alloc ⟨name, false, none⟩
    surfaces := id :: scene.surfaces
    links := links }

/-- This is the part of `forward_configure` that offers the output to the plugins when it is configured first. -/
def forwardConfigure (scene : NestedScene) (id : OutputId) : NestedScene :=
  { scene.setOutput id fun output => { output with nestedServerOutput := true } with globals := id :: scene.globals }

/-- This is the part of `run_plugin_command` that connects a client for one output or for all outputs. -/
def runPluginCommand (scene : NestedScene) (output : Option OutputId) : NestedScene :=
  let client := scene.clients.next
  let scene := { scene with clients := scene.clients.alloc output }
  match output with
  | none => scene
  | some id => scene.setOutput id fun output => { output with client := some client }

/-- A new resource has a cleared link. -/
def wlResourceCreate (scene : NestedScene) (client : WlClientId) (family : Family) (output : OutputId) : NestedScene :=
  { scene with
    resources := scene.resources.alloc ⟨client, family, output⟩
    links := scene.links.map (.resource scene.resources.next) }

/-- A new resource is put in front of the list of its family in its output, unless there is no memory for it. -/
def addResource (scene : NestedScene) (client : WlClientId) (family : Family) (output : OutputId) (created : Bool) :
    Handling NestedScene :=
  if !created then return scene
  else
    let added := wlResourceCreate scene client family output
    added.withLinks (added.links.insert (.output output family) (.resource scene.resources.next))

/-- This is the part of `bind_wl_output` that uses the output behind the global. -/
def bindWlOutput (scene : NestedScene) (client : WlClientId) (output : OutputId) (created : Bool) : Handling NestedScene :=
  addResource scene client .wlOutput output created

/-- This is the part of `xdg_output_manager_get_xdg_output` that uses the output behind its argument. -/
def xdgOutputManagerGetXdgOutput (scene : NestedScene) (client : WlClientId) (output : ResourceId) (created : Bool) :
    Handling NestedScene := do
  let record ← scene.resource output
  addResource scene client .xdgOutput record.output created

def nestedColorGetOutput (scene : NestedScene) (client : WlClientId) (output : ResourceId) (created : Bool) :
    Handling NestedScene := do
  let record ← scene.resource output
  addResource scene client .colorOutput record.output created

/-- This is the part of `nested_color_output_get_image_description` that uses the output of the resource. -/
def nestedColorOutputGetImageDescription (scene : NestedScene) (resource : ResourceId) : Handling NestedScene := do
  let record ← scene.resource resource
  let _ ← scene.output record.output
  return scene

/-- A resource that is destroyed leaves its list. -/
def unlinkResource (scene : NestedScene) (resource : ResourceId) : Handling NestedScene :=
  scene.withLinks (scene.links.remove (.resource resource))

def wlOutputHandleDestroy (scene : NestedScene) (resource : ResourceId) : Handling NestedScene :=
  unlinkResource scene resource

def xdgOutputDestroyFunc (scene : NestedScene) (resource : ResourceId) : Handling NestedScene :=
  unlinkResource scene resource

def colorOutputHandleResourceDestroy (scene : NestedScene) (resource : ResourceId) : Handling NestedScene :=
  unlinkResource scene resource

/-- The destroy function of a resource follows from its family. -/
def destroyFunction : Family → NestedScene → ResourceId → Handling NestedScene
  | .wlOutput => wlOutputHandleDestroy
  | .xdgOutput => xdgOutputDestroyFunc
  | .colorOutput => colorOutputHandleResourceDestroy

/-- A resource that is destroyed runs its destroy function before it is released. -/
def wlResourceDestroy (scene : NestedScene) (resource : ResourceId) : Handling NestedScene := do
  let record ← scene.resource resource
  let scene ← destroyFunction record.family scene resource
  return { scene with
    resources := scene.resources.free resource
    links := scene.links.unmap (.resource resource) }

/-- A client that is destroyed has its resources destroyed in some order. -/
def wlClientDestroy (scene : NestedScene) (client : WlClientId) (order : List ResourceId) : Handling NestedScene := do
  let scene ← order.foldlM wlResourceDestroy scene
  return { scene with clients := scene.clients.free client }

/-- This is the part of `cleanup_client` that forgets the client in its unique output. -/
def cleanupClient (scene : NestedScene) : Option OutputId → Handling NestedScene
  | none => return scene
  | some id => do
      let _ ← scene.output id
      return scene.setOutput id fun output => { output with client := none }

/-- A client that closes its connection is cleaned up and destroyed. -/
def clientDestroyed (scene : NestedScene) (client : WlClientId) (order : List ResourceId) : Handling NestedScene := do
  let scene ← cleanupClient scene (scene.clients.cell client).join
  wlClientDestroy scene client order

/-- The walk of `destroy_surface` over one list of an output moves its resources to the stale list. -/
def moveToStale (steps : Nat) (id : OutputId) (family : Family) (links : Links Link) :
    Except LinkFault (Links Link) := do
  let first ← demand .null (← links.getNext (.output id family))
  Links.forEachSafe (Links.move (.stale family)) (.output id family) steps first links

/-- The lists of an output are emptied one after the other. -/
def unlinkResources (scene : NestedScene) (id : OutputId) : Except LinkFault (Links Link) := do
  let steps := scene.resources.next + 1
  let links ← moveToStale steps id .xdgOutput scene.links
  let links ← moveToStale steps id .wlOutput links
  moveToStale steps id .colorOutput links

/-- The client of an output that goes away is destroyed without being restarted. -/
def destroyOutputClient (scene : NestedScene) (order : List ResourceId) : Option WlClientId → Handling NestedScene
  | none => return scene
  | some client => do
      let unique := (scene.clients.cell client).join
      let scene ← wlClientDestroy scene client order
      cleanupClient scene unique

/-- The record of an output is released together with the heads in it. -/
def freeSurface (scene : NestedScene) (id : OutputId) : NestedScene :=
  let links := scene.links.unmap (.output id .wlOutput)
  let links := links.unmap (.output id .xdgOutput)
  { scene with
    outputs := scene.outputs.free id
    links := links.unmap (.output id .colorOutput) }

/-- This is the part of `destroy_surface` that ends the nested side of an output. -/
def destroySurface (scene : NestedScene) (order : List ResourceId) (id : OutputId) : Handling NestedScene := do
  let output ← scene.output id
  let scene := { scene with surfaces := scene.surfaces.erase id }
  let scene ← destroyOutputClient scene order output.client
  let scene ← if output.nestedServerOutput then scene.withLinks (unlinkResources scene id) else pure scene
  return freeSurface scene id

/-- The output that a removal names is the first one in the list. -/
def removedOutput (scene : NestedScene) (name : UInt32) : Option OutputId :=
  scene.surfaces.find? fun id => (scene.outputs.cell id).any fun output => output.outputGlobalName == name

def handleGlobalRemove (scene : NestedScene) (name : UInt32) (order : List ResourceId) : Handling NestedScene :=
  match removedOutput scene name with
  | none => return scene
  | some id => destroySurface scene order id

/-- The compositor adds, configures or removes an output, or a plugin makes a request. -/
inductive NestedEvent where
  | outputAdded (name : UInt32)
  | configured (output : OutputId)
  | outputRemoved (name : UInt32) (order : List ResourceId)
  | clientStarted (output : Option OutputId)
  | clientGone (client : WlClientId) (order : List ResourceId)
  | bindOutput (client : WlClientId) (output : OutputId) (created : Bool)
  | getXdgOutput (client : WlClientId) (output : ResourceId) (created : Bool)
  | getColorOutput (client : WlClientId) (output : ResourceId) (created : Bool)
  | getImageDescription (client : WlClientId) (resource : ResourceId)
  | destroy (client : WlClientId) (resource : ResourceId)

def handleNested (scene : NestedScene) : NestedEvent → Handling NestedScene
  | .outputAdded name => return handleGlobalOutput scene name
  | .configured output => return forwardConfigure scene output
  | .outputRemoved name order => handleGlobalRemove scene name order
  | .clientStarted output => return runPluginCommand scene output
  | .clientGone client order => clientDestroyed scene client order
  | .bindOutput client output created => bindWlOutput scene client output created
  | .getXdgOutput client output created => xdgOutputManagerGetXdgOutput scene client output created
  | .getColorOutput client output created => nestedColorGetOutput scene client output created
  | .getImageDescription _ resource => nestedColorOutputGetImageDescription scene resource
  | .destroy _ resource => wlResourceDestroy scene resource

/-- These are the resources of a client. -/
def ownedBy (scene : NestedScene) (client : WlClientId) : List ResourceId :=
  (List.range scene.resources.next).filter fun id =>
    (scene.resources.cell id).any fun record => record.client == client

/-- A client has a resource of the given family. -/
def owns (scene : NestedScene) (client : WlClientId) (family : Family) (resource : ResourceId) : Bool :=
  (scene.resources.cell resource).any fun record => record.client == client && record.family == family

/-- The client of an output that is removed has its resources destroyed in an order that lists each of them once. -/
def orderlyRemoval (scene : NestedScene) (name : UInt32) (order : List ResourceId) : Bool :=
  ((removedOutput scene name).bind scene.outputs.cell).all fun output =>
    output.client.all fun client => order.isPerm (ownedBy scene client)

/-- The nested server shows a global to the clients for all outputs and to the client of its output. -/
def globalFilter (scene : NestedScene) (client : WlClientId) (output : OutputId) : Bool :=
  (scene.clients.cell client).any fun unique => unique == none || unique == some output

/-- The compositor, libwayland and the plugins produce an event only under its condition. -/
def nestedEnabled (scene : NestedScene) : NestedEvent → Bool
  | .outputAdded _ => true
  | .configured output => (scene.outputs.cell output).any fun record => !record.nestedServerOutput
  | .outputRemoved name order => orderlyRemoval scene name order
  | .clientStarted output =>
      output.all fun id => (scene.outputs.cell id).any fun record => record.client == none
  | .clientGone client order => scene.clients.live client && order.isPerm (ownedBy scene client)
  | .bindOutput client output _ => scene.globals.elem output && globalFilter scene client output
  | .getXdgOutput client output _ | .getColorOutput client output _ => owns scene client .wlOutput output
  | .getImageDescription client resource => owns scene client .colorOutput resource
  | .destroy client resource => (scene.resources.cell resource).any fun record => record.client == client

def nesting : Program NestedScene NestedEvent NestedFault where
  initial scene := scene = startScene
  enabled scene event := nestedEnabled scene event = true
  decideEnabled _ _ := inferInstance
  next := handleNested

end SwaylockPlugin.Nested
