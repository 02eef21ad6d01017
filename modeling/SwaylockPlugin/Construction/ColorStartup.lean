import SwaylockPlugin.Construction.Client
import SwaylockPlugin.Construction.ColorManagement

namespace SwaylockPlugin.Color

open Library

/-- The color management starts up together with the outputs, which keep here the fields of a `swaylock_surface` that
decide when they are created, and with the plugin objects that name an output or a surface. -/
structure StartupState where
  scene : ColorScene
  started : Bool
  runDisplay : Bool
  surfaces : List StateId
  hasOutputDone : List StateId
  created : List StateId
  nestedServerOutput : List StateId
  pluginSurface : StateId → Option SurfaceId
  swaySurface : SurfaceId → Option StateId
  colorOutputs : Heap StateId

/-- These are the requests that pass some properties to `create_output_image_desc`. -/
inductive DescriptionRequest where
  | getImageDescription (resource : ResourceId)
  | getPreferred (resource : ResourceId) (parametric : Bool)

/-- The compositor sends an event, the main function goes on, or a plugin makes a request or loses an object. -/
inductive StartupEvent where
  | color (event : ColorEvent)
  | outputRemoved (id : StateId)
  | outputDone (id : StateId)
  | start
  | stop
  | configured (id : StateId)
  | getLayerSurface (surface : SurfaceId) (output : StateId)
  | getColorOutput (output : StateId)
  | destroyColorOutput (resource : ResourceId)
  | request (request : DescriptionRequest)

/-- A pointer to an output is followed while the output is in the list of the program. -/
def StartupState.output (state : StartupState) (id : StateId) : Handled Unit :=
  require .invalidPointer (state.surfaces.elem id)

def initSurfaceIfReady (state : StartupState) (id : StateId) : Handled StartupState := do
  let description ← state.scene.state id
  if state.created.elem id || !state.runDisplay || !state.hasOutputDone.elem id then return state
  else match description.current with
    | none => return state
    | some current => do
        let record ← state.scene.props current
        check record.description.isSome
        return { state with created := id :: state.created }

/-- The end of an exchange may be what an output waits for, and the default surface creates nothing. -/
def concludeExchange (state : StartupState) : Option StateId → Handled StartupState
  | none => return state
  | some id => do
      let description ← state.scene.state id
      if description.surface then initSurfaceIfReady state id else return state

/-- This is the description state that the listener of an event reads. -/
def ColorEvent.listener (scene : ColorScene) : ColorEvent → Option StateId
  | .changed id => some id
  | .failed description _ _ | .ready description _ =>
      (scene.descriptions.cell description).bind UpstreamDescription.listener
  | .information info _ | .done info => (scene.informations.cell info).map Information.listener
  | _ => none

/-- The description state of the default surface stays, and the one of an output is freed with the output. -/
def StartupState.lives (state : StartupState) (id : StateId) : Bool := id == descSurface || state.surfaces.elem id

/-- A surface that is destroyed is forgotten by its output. -/
def clearPluginSurface (state : StartupState) (surface : SurfaceId) : Handled StartupState :=
  match state.swaySurface surface with
  | none => return state
  | some id => do
      state.output id
      return { state with
        pluginSurface := Function.update state.pluginSurface id none
        swaySurface := Function.update state.swaySurface surface none }

/-- The outputs follow an event of the color management. -/
def followColor (state : StartupState) (event : ColorEvent) : Handled StartupState :=
  match event with
  | .outputAdded => return { state with surfaces := state.scene.states.next :: state.surfaces }
  | .destroySurface surface => clearPluginSurface state surface
  | _ => return state

/-- An event of the color management runs its handler, whose data must not have been freed. -/
def handleColorEvent (state : StartupState) (event : ColorEvent) : Handled StartupState := do
  require .invalidPointer ((event.listener state.scene).all state.lives)
  let followed ← followColor state event
  let scene ← handleColor state.scene event
  concludeExchange { followed with scene := scene } (event.ends state.scene)

/-- The plugin surface of an output that goes away loses its output. -/
def closePluginSurface (state : StartupState) : Option SurfaceId → Handled StartupState
  | none => return state
  | some surface => do
      let _ ← state.scene.forward surface
      return { state with swaySurface := Function.update state.swaySurface surface none }

/-- This is the part of `destroy_surface` for the plugin surface and the color outputs, which would be moved to a list
that is never initialized. -/
def destroySurface (state : StartupState) (id : StateId) : Handled StartupState := do
  let state ← closePluginSurface { state with surfaces := state.surfaces.erase id } (state.pluginSurface id)
  let resources := addresses state.colorOutputs fun output => output == id
  require .invalidPointer (!state.nestedServerOutput.elem id || resources.isEmpty)
  return { state with pluginSurface := Function.update state.pluginSurface id none }

/-- This is the part of `main` that creates the outputs and starts the plugin. -/
def startOutputs (state : StartupState) : Handled StartupState := do
  check (state.surfaces.all fun id => !state.created.elem id)
  return { state with
    started := true
    runDisplay := true
    created := state.surfaces ++ state.created }

/-- This is the part of `wlr_layer_shell_get_layer_surface` that relates a surface to an output, where neither of them
may be related yet. -/
def getLayerSurface (state : StartupState) (surface : SurfaceId) (output : StateId) : Handled StartupState := do
  state.output output
  if (state.pluginSurface output).isSome || (state.swaySurface surface).isSome then return state
  else return { state with
    pluginSurface := Function.update state.pluginSurface output (some surface)
    swaySurface := Function.update state.swaySurface surface (some output) }

def nestedColorGetOutput (state : StartupState) (output : StateId) : Handled StartupState := do
  state.output output
  return { state with colorOutputs := state.colorOutputs.alloc output }

/-- The output of a surface is followed through its pointer where there is one. -/
def StartupState.followOutput (state : StartupState) : Option StateId → Handled Unit
  | none => return ()
  | some id => state.output id

/-- The two operations on a surface feedback pass the properties of this description state. -/
def StartupState.preferred (state : StartupState) (surface : SurfaceId) (parametric : Bool) : Handled StateId := do
  state.followOutput (state.swaySurface surface)
  preferredState state.scene parametric (state.swaySurface surface)

/-- A request passes the current properties of this description state. -/
def requestedState (state : StartupState) : DescriptionRequest → Handled StateId
  | .getImageDescription resource => do
      let id ← demand .invalidPointer (state.colorOutputs.cell resource)
      state.output id
      return id
  | .getPreferred resource parametric => do
      let surface ← feedbackSurface state.scene resource
      state.preferred surface parametric

/-- The current properties of a description state are passed on, which the request on an output asserts to be there. -/
def passProperties (scene : ColorScene) (id : StateId) : DescriptionRequest → Handled ColorScene
  | .getImageDescription _ => nestedColorOutputGetImageDescription scene id
  | .getPreferred _ _ => createOutputImageDesc scene id

/-- A request for a description passes on some properties. -/
def handleDescriptionRequest (state : StartupState) (request : DescriptionRequest) : Handled StartupState := do
  let id ← requestedState state request
  let scene ← passProperties state.scene id request
  return { state with scene := scene }

def handleStartup (state : StartupState) : StartupEvent → Handled StartupState
  | .color event => handleColorEvent state event
  | .outputRemoved id => destroySurface state id
  | .outputDone id => initSurfaceIfReady { state with hasOutputDone := id :: state.hasOutputDone } id
  | .start => startOutputs state
  | .stop => return { state with runDisplay := false }
  | .configured id => return { state with nestedServerOutput := id :: state.nestedServerOutput }
  | .getLayerSurface surface output => getLayerSurface state surface output
  | .getColorOutput output => nestedColorGetOutput state output
  | .destroyColorOutput resource => return { state with colorOutputs := state.colorOutputs.free resource }
  | .request request => handleDescriptionRequest state request

/-- The requests for the description of an output or of a surface are events of their own. -/
def ColorEvent.isRequest : ColorEvent → Bool
  | .getImageDescription _ | .getPreferred _ _ _ => true
  | _ => false

/-- A plugin makes requests once the main function started it, for objects that it has and outputs that were shown. -/
def startupEnabled (state : StartupState) : StartupEvent → Bool
  | .color event => !event.isRequest && (event.upstream || state.started) && colorEnabled state.scene event
  | .outputRemoved id | .outputDone id => state.surfaces.elem id
  | .start => !state.started
  | .stop => state.runDisplay
  | .configured id => state.surfaces.elem id && state.created.elem id
  | .getLayerSurface surface output =>
      state.started && state.scene.surfaces.live surface && state.created.elem output
  | .getColorOutput output => state.started && state.nestedServerOutput.elem output
  | .destroyColorOutput resource => state.colorOutputs.live resource
  | .request (.getImageDescription resource) => state.colorOutputs.live resource
  | .request (.getPreferred resource _) => state.scene.colorFeedbacks.live resource

/-- The program starts with the request for the description of the default surface and without any output. -/
def startupStart : StartupState where
  scene := colorStart
  started := false
  runDisplay := false
  surfaces := []
  hasOutputDone := []
  created := []
  nestedServerOutput := []
  pluginSurface := fun _ => none
  swaySurface := fun _ => none
  colorOutputs := .empty

def starting : Program StartupState StartupEvent Halt where
  initial state := state = startupStart
  enabled state event := startupEnabled state event = true
  decideEnabled _ _ := inferInstance
  next := handleStartup

end SwaylockPlugin.Color
