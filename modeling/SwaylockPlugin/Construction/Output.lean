import SwaylockPlugin.Construction.Client

namespace SwaylockPlugin

open Library

/-- This is the time in milliseconds within which a plugin must draw. -/
def timeoutSurface : Int := 4000

/-- This is the `render` operation of a live output, without the content of the indicator. -/
def render (scene : Scene) (id : OutputId) : Scene :=
  match scene.outputs.cell id with
  | none => scene
  | some output =>
      if output.width * output.scale.toUInt32 == 0 || output.height * output.scale.toUInt32 == 0 ||
          !output.hasBuffer || !output.dirty || output.frame then scene
      else
        (scene.setOutput id fun output => { output with dirty := false, frame := true }).requestAll
          (.lock id) [.frame, .commit]

/-- An output becomes dirty and is rendered. -/
def renderDirty (scene : Scene) (id : OutputId) : Scene :=
  render (scene.setOutput id fun output => { output with dirty := true }) id

def damageState (scene : Scene) : Scene := scene.surfaces.foldl renderDirty scene

/-- This is the largest signed 32-bit number. -/
def int32Max : Int32 := 2147483647

/-- This is the `render_fallback_surface` operation of a live output. -/
def renderFallbackSurface (scene : Scene) (env : Environment) (id : OutputId) : Scene :=
  match scene.outputs.cell id with
  | none => scene
  | some output =>
      if env.createBuffer id then
        (scene.requestAll (.lock id) [.setBufferScale 1,
          .attach .fallback output.width output.height 0 0,
          .damageBuffer ⟨0, 0, int32Max, int32Max⟩, .commit]).setOutput id fun output =>
            { output with hasBuffer := true }
      else scene

/-- The newest configure of a live output is acknowledged where no plugin did so. -/
def ackNewest (scene : Scene) (id : OutputId) : Scene :=
  match scene.outputs.cell id with
  | none => scene
  | some output =>
      if output.hasNewerSerial then
        (scene.tell (.ackConfigure id output.newestSerial)).setOutput id fun output =>
          { output with hasNewerSerial := false }
      else scene

/-- An output without a buffer falls back to a plain one, and every configured output is rendered. -/
def fallBackSurface (scene : Scene) (env : Environment) (id : OutputId) : Scene :=
  match scene.outputs.cell id with
  | none => scene
  | some output =>
      if output.width == 0 || output.height == 0 then scene
      else if output.hasBuffer then renderDirty scene id
      else renderDirty (renderFallbackSurface (ackNewest scene id) env id) id

/-- The redraw timer of a live output is cancelled. -/
def cancelSubmissionTimer (scene : Scene) (id : OutputId) : Scene :=
  match scene.outputs.cell id with
  | none => scene
  | some output => (scene.removeTimer? output.clientSubmissionTimer).setOutput id fun output =>
      { output with clientSubmissionTimer := none }

/-- The nested display is destroyed and its descriptor leaves the loop. -/
def destroyDisplay (scene : Scene) : Scene :=
  { scene with
    eventloop := scene.eventloop.removeFd scene.descriptors.nested
    display := false }

def setupClientlessMode (scene : Scene) (env : Environment) : Scene :=
  if scene.display then
    let scene := resumeAllClients scene env
    let scene := scene.surfaces.foldl cancelSubmissionTimer scene
    let scene := destroyDisplay scene
    scene.surfaces.foldl (fun scene id => fallBackSurface scene env id) scene
  else scene

/-- A client that timed out is destroyed only while the nested display exists. -/
def destroyTimedOut (scene : Scene) (env : Environment) (client : WlClientId) : Handled Scene :=
  if scene.display then wlClientDestroy scene client env.owned else return scene

def clientTimeout (scene : Scene) (env : Environment) (id : BgClientId) : Handled Scene := do
  let record ← scene.bgClient id
  let scene ← destroyTimedOut scene env record.client
  let scene ← cleanupClient scene env id
  return setupClientlessMode scene env

def clientConnectionTimeout (scene : Scene) (env : Environment) (id : BgClientId) : Handled Scene := do
  let _ ← scene.bgClient id
  clientTimeout (scene.setBgClient id fun record => { record with clientConnectTimer := none }) env id

def outputRedrawTimeout (scene : Scene) (env : Environment) (id : OutputId) : Handled Scene := do
  let output ← scene.output id
  let scene := scene.setOutput id fun output => { output with clientSubmissionTimer := none }
  match clientForSurface scene output with
  | none => return scene
  | some client => clientTimeout scene env client

/-- A plugin surface that has been configured is sent the new size of its output. -/
def reconfigurePlugin (scene : Scene) (outputId : OutputId) (serial : UInt32) :
    Option SurfaceId → Handled Scene
  | none => return scene
  | some id => do
      let output ← scene.output outputId
      let surface ← scene.forward id
      if surface.hasBeenConfigured then do
        let (scene, pluginSerial) ← takeSerial scene (clientForSurface scene output)
        let scene := addSerialPair scene id ⟨pluginSerial, serial, output.width, output.height, false⟩
        return scene.tell (.plugin (.configure id pluginSerial output.width output.height))
      else return scene

def forwardConfigure (scene : Scene) (id : OutputId) (firstConfigure : Bool) (serial : UInt32) :
    Handled Scene := do
  let output ← scene.output id
  if firstConfigure && decide (0 < output.width) && decide (0 < output.height) then
    return scene.setOutput id fun output => { output with
      nestedServerOutput := true
      firstConfigureSerial := serial
      usedFirstConfigure := false }
  else if decide (0 < output.width) && decide (0 < output.height) then
    reconfigurePlugin scene id serial output.pluginSurface
  else return scene

/-- With the nested server up a configure is forwarded, and otherwise it is answered at once. -/
def answerConfigure (scene : Scene) (env : Environment) (id : OutputId) (firstConfigure : Bool)
    (serial : UInt32) : Handled Scene :=
  if scene.display then do
    let scene ← forwardConfigure scene id firstConfigure serial
    return scene.setOutput id fun output => { output with hasNewerSerial := true }
  else
    let scene := (scene.tell (.ackConfigure id serial)).setOutput id fun output =>
      { output with hasNewerSerial := false }
    return renderFallbackSurface scene env id

/-- A size change of a configured output arms the redraw timer where none is armed. -/
def armRedraw (scene : Scene) (id : OutputId) : Handled Scene := do
  let output ← scene.output id
  if output.clientSubmissionTimer.isSome then return scene
  else
    let armed := scene.addTimer timeoutSurface (.outputRedrawTimeout id)
    return armed.1.setOutput id fun output => { output with clientSubmissionTimer := some armed.2 }

/-- A configure event is recorded in the output. -/
def recordConfigure (scene : Scene) (id : OutputId) (serial width height : UInt32) : Scene :=
  (scene.tell (.configured id serial width height)).setOutput id fun output => { output with
    width := width
    height := height
    newestSerial := serial }

def extSessionLockSurfaceV1HandleConfigure (scene : Scene) (env : Environment) (id : OutputId)
    (serial width height : UInt32) : Handled Scene := do
  let output ← scene.output id
  let firstConfigure := output.width == 0 || output.height == 0
  let sizeChange := output.width != width || output.height != height
  let scene := recordConfigure scene id serial width height
  let scene ← answerConfigure scene env id firstConfigure serial
  let scene := renderDirty scene id
  if sizeChange && !firstConfigure then armRedraw scene id else return scene

/-- The lock surface of an output gets its extension objects and its redraw timer. -/
def createLockSurface (scene : Scene) (id : OutputId) : Scene :=
  let armed := scene.addTimer timeoutSurface (.outputRedrawTimeout id)
  armed.1.setOutput id fun output => { output with
    surface := ⟨true, scene.globals.viewporter, scene.globals.colorRepresentation,
      scene.globals.colorManagement⟩
    extSessionLockSurface := true
    fractionalScale := scene.globals.fractionalScale
    clientSubmissionTimer := some armed.2 }

/-- A per-output plugin that cannot be started ends the nested server. -/
def startOutputPlugin (scene : Scene) (env : Environment) (id : OutputId) : Handled Scene :=
  if scene.args.pluginPerOutput then do
    let (scene, started) ← runPluginCommand scene env (some id)
    if started then return scene else return setupClientlessMode scene env
  else return scene

def createSurface (scene : Scene) (env : Environment) (id : OutputId) : Handled Scene := do
  let _ ← scene.output id
  let scene ← startOutputPlugin (createLockSurface scene id) env id
  return scene.setOutput id fun output => { output with created := true }

def initSurfaceIfReady (scene : Scene) (env : Environment) (runDisplay : Bool) (id : OutputId) :
    Handled Scene := do
  let output ← scene.output id
  if output.created || !runDisplay || !output.hasOutputDone ||
      (output.colorOutput && !output.outputDescCurrent) then return scene
  else createSurface scene env id

def handleWlOutputGeometry (scene : Scene) (runDisplay : Bool) (id : OutputId) : Handled Scene := do
  let _ ← scene.output id
  if runDisplay then return renderDirty scene id else return scene

def handleWlOutputScale (scene : Scene) (runDisplay : Bool) (id : OutputId) (factor : Int32) :
    Handled Scene := do
  let _ ← scene.output id
  let scene := scene.setOutput id fun output => { output with scale := factor }
  if runDisplay then return renderDirty scene id else return scene

def handleWlOutputDone (scene : Scene) (env : Environment) (runDisplay : Bool) (id : OutputId) :
    Handled Scene := do
  let _ ← scene.output id
  initSurfaceIfReady (scene.setOutput id fun output => { output with hasOutputDone := true })
    env runDisplay id

/-- An output whose color description is complete may be created. -/
def handleOutputDescReady (scene : Scene) (env : Environment) (runDisplay : Bool) (id : OutputId) :
    Handled Scene := do
  let _ ← scene.output id
  initSurfaceIfReady (scene.setOutput id fun output => { output with outputDescCurrent := true })
    env runDisplay id

/-- A plugin surface with a fractional scale object hears of the new scale of its output. -/
def forwardScale (scene : Scene) (scale : UInt32) : Option SurfaceId → Handled Scene
  | none => return scene
  | some id => do
      let surface ← scene.forward id
      if surface.fractionalScale.isSome then
        return scene.tell (.plugin (.preferredScale id scale))
      else return scene

def fractScalePreferredScale (scene : Scene) (id : OutputId) (scale : UInt32) : Handled Scene := do
  let output ← scene.output id
  check (decide (0 < scale))
  if output.lastFractionalScale == scale then return scene
  else
    let scene := scene.setOutput id fun output => { output with lastFractionalScale := scale }
    forwardScale scene scale output.pluginSurface

def surfaceFrameHandleDone (scene : Scene) (id : OutputId) : Handled Scene := do
  let _ ← scene.output id
  return render (scene.setOutput id fun output => { output with frame := false }) id

/-- The output behind a completed frame callback is presented and its client resumes. -/
def markPresented (scene : Scene) (env : Environment) : Option OutputId → Handled Scene
  | none => return scene
  | some id => do
      let _ ← scene.output id
      let scene := scene.setOutput id fun output =>
        { output with framePending := false, frameLastDone := scene.clock }
      let output ← scene.output id
      return resumeClientForSurface scene env output

/-- A plugin's frame callback is completed and destroyed. -/
def completeCallback (scene : Scene) (id : ResourceId) : Scene :=
  (scene.tell (.plugin (.callbackDone id))).destroyResource id

def bgFrameHandleDone (scene : Scene) (env : Environment) (id : CallbackId) : Handled Scene := do
  let callbacks ← demand .invalidPointer (scene.frameCallbacks.cell id)
  let scene ← markPresented scene env callbacks.swaySurface
  let scene := callbacks.list.foldl completeCallback scene
  return { scene with frameCallbacks := scene.frameCallbacks.free id }

/-- This is the part of `handle_global` that adds an output. -/
def handleGlobalOutput (scene : Scene) (name : UInt32) : Scene :=
  { scene with
    surfaces := scene.outputs.next :: scene.surfaces
    outputs := scene.outputs.alloc (.allocated name scene.globals.colorManagement) }

/-- The plugin surface of an output that goes away is closed and becomes inert. -/
def closePluginSurface (scene : Scene) : Option SurfaceId → Handled Scene
  | none => return scene
  | some id => do
      let _ ← scene.forward id
      return (scene.tell (.plugin (.closed id))).setForward id fun surface =>
        { surface with swaySurface := none, inert := true }

/-- The client of an output that goes away is destroyed without being restarted. -/
def destroyOutputClient (scene : Scene) (env : Environment) : Option BgClientId → Handled Scene
  | none => return scene
  | some id => do
      let record ← scene.bgClient id
      let scene ← wlClientDestroy scene record.client env.owned
      cleanupClient scene env id

def destroySurface (scene : Scene) (env : Environment) (id : OutputId) : Handled Scene := do
  let output ← scene.output id
  let scene := { scene with surfaces := scene.surfaces.erase id }
  let scene ← closePluginSurface scene output.pluginSurface
  let scene ← destroyOutputClient scene env output.client
  require .destroyedDisplay (!output.nestedServerOutput || scene.display)
  let scene := scene.removeTimer? output.clientSubmissionTimer
  return { scene with outputs := scene.outputs.free id }

def handleGlobalRemove (scene : Scene) (env : Environment) (name : UInt32) : Handled Scene :=
  match scene.surfaces.find? fun id =>
      (scene.outputs.cell id).any fun output => output.outputGlobalName == name with
  | none => return scene
  | some id => destroySurface scene env id

end SwaylockPlugin
