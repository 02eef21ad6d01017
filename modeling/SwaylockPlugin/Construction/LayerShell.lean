import SwaylockPlugin.Construction.Output

namespace SwaylockPlugin

open Library

/-- This is the part of `bind_wl_output` that reads the output behind the global. -/
def bindWlOutput (scene : Scene) (client : WlClientId) (id : OutputId) : Handled Scene := do
  let _ ← scene.output id
  return (scene.createResource client (.output id)).1

/-- The main client names its output, and a per-output client is looked up in the list. -/
def layerOutput (scene : Scene) (client : WlClientId) (output : Option OutputId) : Option OutputId :=
  let isMain := (scene.mainClient.bind scene.bgClients.cell).any fun record => record.client == client
  if isMain || output.isSome then output
  else
    (scene.clients.filterMap scene.bgClients.cell).foldl
      (fun found record => if record.client == client then record.uniqueOutput else found) none

/-- A surface and an output that have no partner yet become partners. -/
def linkLayerSurface (scene : Scene) (client : WlClientId) (id : SurfaceId) (outputId : OutputId) :
    Handled Scene := do
  let scene := scene.setOutput outputId fun output => { output with pluginSurface := some id }
  let scene := scene.setForward id fun surface => { surface with swaySurface := some outputId }
  let output ← scene.output outputId
  let bgClient ← demand .assertion (clientForSurface scene output)
  let record ← scene.bgClient bgClient
  check (record.client == client)
  let (scene, serial) ← takeSerial scene (clientForSurface scene output)
  let created := scene.createResource client (.layerSurface outputId)
  return created.1.setForward id fun surface =>
    { surface with lastUsedPluginSerial := serial, layerSurface := some created.2 }

def wlrLayerShellGetLayerSurface (scene : Scene) (client : WlClientId) (id : SurfaceId)
    (outputResource : Option OutputId) : Handled Scene :=
  match layerOutput scene client outputResource with
  | none => return scene
  | some outputId => do
      let output ← scene.output outputId
      let surface ← scene.forward id
      if output.pluginSurface.isSome || surface.swaySurface.isSome then
        return scene.postError client .implementation
      else do
        let scene ← linkLayerSurface scene client id outputId
        if surface.fractionalScale.isSome then announceScale scene id (some outputId) else return scene

/-- A used serial is discarded together with the pairs before it. -/
def takePair (serial : UInt32) : List SerialPair → Option (SerialPair × List SerialPair)
  | [] => none
  | pair :: pairs => if pair.pluginSerial = serial then some (pair, pairs) else takePair serial pairs

/-- A serial in the table sets the acknowledged size, and an upstream one waits for the next commit. -/
def usePair (scene : Scene) (outputId : OutputId) (id : SurfaceId) (pair : SerialPair)
    (rest : List SerialPair) : Scene :=
  let scene := scene.setForward id fun surface => { surface with
    lastAckedWidth := pair.configWidth
    lastAckedHeight := pair.configHeight
    serialTable := rest }
  if pair.localOnly then scene
  else scene.setOutput outputId fun output =>
    { output with hasPendingAckConf := true, pendingUpstreamSerial := pair.upstreamSerial }

def zwlrLayerSurfaceAckConfigure (scene : Scene) (client : WlClientId) (outputId : OutputId)
    (serial : UInt32) : Handled Scene := do
  let output ← scene.output outputId
  let id ← demand .invalidPointer output.pluginSurface
  let surface ← scene.forward id
  if serial == surface.lastUsedPluginSerial then return scene
  else
    let scene := scene.setForward id fun surface => { surface with lastUsedPluginSerial := serial }
    match takePair serial surface.serialTable with
    | none => return scene.postError client .implementation
    | some (pair, rest) => return usePair scene outputId id pair rest

end SwaylockPlugin
