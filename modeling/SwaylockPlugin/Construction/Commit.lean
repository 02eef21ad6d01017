import SwaylockPlugin.Construction.Apply

namespace SwaylockPlugin

open Library

/-- A commit of a plugin surface ends in one of these ways. -/
inductive CommitOutcome where
  | inert
  | unassigned
  | initialConfigure
  | withoutBuffer
  | rejected (error : CommitError)
  | forwarded
  deriving DecidableEq

def addSerialPair (scene : Scene) (id : SurfaceId) (pair : SerialPair) : Scene :=
  scene.setForward id fun surface => { surface with serialTable := surface.serialTable ++ [pair] }

/-- An output is served by its own client or else by the main client. -/
def clientForSurface (scene : Scene) (output : SwaylockSurface) : Option BgClientId :=
  output.client <|> scene.mainClient

/-- A client's serial is used and advanced. -/
def takeSerial (scene : Scene) (client : Option BgClientId) : Handled (Scene × UInt32) := do
  let id ← demand .invalidPointer client
  let record ← scene.bgClient id
  return (scene.setBgClient id fun record => { record with serial := record.serial + 1 }, record.serial)

/-- The first configure of a plugin surface answers the first, the newest or no upstream configure. -/
def initialPair (output : SwaylockSurface) (pluginSerial : UInt32) : SerialPair :=
  if !output.usedFirstConfigure then
    ⟨pluginSerial, output.firstConfigureSerial, output.width, output.height, false⟩
  else if output.hasNewerSerial then
    ⟨pluginSerial, output.newestSerial, output.width, output.height, false⟩
  else ⟨pluginSerial, 0, output.width, output.height, true⟩

/-- The first commit in the layer role is answered with a configure and is not forwarded. -/
def sendInitialConfigure (scene : Scene) (id : SurfaceId) (outputId : OutputId) : Handled Scene := do
  let output ← scene.output outputId
  let (scene, pluginSerial) ← takeSerial scene (clientForSurface scene output)
  let scene := addSerialPair scene id (initialPair output pluginSerial)
  let scene := scene.setOutput outputId fun output => { output with usedFirstConfigure := true }
  let scene := scene.tell (.plugin (.configure id pluginSerial output.width output.height))
  let scene := scene.setForward id fun surface => { surface with hasBeenConfigured := true }
  let surface ← scene.forward id
  check (surface.pending.attachment == .null)
  return scene

def doesTransformTransposeSize (transform : Int32) : Bool :=
  match transform.toInt with
  | 1 | 3 | 5 | 7 => false
  | _ => false

/-- The size that a commit presents follows from the destination, the source or the buffer. -/
def committedSize (surface : ForwardSurface) : Handled (Except CommitError (UInt32 × UInt32)) :=
  let committed := surface.committed
  if committed.viewportDestWidth != -1 then
    return .ok (committed.viewportDestWidth.toUInt32, committed.viewportDestHeight.toUInt32)
  else if committed.viewportSourceW != wlFixedFromInt (-1) then
    let width := wlFixedToInt committed.viewportSourceW
    let height := wlFixedToInt committed.viewportSourceH
    if wlFixedFromInt width != committed.viewportSourceW ||
        wlFixedFromInt height != committed.viewportSourceH then
      if surface.viewport.isNone then throw .invalidPointer else return .error .sourceNotIntegral
    else return .ok (width.toUInt32, height.toUInt32)
  else if committed.bufferScale == 0 then throw .divisionByZero
  else
    let scale := committed.bufferScale.toUInt32
    if surface.committedBufferWidth % scale != 0 || surface.committedBufferHeight % scale != 0 then
      return .error .notDivisibleByScale
    else
      let width := surface.committedBufferWidth / scale
      let height := surface.committedBufferHeight / scale
      if doesTransformTransposeSize committed.bufferTransform then return .ok (height, width)
      else return .ok (width, height)

/-- The size of a commit must be the size that the plugin acknowledged last. -/
def checkCommit (surface : ForwardSurface) : Handled (Option CommitError) := do
  match ← committedSize surface with
  | .error error => return some error
  | .ok (width, height) =>
      if width != surface.lastAckedWidth || height != surface.lastAckedHeight then
        return some .sizeMismatch
      else return none

/-- The delayed acknowledgement goes out right before the commit that it belongs to. -/
def ackPendingConfigure (scene : Scene) (outputId : OutputId) : Handled Scene := do
  let output ← scene.output outputId
  if output.hasPendingAckConf then
    return (scene.tell (.ackConfigure outputId output.pendingUpstreamSerial)).setOutput outputId
      fun output => { output with
        hasPendingAckConf := false
        hasNewerSerial := if output.pendingUpstreamSerial == output.newestSerial then false
          else output.hasNewerSerial }
  else return scene

/-- A plugin that drew in time disarms the redraw timer of its output. -/
def disarmSubmissionTimer (scene : Scene) (outputId : OutputId) : Handled Scene := do
  let output ← scene.output outputId
  return (scene.removeTimer? output.clientSubmissionTimer).setOutput outputId fun output =>
    { output with clientSubmissionTimer := none }

/-- An accepted commit marks the buffer, acknowledges, disarms the timer and commits upstream. -/
def acceptCommit (scene : Scene) (id : SurfaceId) (outputId : OutputId) : Handled Scene := do
  let surface ← scene.forward id
  let scene := if surface.committed.attachment != .null then
      scene.setOutput outputId fun output => { output with hasBuffer := true }
    else scene
  let scene ← ackPendingConfigure scene outputId
  let scene ← disarmSubmissionTimer scene outputId
  return scene.request (.lock outputId) .commit

/-- A commit of a configured layer surface applies the pending state and then checks the size. -/
def commitLayerSurface (scene : Scene) (id : SurfaceId) (outputId : OutputId) :
    Handled (Scene × CommitOutcome) := do
  let output ← scene.output outputId
  let scene ← applyPendingSurfaceUpdates scene id (.lock outputId) output.surface
  let surface ← scene.forward id
  match ← checkCommit surface with
  | some error => return (scene.postError surface.client (.commit error), .rejected error)
  | none =>
      let scene ← acceptCommit scene id outputId
      return (scene, .forwarded)

/-- A commit of a surface with a subsurface parent is forwarded to its own upstream surface. -/
def commitSubsurface (scene : Scene) (id : SurfaceId) (surface : ForwardSurface) : Handled Scene :=
  if surface.subsurfaceParent.isSome then do
    let scene ← applyPendingSurfaceUpdates scene id (.ext id) surface.extSurface
    return scene.request (.ext id) .commit
  else return scene

/-- A commit of a surface in the layer role is configured, ignored, rejected or forwarded. -/
def commitInRole (scene : Scene) (id : SurfaceId) (surface : ForwardSurface) (outputId : OutputId) :
    Handled (Scene × CommitOutcome) :=
  if !surface.hasBeenConfigured then do
    let scene ← sendInitialConfigure scene id outputId
    return (scene, .initialConfigure)
  else if surface.pending.attachment == .null then
    if surface.committed.attachment == .null then return (scene, .withoutBuffer)
    else return (scene.postError surface.client (.commit .unmapped), .rejected .unmapped)
  else commitLayerSurface scene id outputId

def nestedSurfaceCommit (scene : Scene) (id : SurfaceId) : Handled (Scene × CommitOutcome) := do
  let surface ← scene.forward id
  if surface.inert then return (scene, .inert)
  else do
    let scene ← commitSubsurface scene id surface
    let surface ← scene.forward id
    match surface.swaySurface with
    | none => return (scene, .unassigned)
    | some outputId => commitInRole scene id surface outputId

end SwaylockPlugin
