import SwaylockPlugin.Construction.Scene

namespace SwaylockPlugin

open Library

/-- This is the `assert` of the source, which ends the process. -/
def check (condition : Bool) : Handled Unit := require .assertion condition

namespace Scene

/-- An image description changes where its address is live. -/
def changeImageDesc (scene : Scene) (id : DescId) (change : ForwardImageDesc → ForwardImageDesc) :
    Handled Scene := do
  let _ ← scene.imageDesc id
  return scene.setImageDesc id change

/-- A plugin buffer changes where its address is live. -/
def changeBuffer (scene : Scene) (id : BufferId) (change : ForwardBuffer → ForwardBuffer) :
    Handled Scene := do
  let _ ← scene.forwardBuffer id
  return scene.setBuffer id change

/-- A plugin surface changes its pending state. -/
def setPending (scene : Scene) (id : SurfaceId) (change : SurfaceState → SurfaceState) : Scene :=
  scene.setForward id fun surface => { surface with pending := change surface.pending }

/-- A plugin surface changes its committed record. -/
def setCommitted (scene : Scene) (id : SurfaceId) (change : SurfaceState → SurfaceState) : Scene :=
  scene.setForward id fun surface => { surface with committed := change surface.committed }

end Scene

/-- A value that differs from its cached copy is sent upstream, and the copy follows. -/
def forwardChanged (scene : Scene) (id : SurfaceId) (target : Target) (present : Bool)
    (changed : SurfaceState → SurfaceState → Bool)
    (requests : SurfaceState → SurfaceState → List SurfaceRequest)
    (record : SurfaceState → SurfaceState → SurfaceState) : Handled Scene := do
  let surface ← scene.forward id
  if changed surface.committed surface.pending then
    check present
    return (scene.requestAll target (requests surface.committed surface.pending)).setForward id
      fun surface => { surface with committed := record surface.committed surface.pending }
  else return scene

/-- The buffer scale is forwarded when it changed. -/
def applyBufferScale (scene : Scene) (id : SurfaceId) (target : Target) : Handled Scene :=
  forwardChanged scene id target true
    (fun committed pending => committed.bufferScale != pending.bufferScale)
    (fun _ pending => [.setBufferScale pending.bufferScale])
    (fun committed pending => { committed with bufferScale := pending.bufferScale })

/-- The buffer transform is forwarded when it changed. -/
def applyBufferTransform (scene : Scene) (id : SurfaceId) (target : Target) : Handled Scene :=
  forwardChanged scene id target true
    (fun committed pending => committed.bufferTransform != pending.bufferTransform)
    (fun _ pending => [.setBufferTransform pending.bufferTransform])
    (fun committed pending => { committed with bufferTransform := pending.bufferTransform })

/-- The viewport destination is forwarded when it changed. -/
def applyViewportDestination (scene : Scene) (id : SurfaceId) (target : Target)
    (background : AugmentedSurface) : Handled Scene :=
  forwardChanged scene id target background.viewport
    (fun committed pending => committed.viewportDestWidth != pending.viewportDestWidth ||
      committed.viewportDestHeight != pending.viewportDestHeight)
    (fun _ pending => [.setDestination pending.viewportDestWidth pending.viewportDestHeight])
    (fun committed pending => { committed with
      viewportDestWidth := pending.viewportDestWidth
      viewportDestHeight := pending.viewportDestHeight })

/-- A changed viewport source sends the committed rectangle before the copy follows the pending one. -/
def applyViewportSource (scene : Scene) (id : SurfaceId) (target : Target)
    (background : AugmentedSurface) : Handled Scene :=
  forwardChanged scene id target background.viewport
    (fun committed pending => committed.viewportSourceX != pending.viewportSourceX ||
      committed.viewportSourceY != pending.viewportSourceY ||
      committed.viewportSourceW != pending.viewportSourceW ||
      committed.viewportSourceH != pending.viewportSourceH)
    (fun committed _ => [.setSource committed.viewportSourceX committed.viewportSourceY
      committed.viewportSourceW committed.viewportSourceH])
    (fun committed pending => { committed with
      viewportSourceX := pending.viewportSourceX
      viewportSourceY := pending.viewportSourceY
      viewportSourceW := pending.viewportSourceW
      viewportSourceH := pending.viewportSourceH })

/-- A changed color representation is built again from the values that are set. -/
def applyColorRepresentation (scene : Scene) (id : SurfaceId) (target : Target)
    (background : AugmentedSurface) : Handled Scene :=
  forwardChanged scene id target background.colorRepSurface
    (fun committed pending => committed.hasAlphaMode != pending.hasAlphaMode ||
      committed.alphaMode != pending.alphaMode ||
      committed.hasChromaLocation != pending.hasChromaLocation ||
      committed.chromaLocation != pending.chromaLocation ||
      committed.hasCoefRange != pending.hasCoefRange ||
      committed.coefficients != pending.coefficients ||
      committed.range != pending.range)
    (fun _ pending => [.recreateColorRepresentation] ++
      (if pending.hasAlphaMode then [.setAlphaMode pending.alphaMode] else []) ++
      (if pending.hasChromaLocation then [.setChromaLocation pending.chromaLocation] else []) ++
      (if pending.hasCoefRange then [.setCoefficientsAndRange pending.coefficients pending.range] else []))
    (fun committed pending => { committed with
      hasAlphaMode := pending.hasAlphaMode
      alphaMode := pending.alphaMode
      hasChromaLocation := pending.hasChromaLocation
      chromaLocation := pending.chromaLocation
      hasCoefRange := pending.hasCoefRange
      coefficients := pending.coefficients
      range := pending.range })

def deleteImageDescIfUnreferenced (scene : Scene) (id : DescId) : Handled Scene := do
  let desc ← scene.imageDesc id
  if desc.resource || !desc.committedSurfaces.isEmpty || !desc.pendingSurfaces.isEmpty then
    return scene
  else return { scene with imageDescs := scene.imageDescs.free id }

/-- The committed record drops its image description, which may be the last reference to it. -/
def dropCommittedDesc (scene : Scene) (id : SurfaceId) : Option DescId → Handled Scene
  | none => return scene
  | some desc => do
      let scene ← scene.changeImageDesc desc fun record =>
        { record with committedSurfaces := record.committedSurfaces.erase id }
      deleteImageDescIfUnreferenced scene desc

/-- The committed record takes over the pending image description. -/
def takePendingDesc (scene : Scene) (id : SurfaceId) : Option DescId → Handled Scene
  | none => return scene.setCommitted id fun committed => { committed with imageDesc := none }
  | some desc => do
      let scene := scene.setCommitted id fun committed => { committed with imageDesc := some desc }
      scene.changeImageDesc desc fun record =>
        { record with committedSurfaces := id :: record.committedSurfaces }

/-- The pending image description is set or unset upstream. -/
def sendImageDescription (scene : Scene) (target : Target) (intent : UInt32) :
    Option DescId → Handled Scene
  | none => return scene.request target .unsetImageDescription
  | some desc => do
      let record ← scene.imageDesc desc
      return scene.request target (.setImageDescription desc record.description intent)

/-- The committed record exchanges its image description where the pending one is another. -/
def exchangeDesc (scene : Scene) (id : SurfaceId) (committed pending : Option DescId) : Handled Scene :=
  if committed != pending then do
    let scene ← dropCommittedDesc scene id committed
    takePendingDesc scene id pending
  else return scene

/-- The image description is forwarded when it or its rendering intent changed. -/
def applyImageDescription (scene : Scene) (id : SurfaceId) (target : Target)
    (background : AugmentedSurface) : Handled Scene := do
  let surface ← scene.forward id
  if surface.committed.imageDesc != surface.pending.imageDesc ||
      surface.committed.renderIntent != surface.pending.renderIntent then
    check background.colorSurface
    let scene ← sendImageDescription scene target surface.pending.renderIntent surface.pending.imageDesc
    let scene ← exchangeDesc scene id surface.committed.imageDesc surface.pending.imageDesc
    return scene.setCommitted id fun committed =>
      { committed with renderIntent := surface.pending.renderIntent }
  else return scene

/-- The committed attachment is unlinked from its buffer, whose resource must still exist. -/
def unlinkCommittedAttachment (scene : Scene) (id : SurfaceId) : Attachment → Handled Scene
  | .null => return scene
  | .unreachable => return scene
  | .committed => throw .invalidPointer
  | .buffer buffer => do
      let record ← scene.forwardBuffer buffer
      check record.resource
      return scene.setBuffer buffer fun record =>
        { record with committedSurfaces := record.committedSurfaces.erase id }

/-- A buffer is attached upstream and becomes the committed attachment. -/
def attachBuffer (scene : Scene) (id : SurfaceId) (target : Target) (surface : ForwardSurface)
    (buffer : BufferId) : Handled Scene := do
  let record ← scene.forwardBuffer buffer
  let offsetX := if surface.version ≥ 5 then 0 else surface.pending.offsetX
  let offsetY := if surface.version ≥ 5 then 0 else surface.pending.offsetY
  let scene := scene.request target (.attach (.plugin buffer) record.width record.height offsetX offsetY)
  let scene := scene.setForward id fun surface =>
    { surface with
      committed := { surface.committed with
        offsetX := if surface.version < 5 then surface.pending.offsetX else surface.committed.offsetX
        offsetY := if surface.version < 5 then surface.pending.offsetY else surface.committed.offsetY
        attachment := .buffer buffer }
      committedBufferWidth := record.width
      committedBufferHeight := record.height }
  return scene.setBuffer buffer fun record =>
    { record with committedSurfaces := id :: record.committedSurfaces }

/-- The pending attachment is attached upstream at each commit unless it is already the committed one. -/
def applyAttachment (scene : Scene) (id : SurfaceId) (target : Target) : Handled Scene := do
  let surface ← scene.forward id
  match surface.pending.attachment with
  | .committed => return scene
  | .unreachable => throw .invalidPointer
  | .null =>
      let scene ← unlinkCommittedAttachment scene id surface.committed.attachment
      check surface.layerSurface.isNone
      return scene.setCommitted id fun committed => { committed with attachment := .null }
  | .buffer buffer =>
      let scene ← unlinkCommittedAttachment scene id surface.committed.attachment
      attachBuffer scene id target surface buffer

/-- An offset without a buffer is forwarded to a surface of version five or later. -/
def applyOffset (scene : Scene) (id : SurfaceId) (target : Target) : Handled Scene := do
  let surface ← scene.forward id
  if (surface.committed.offsetX != surface.pending.offsetX ||
      surface.committed.offsetY != surface.pending.offsetY) && decide (surface.version ≥ 5) then
    return (scene.request target (.offset surface.pending.offsetX surface.pending.offsetY)).setCommitted id
      fun committed => { committed with
        offsetX := surface.pending.offsetX
        offsetY := surface.pending.offsetY }
  else return scene

/-- The damage is forwarded and cleared. -/
def applyDamage (scene : Scene) (id : SurfaceId) (target : Target) : Handled Scene := do
  let surface ← scene.forward id
  let scene := scene.requestAll target
    (surface.bufferDamage.map .damageBuffer ++ surface.oldDamage.map .damage)
  return scene.setForward id fun surface => { surface with bufferDamage := [], oldDamage := [] }

/-- A child without an upstream subsurface gets one on the lock surface of its parent's output. -/
def ensureExtSubsurface (scene : Scene) (parent child : SurfaceId) (entry : ForwardSurface) :
    Handled Scene :=
  if entry.extSubsurface then return scene
  else do
    let surface ← scene.forward parent
    let output ← demand .invalidPointer surface.swaySurface
    return (scene.tell (.subsurface child (.create output))).setForward child fun entry =>
      { entry with extSubsurface := true }

def applyPendingSubsurfEntry (scene : Scene) (parent child : SurfaceId) : Handled Scene := do
  let entry ← scene.forward child
  let scene ← ensureExtSubsurface scene parent child entry
  let scene := scene.tell (.subsurface child
    (if entry.subsurfPendingEntry.isDesync then .setDesync else .setSync))
  let scene := scene.tell (.subsurface child
    (.setPosition entry.subsurfPendingEntry.posX entry.subsurfPendingEntry.posY))
  return scene.setForward child fun entry =>
    { entry with subsurfCommittedEntry := { entry.subsurfPendingEntry with
        link := entry.subsurfCommittedEntry.link } }

/-- The committed entries of some children leave their stack. -/
def unlinkCommittedEntries (scene : Scene) (children : List SurfaceId) : Scene :=
  children.foldl (fun scene child => scene.setForward child fun entry =>
    { entry with subsurfCommittedEntry := { entry.subsurfCommittedEntry with link := none } }) scene

/-- The committed entry of a child joins a stack of its parent. -/
def linkCommittedEntry (scene : Scene) (parent child : SurfaceId)
    (insert : SurfaceState → SurfaceState) : Scene :=
  (scene.setForward child fun entry =>
    { entry with subsurfCommittedEntry := { entry.subsurfCommittedEntry with link := some parent } }).setCommitted
      parent insert

/-- The children above the surface are placed from the nearest to the farthest. -/
def applySubsurfacesAbove (scene : Scene) (id : SurfaceId) (last : Target) :
    List SurfaceId → Handled Scene
  | [] => return scene
  | child :: children => do
      let scene ← applyPendingSubsurfEntry scene id child
      let scene := scene.tell (.subsurface child (.placeAbove last))
      let scene := linkCommittedEntry scene id child fun committed =>
        { committed with subsurfacesAbove := committed.subsurfacesAbove ++ [child] }
      applySubsurfacesAbove scene id (.ext child) children

/-- The children below the surface are placed from the nearest to the farthest. -/
def applySubsurfacesBelow (scene : Scene) (id : SurfaceId) (last : Target) :
    List SurfaceId → Handled Scene
  | [] => return scene
  | child :: children => do
      let scene ← applyPendingSubsurfEntry scene id child
      let scene := scene.tell (.subsurface child (.placeBelow last))
      let scene := linkCommittedEntry scene id child fun committed =>
        { committed with subsurfacesBelow := child :: committed.subsurfacesBelow }
      applySubsurfacesBelow scene id (.ext child) children

/-- The committed stacks are taken apart and built again from the pending ones. -/
def applySubsurfaces (scene : Scene) (id : SurfaceId) (target : Target) : Handled Scene := do
  let surface ← scene.forward id
  let scene := unlinkCommittedEntries scene
    (surface.committed.subsurfacesAbove ++ surface.committed.subsurfacesBelow.reverse)
  let scene := scene.setCommitted id fun committed =>
    { committed with subsurfacesAbove := [], subsurfacesBelow := [] }
  let scene ← applySubsurfacesAbove scene id target surface.pending.subsurfacesAbove
  applySubsurfacesBelow scene id target surface.pending.subsurfacesBelow.reverse

/-- The first outstanding frame callback of an output starts the clock of its presentation. -/
def startFramePending (scene : Scene) : Option OutputId → Handled Scene
  | none => return scene
  | some id => do
      let output ← scene.output id
      if output.framePending then return scene
      else return scene.setOutput id fun output =>
        { output with framePending := true, framePendingSince := scene.clock }

/-- The requested frame callbacks wait for one upstream callback. -/
def applyFrameCallbacks (scene : Scene) (id : SurfaceId) (target : Target) : Handled Scene := do
  let surface ← scene.forward id
  if surface.frameCallbacks.isEmpty then return scene
  else do
    let scene := scene.request target .frame
    let scene ← startFramePending scene surface.swaySurface
    let scene := { scene with
      frameCallbacks := scene.frameCallbacks.alloc ⟨surface.frameCallbacks, surface.swaySurface⟩ }
    return scene.setForward id fun surface => { surface with frameCallbacks := [] }

def applyPendingSurfaceUpdates (scene : Scene) (id : SurfaceId) (target : Target)
    (background : AugmentedSurface) : Handled Scene := do
  let scene ← applyBufferScale scene id target
  let scene ← applyBufferTransform scene id target
  let scene ← applyViewportDestination scene id target background
  let scene ← applyViewportSource scene id target background
  let scene ← applyColorRepresentation scene id target background
  let scene ← applyImageDescription scene id target background
  let scene ← applyAttachment scene id target
  let scene ← applyOffset scene id target
  let scene ← applyDamage scene id target
  let scene ← applySubsurfaces scene id target
  applyFrameCallbacks scene id target

end SwaylockPlugin
