import SwaylockPlugin.Construction.Commit

namespace SwaylockPlugin

open Library

namespace Scene

def resource (scene : Scene) (id : ResourceId) : Handled Resource :=
  demand .invalidPointer (scene.resources.cell id)

/-- A new resource is returned with its address. -/
def createResource (scene : Scene) (client : WlClientId) (role : Role) : Scene × ResourceId :=
  ({ scene with resources := scene.resources.alloc ⟨client, role⟩ }, scene.resources.next)

def destroyResource (scene : Scene) (id : ResourceId) : Scene :=
  { scene with resources := scene.resources.free id }

end Scene

def compositorCreateSurface (scene : Scene) (client : WlClientId) (version : Nat) : Scene :=
  { scene with forwardSurfaces := scene.forwardSurfaces.alloc (.allocated client version) }

/-- A buffer that lost its resource is freed with its last pending surface. -/
def releasePendingBuffer (scene : Scene) (id : SurfaceId) : Attachment → Handled Scene
  | .null => return scene
  | .committed => return scene
  | .unreachable => throw .invalidPointer
  | .buffer buffer => do
      let scene ← scene.changeBuffer buffer fun record =>
        { record with pendingSurfaces := record.pendingSurfaces.erase id }
      let record ← scene.forwardBuffer buffer
      if !record.resource && record.pendingSurfaces.isEmpty then
        check record.committedSurfaces.isEmpty
        return { scene with forwardBuffers := scene.forwardBuffers.free buffer }
      else return scene

/-- This is the `nested_surface_attach` operation, which follows the null buffer where it differs. -/
def nestedSurfaceAttach (scene : Scene) (id : SurfaceId) (buffer : Option BufferId) : Handled Scene := do
  let surface ← scene.forward id
  match buffer with
  | none =>
      if surface.pending.attachment == .null then return scene
      else throw .invalidPointer
  | some buffer =>
      if surface.pending.attachment == .buffer buffer then return scene
      else do
        let scene ← releasePendingBuffer scene id surface.pending.attachment
        let scene ← scene.changeBuffer buffer fun record =>
          { record with pendingSurfaces := id :: record.pendingSurfaces }
        return scene.setPending id fun pending => { pending with attachment := .buffer buffer }

def nestedSurfaceDamage (scene : Scene) (id : SurfaceId) (record : DamageRecord) : Scene :=
  scene.setForward id fun surface => { surface with oldDamage := surface.oldDamage ++ [record] }

def nestedSurfaceDamageBuffer (scene : Scene) (id : SurfaceId) (record : DamageRecord) : Scene :=
  scene.setForward id fun surface => { surface with bufferDamage := surface.bufferDamage ++ [record] }

def nestedSurfaceFrame (scene : Scene) (client : WlClientId) (id : SurfaceId) : Scene :=
  let created := scene.createResource client .frameCallback
  created.1.setForward id fun surface =>
    { surface with frameCallbacks := created.2 :: surface.frameCallbacks }

def nestedSurfaceSetBufferTransform (scene : Scene) (id : SurfaceId) (transform : Int32) : Scene :=
  scene.setPending id fun pending => { pending with bufferTransform := transform }

def nestedSurfaceSetBufferScale (scene : Scene) (id : SurfaceId) (scale : Int32) : Scene :=
  scene.setPending id fun pending => { pending with bufferScale := scale }

/-- A nested pool or dmabuf creates a buffer of the given size. -/
def createForwardBuffer (scene : Scene) (client : WlClientId) (width height : Int32) : Scene :=
  { scene with forwardBuffers := scene.forwardBuffers.alloc (.allocated client width height) }

/-- A surface that committed a buffer can no longer reach it once its resource is gone. -/
def markUnreachable (scene : Scene) (buffer : BufferId) (id : SurfaceId) : Handled Scene := do
  let surface ← scene.forward id
  let scene :=
    if surface.pending.attachment == surface.committed.attachment then
      (scene.setPending id fun pending => { pending with attachment := .committed }).setBuffer buffer
        fun record => { record with pendingSurfaces := record.pendingSurfaces.erase id }
    else scene
  let scene := scene.setCommitted id fun committed => { committed with attachment := .unreachable }
  return scene.setBuffer buffer fun record =>
    { record with committedSurfaces := record.committedSurfaces.erase id }

def bufferHandleResourceDestroy (scene : Scene) (buffer : BufferId) : Handled Scene := do
  let record ← scene.forwardBuffer buffer
  let scene ← record.committedSurfaces.foldlM (fun scene id => markUnreachable scene buffer id) scene
  let record ← scene.forwardBuffer buffer
  if record.pendingSurfaces.isEmpty then
    return { scene with forwardBuffers := scene.forwardBuffers.free buffer }
  else return scene.setBuffer buffer fun record => { record with resource := false }

/-- An entry that is linked leaves the stacks of the surface that it is linked into. -/
def unlinkEntry (scene : Scene) (change : ForwardSurface → ForwardSurface) :
    Option SurfaceId → Handled Scene
  | none => return scene
  | some owner => do
      let _ ← scene.forward owner
      return scene.setForward owner change

/-- The stacks of a state lose one child. -/
def SurfaceState.without (state : SurfaceState) (child : SurfaceId) : SurfaceState :=
  { state with
    subsurfacesAbove := state.subsurfacesAbove.erase child
    subsurfacesBelow := state.subsurfacesBelow.erase child }

def destroySubsurfaceParts (scene : Scene) (id : SurfaceId) : Handled Scene := do
  let surface ← scene.forward id
  let scene := if surface.extSubsurface then scene.tell (.subsurface id .destroy) else scene
  let scene := scene.setForward id fun surface =>
    { surface with extSubsurface := false, extSurface := .none }
  let scene ← unlinkEntry scene (fun owner => { owner with pending := owner.pending.without id })
    surface.subsurfPendingEntry.link
  let scene ← unlinkEntry scene (fun owner => { owner with committed := owner.committed.without id })
    surface.subsurfCommittedEntry.link
  return scene.setForward id fun surface =>
    { surface with
      subsurfPendingEntry := { surface.subsurfPendingEntry with link := none }
      subsurfCommittedEntry := { surface.subsurfCommittedEntry with link := none }
      subsurfaceParent := none
      inert := true }

/-- An output forgets the plugin surface that is being destroyed. -/
def clearPluginSurface (scene : Scene) : Option OutputId → Handled Scene
  | none => return scene
  | some id => do
      let _ ← scene.output id
      return scene.setOutput id fun output => { output with pluginSurface := none }

/-- A surface that is being destroyed leaves the list of an attachment whose resource must exist. -/
def unlinkAttachment (scene : Scene)
    (remove : ForwardBuffer → ForwardBuffer) : Attachment → Handled Scene
  | .null => return scene
  | .unreachable => return scene
  | .committed => return scene
  | .buffer buffer => do
      let record ← scene.forwardBuffer buffer
      check record.resource
      return scene.setBuffer buffer remove

/-- A surface that is being destroyed leaves the list of an image description. -/
def unlinkDesc (scene : Scene) (remove : ForwardImageDesc → ForwardImageDesc) :
    Option DescId → Handled Scene
  | none => return scene
  | some desc => do
      let scene ← scene.changeImageDesc desc remove
      deleteImageDescIfUnreferenced scene desc

/-- An extension object of a surface that is being destroyed loses its user data. -/
def clearUserData (scene : Scene) (role : Role) : Option ResourceId → Handled Scene
  | none => return scene
  | some id => do
      let _ ← scene.resource id
      return scene.setRole id role

def surfaceHandleResourceDestroy (scene : Scene) (id : SurfaceId) : Handled Scene := do
  let surface ← scene.forward id
  let scene ← clearPluginSurface scene surface.swaySurface
  let scene ← unlinkAttachment scene
    (fun record => { record with pendingSurfaces := record.pendingSurfaces.erase id })
    surface.pending.attachment
  let scene ← unlinkAttachment scene
    (fun record => { record with committedSurfaces := record.committedSurfaces.erase id })
    surface.committed.attachment
  let scene ← unlinkDesc scene
    (fun record => { record with pendingSurfaces := record.pendingSurfaces.erase id })
    surface.pending.imageDesc
  let scene ← unlinkDesc scene
    (fun record => { record with committedSurfaces := record.committedSurfaces.erase id })
    surface.committed.imageDesc
  let scene ← clearUserData scene (.viewport none) surface.viewport
  let scene ← clearUserData scene (.fractionalScale none) surface.fractionalScale
  let scene ← clearUserData scene (.colorSurface none) surface.colorSurface
  let scene ← clearUserData scene (.colorRepresentation none) surface.colorRepresentation
  let scene ← clearUserData scene (.subsurface none) surface.subsurface
  let scene ← destroySubsurfaceParts scene id
  return { scene with forwardSurfaces := scene.forwardSurfaces.free id }

/-- A frame callback that is destroyed leaves the list that it waits in. -/
def frameCallbackHandleResourceDestroy (scene : Scene) (id : ResourceId) : Scene :=
  { scene with
    forwardSurfaces := scene.forwardSurfaces.mapAll fun _ surface =>
      { surface with frameCallbacks := surface.frameCallbacks.erase id }
    frameCallbacks := scene.frameCallbacks.mapAll fun _ callbacks =>
      { callbacks with list := callbacks.list.erase id } }

end SwaylockPlugin
