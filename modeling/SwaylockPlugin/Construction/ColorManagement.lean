import SwaylockPlugin.Library.Machine
import SwaylockPlugin.Construction.ImageDescription

namespace SwaylockPlugin.Color

open Library

deriving instance DecidableEq for Primaries
deriving instance DecidableEq for InfoEvent

/-- This is the `create_forward_image_desc` operation, with a new upstream description from a creator. -/
def createForwardImageDesc (scene : ColorScene) : ColorScene :=
  { scene with
    descriptions := scene.descriptions.alloc ⟨none, false⟩
    descs := scene.descs.alloc ⟨true, some scene.descriptions.next, [], [], none⟩ }

/-- This is the `create_output_image_desc` operation for the current properties of a description state. -/
def createOutputImageDesc (scene : ColorScene) (id : StateId) : Handled ColorScene := do
  let state ← scene.state id
  let current ← demand .invalidPointer state.current
  let record ← scene.props current
  let scene := { scene with descs := scene.descs.alloc ⟨true, record.description, [], [], some current⟩ }
  return scene.setProps current fun record => { record with referenceCount := record.referenceCount + 1 }

/-- This is the `nested_color_output_get_image_description` operation for the output of its resource. -/
def nestedColorOutputGetImageDescription (scene : ColorScene) (id : StateId) : Handled ColorScene := do
  let state ← scene.state id
  check state.current.isSome
  createOutputImageDesc scene id

def nestedColorGetSurfaceFeedback (scene : ColorScene) (surface : SurfaceId) : ColorScene :=
  { scene with colorFeedbacks := scene.colorFeedbacks.alloc surface }

/-- This is the description state of the default surface. -/
def descSurface : StateId := 0

/-- A surface without an output prefers the default surface. An output's properties are passed where they can be used,
and those of the default surface otherwise. -/
def preferredState (scene : ColorScene) (parametric : Bool) : Option StateId → Handled StateId
  | none => return descSurface
  | some id => do
      let state ← scene.state id
      let current ← demand Halt.assertion state.current
      let record ← scene.props current
      if record.failed || (parametric && record.iccProfile != -1) then return descSurface else return id

/-- The surface of a surface feedback is read through a pointer that is kept when the surface is destroyed. -/
def feedbackSurface (scene : ColorScene) (resource : ResourceId) : Handled SurfaceId := do
  let surface ← demand .invalidPointer (scene.colorFeedbacks.cell resource)
  let _ ← scene.forward surface
  return surface

/-- These are the two operations `nested_color_feedback_get_preferred` and `nested_color_feedback_get_preferred_parameteric`
for a surface that is on the given output. -/
def nestedColorFeedbackGetPreferred (scene : ColorScene) (resource : ResourceId) (output : Option StateId)
    (parametric : Bool) : Handled ColorScene := do
  let _ ← feedbackSurface scene resource
  let id ← preferredState scene parametric output
  createOutputImageDesc scene id

/-- These are the events of an information object that a plugin asked for. -/
inductive InfoMessage where
  | information (event : InfoEvent)
  | done
  deriving DecidableEq

/-- Some properties are told with these events. -/
def sendInformation (record : Properties) : List InfoEvent :=
  [if 0 ≤ record.iccProfile then some (.iccFile record.iccProfile record.iccProfileLen) else none,
    record.tf.map .tfNamed,
    record.eexp.map .tfPower,
    record.primariesNamed.map .primariesNamed,
    record.primaries.map .primaries,
    record.luminances.map fun (minLum, maxLum, referenceLum) => .luminances minLum maxLum referenceLum,
    record.masteringDisplayPrimaries.map .targetPrimaries,
    record.masteringLuminance.map fun (minLum, maxLum) => .targetLuminance minLum maxLum,
    record.maxCll.map .targetMaxCll,
    record.maxFall.map .targetMaxFall].filterMap id

/-- This is the `nested_image_desc_get_information` operation, which posts an error for a description without
properties. -/
def nestedImageDescGetInformation (scene : ColorScene) (id : DescId) : Handled (Option (List InfoMessage)) := do
  let record ← scene.desc id
  match record.properties with
  | none => return none
  | some properties => do
      let record ← scene.props properties
      return some ((sendInformation record).map .information ++ [.done])

/-- The upstream description behind a plugin's one is released through its properties where it has some. -/
def releaseDescription (scene : ColorScene) (record : ForwardDesc) : Handled ColorScene := do
  let description ← demand .assertion record.description
  match record.properties with
  | some properties => unrefImageDescriptionProps scene (some properties)
  | none => wpImageDescriptionV1Destroy scene description

def deleteImageDescIfUnreferenced (scene : ColorScene) (id : DescId) : Handled ColorScene := do
  let record ← scene.desc id
  if record.resource || !record.committedSurfaces.isEmpty || !record.pendingSurfaces.isEmpty then return scene
  else do
    let scene ← releaseDescription scene record
    return { scene with descs := scene.descs.free id }

def imageDescHandleResourceDestroy (scene : ColorScene) (id : DescId) : Handled ColorScene := do
  let _ ← scene.desc id
  deleteImageDescIfUnreferenced (scene.setDesc id fun record => { record with resource := false }) id

/-- A surface leaves a list of an image description, which may be the last reference to it. -/
def unlinkDesc (scene : ColorScene) (remove : ForwardDesc → ForwardDesc) : Option DescId → Handled ColorScene
  | none => return scene
  | some id => do
      let _ ← scene.desc id
      deleteImageDescIfUnreferenced (scene.setDesc id remove) id

/-- The pending description of a surface loses the surface. -/
def dropPendingDesc (scene : ColorScene) (id : SurfaceId) (surface : ForwardColor) : Handled ColorScene :=
  unlinkDesc scene (fun record => { record with pendingSurfaces := record.pendingSurfaces.erase id })
    surface.pendingDesc

/-- The committed description of a surface loses the surface. -/
def dropCommittedDesc (scene : ColorScene) (id : SurfaceId) (surface : ForwardColor) : Handled ColorScene :=
  unlinkDesc scene (fun record => { record with committedSurfaces := record.committedSurfaces.erase id })
    surface.committedDesc

/-- This is the `nested_color_surface_set_image_desc` operation for the user data of its resource. -/
def nestedColorSurfaceSetImageDesc (scene : ColorScene) (desc : DescId) (intent : UInt32) :
    Option SurfaceId → Handled ColorScene
  | none => return scene
  | some id => do
      let surface ← scene.forward id
      let scene ← dropPendingDesc scene id surface
      let _ ← scene.desc desc
      let scene := scene.setForward id fun surface =>
        { surface with pendingIntent := intent, pendingDesc := some desc }
      return scene.setDesc desc fun record => { record with pendingSurfaces := id :: record.pendingSurfaces }

/-- This is the `nested_color_surface_unset_image_desc` operation for the user data of its resource. -/
def nestedColorSurfaceUnsetImageDesc (scene : ColorScene) : Option SurfaceId → Handled ColorScene
  | none => return scene
  | some id => do
      let surface ← scene.forward id
      let scene ← dropPendingDesc scene id surface
      return scene.setForward id fun surface => { surface with pendingIntent := 0, pendingDesc := none }

/-- This is the `nested_color_get_surface` operation, which goes on after it posted an error. -/
def nestedColorGetSurface (scene : ColorScene) (id : SurfaceId) : Handled ColorScene := do
  let _ ← scene.forward id
  let resource := scene.colorSurfaces.next
  return { scene.setForward id fun surface => { surface with colorSurface := some resource } with
    colorSurfaces := scene.colorSurfaces.alloc (some id) }

/-- The surface of a color surface that is destroyed loses its pointer to it. -/
def clearColorSurface (scene : ColorScene) (resource : ResourceId) : Option SurfaceId → Handled ColorScene
  | none => return scene
  | some id => do
      let surface ← scene.forward id
      check (surface.colorSurface == some resource)
      return scene.setForward id fun surface => { surface with colorSurface := none }

/-- This is the `color_surface_handle_resource_destroy` operation, after which the resource is gone. -/
def colorSurfaceHandleResourceDestroy (scene : ColorScene) (resource : ResourceId) : Handled ColorScene := do
  let user ← demand .invalidPointer (scene.colorSurfaces.cell resource)
  let scene ← clearColorSurface scene resource user
  return { scene with colorSurfaces := scene.colorSurfaces.free resource }

def nestedColorSurfaceDestroy (scene : ColorScene) (resource : ResourceId) : Handled ColorScene := do
  let user ← demand .invalidPointer (scene.colorSurfaces.cell resource)
  let scene ← nestedColorSurfaceUnsetImageDesc scene user
  colorSurfaceHandleResourceDestroy scene resource

/-- The upstream surface is given the pending description, which must not have been destroyed. -/
def wpColorManagementSurfaceV1SetImageDescription (scene : ColorScene) : Option DescId → Handled Unit
  | none => return ()
  | some id => do
      let record ← scene.desc id
      let description ← demand .invalidPointer record.description
      let _ ← demand .invalidPointer (scene.descriptions.cell description)
      return ()

/-- The committed state of a surface takes over its pending description. -/
def takePendingDesc (scene : ColorScene) (id : SurfaceId) : Option DescId → Handled ColorScene
  | none => return scene.setForward id fun surface => { surface with committedDesc := none }
  | some desc => do
      let _ ← scene.desc desc
      let scene := scene.setForward id fun surface => { surface with committedDesc := some desc }
      return scene.setDesc desc fun record => { record with committedSurfaces := id :: record.committedSurfaces }

/-- The committed state of a surface exchanges its description for another pending one. -/
def exchangeDesc (scene : ColorScene) (id : SurfaceId) (surface : ForwardColor) : Handled ColorScene :=
  if surface.committedDesc != surface.pendingDesc then do
    let scene ← dropCommittedDesc scene id surface
    takePendingDesc scene id surface.pendingDesc
  else return scene

/-- This is the part of `apply_pending_surface_updates` for the image description. -/
def applyImageDescription (scene : ColorScene) (id : SurfaceId) : Handled ColorScene := do
  let surface ← scene.forward id
  if surface.committedDesc != surface.pendingDesc || surface.committedIntent != surface.pendingIntent then do
    wpColorManagementSurfaceV1SetImageDescription scene surface.pendingDesc
    let scene ← exchangeDesc scene id surface
    return scene.setForward id fun surface => { surface with committedIntent := surface.pendingIntent }
  else return scene

/-- The color surface of a surface that is destroyed loses its user data. -/
def clearUserData (scene : ColorScene) : Option ResourceId → Handled ColorScene
  | none => return scene
  | some resource => do
      let _ ← demand Halt.invalidPointer (scene.colorSurfaces.cell resource)
      return { scene with colorSurfaces := scene.colorSurfaces.modify resource fun _ => none }

/-- This is the part of `surface_handle_resource_destroy` for the image descriptions. -/
def surfaceHandleResourceDestroy (scene : ColorScene) (id : SurfaceId) : Handled ColorScene := do
  let surface ← scene.forward id
  let scene ← dropPendingDesc scene id surface
  let scene ← dropCommittedDesc scene id surface
  let scene ← clearUserData scene surface.colorSurface
  return { scene with surfaces := scene.surfaces.free id }

/-- The compositor sends an event, or a plugin makes a request or loses an object. -/
inductive ColorEvent where
  | outputAdded
  | changed (id : StateId)
  | failed (description : UpstreamDesc) (cause : UInt32) (msg : String)
  | ready (description : UpstreamDesc) (identity : Identity)
  | information (info : InfoId) (event : InfoEvent)
  | done (info : InfoId)
  | createSurface
  | getColorSurface (surface : SurfaceId)
  | getSurfaceFeedback (surface : SurfaceId)
  | createImageDesc
  | getImageDescription (id : StateId)
  | getPreferred (resource : ResourceId) (output : Option StateId) (parametric : Bool)
  | setImageDesc (resource : ResourceId) (desc : DescId) (intent : UInt32)
  | unsetImageDesc (resource : ResourceId)
  | commit (surface : SurfaceId)
  | destroyImageDesc (desc : DescId)
  | destroyColorSurface (resource : ResourceId)
  | loseColorSurface (resource : ResourceId)
  | destroyColorFeedback (resource : ResourceId)
  | destroySurface (surface : SurfaceId)

/-- The compositor sends these events, and the plugins make the other ones. -/
def ColorEvent.upstream : ColorEvent → Bool
  | .outputAdded | .changed _ | .failed _ _ _ | .ready _ _ | .information _ _ | .done _ => true
  | _ => false

/-- An event may end the exchange of a description state. -/
def ColorEvent.ends (scene : ColorScene) : ColorEvent → Option StateId
  | .failed description _ _ => (scene.descriptions.cell description).bind UpstreamDescription.listener
  | .done info => (scene.informations.cell info).map Information.listener
  | _ => none

/-- The listener of a description handles the answer of the compositor, and one of a plugin only passes it on. -/
def answerWith (scene : ColorScene) (description : UpstreamDesc)
    (handle : ColorScene → StateId → Handled ColorScene) : Handled ColorScene := do
  let record ← demand .invalidPointer (scene.descriptions.cell description)
  match record.listener with
  | none => return answer scene description
  | some id => handle (answer scene description) id

def handleColor (scene : ColorScene) : ColorEvent → Handled ColorScene
  | .outputAdded => return setupDescriptionState scene true
  | .changed id => handleChanged scene id
  | .failed description cause msg => answerWith scene description fun scene id => imageDescHandleFailed scene id cause msg
  | .ready description identity => answerWith scene description fun scene id =>
      imageDescHandleReady scene id description identity
  | .information info event => imageDescInfoHandle scene info event
  | .done info => imageDescInfoHandleDone scene info
  | .createSurface => return { scene with surfaces := scene.surfaces.alloc .allocated }
  | .getColorSurface surface => nestedColorGetSurface scene surface
  | .getSurfaceFeedback surface => return nestedColorGetSurfaceFeedback scene surface
  | .createImageDesc => return createForwardImageDesc scene
  | .getImageDescription id => nestedColorOutputGetImageDescription scene id
  | .getPreferred resource output parametric => nestedColorFeedbackGetPreferred scene resource output parametric
  | .setImageDesc resource desc intent => do
      let user ← demand .invalidPointer (scene.colorSurfaces.cell resource)
      nestedColorSurfaceSetImageDesc scene desc intent user
  | .unsetImageDesc resource => do
      let user ← demand .invalidPointer (scene.colorSurfaces.cell resource)
      nestedColorSurfaceUnsetImageDesc scene user
  | .commit surface => applyImageDescription scene surface
  | .destroyImageDesc desc => imageDescHandleResourceDestroy scene desc
  | .destroyColorSurface resource => nestedColorSurfaceDestroy scene resource
  | .loseColorSurface resource => colorSurfaceHandleResourceDestroy scene resource
  | .destroyColorFeedback resource => return { scene with colorFeedbacks := scene.colorFeedbacks.free resource }
  | .destroySurface surface => surfaceHandleResourceDestroy scene surface

/-- A description state belongs to an output. -/
def ColorScene.isOutput (scene : ColorScene) (id : StateId) : Bool :=
  (scene.states.cell id).any ImageDescriptionState.surface

/-- The compositor answers a description once and sends each kind of information once before it is done, and a plugin
names only objects that it has. -/
def colorEnabled (scene : ColorScene) : ColorEvent → Bool
  | .outputAdded | .createSurface | .createImageDesc => true
  | .changed id => scene.states.live id
  | .getImageDescription id => scene.isOutput id
  | .getPreferred resource output _ => scene.colorFeedbacks.live resource && output.all scene.isOutput
  | .failed description _ _ | .ready description _ =>
      (scene.descriptions.cell description).any fun record => !record.answered
  | .information info event => (scene.informations.cell info).any fun record => !record.sent.elem event.kind
  | .done info => scene.informations.live info
  | .getColorSurface surface | .getSurfaceFeedback surface | .commit surface | .destroySurface surface =>
      scene.surfaces.live surface
  | .setImageDesc resource desc _ =>
      scene.colorSurfaces.live resource && (scene.descs.cell desc).any ForwardDesc.resource
  | .unsetImageDesc resource | .destroyColorSurface resource | .loseColorSurface resource =>
      scene.colorSurfaces.live resource
  | .destroyColorFeedback resource => scene.colorFeedbacks.live resource
  | .destroyImageDesc desc => (scene.descs.cell desc).any ForwardDesc.resource

/-- The color management starts with the request for the description of the default surface. -/
def colorStart : ColorScene := setupDescriptionState .empty false

def coloring : Program ColorScene ColorEvent Halt where
  initial scene := scene = colorStart
  enabled scene event := colorEnabled scene event = true
  decideEnabled _ _ := inferInstance
  next := handleColor

end SwaylockPlugin.Color
