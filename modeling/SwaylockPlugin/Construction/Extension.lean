import SwaylockPlugin.Construction.Subsurface

namespace SwaylockPlugin

open Library

/-- A request for an extension object that exists posts an error and then creates another one. -/
def getExtension (scene : Scene) (client : WlClientId) (id : SurfaceId) (role : Role)
    (current : ForwardSurface → Option ResourceId)
    (keep : ResourceId → ForwardSurface → ForwardSurface) : Handled Scene := do
  let surface ← scene.forward id
  let scene := if (current surface).isSome then scene.postError client .exists else scene
  let created := scene.createResource client role
  return created.1.setForward id (keep created.2)

def nestedViewporterGetViewport (scene : Scene) (client : WlClientId) (id : SurfaceId) : Handled Scene :=
  getExtension scene client id (.viewport (some id)) (·.viewport)
    fun resource surface => { surface with viewport := some resource }

def viewportHandleResourceDestroy (scene : Scene) : Option SurfaceId → Handled Scene
  | none => return scene
  | some id => do
      let _ ← scene.forward id
      return scene.setForward id fun surface => { surface with viewport := none }

/-- This is the `nested_viewport_set_source` operation, which follows its surface only for valid values. -/
def nestedViewportSetSource (scene : Scene) (client : WlClientId) (user : Option SurfaceId)
    (x y width height : WlFixed) : Handled Scene :=
  let n := wlFixedFromInt (-1)
  let noSource := x == n && y == n && width == n && height == n
  if (decide (x < 0) || decide (y < 0) || decide (width ≤ 0) || decide (height ≤ 0)) && !noSource then
    return scene.postError client .badValue
  else do
    let id ← userSurface user
    let _ ← scene.forward id
    return scene.setPending id fun pending => { pending with
      viewportSourceX := x
      viewportSourceY := y
      viewportSourceW := width
      viewportSourceH := height }

def nestedViewportSetDestination (scene : Scene) (client : WlClientId) (user : Option SurfaceId)
    (width height : Int32) : Handled Scene :=
  if (decide (width ≤ 0) || decide (height ≤ 0)) && !(width == -1 && height == -1) then
    return scene.postError client .badValue
  else do
    let id ← userSurface user
    let _ ← scene.forward id
    return scene.setPending id fun pending => { pending with
      viewportDestWidth := width
      viewportDestHeight := height }

/-- An output whose fractional scale is known announces it. -/
def announceScale (scene : Scene) (id : SurfaceId) : Option OutputId → Handled Scene
  | none => return scene
  | some outputId => do
      let output ← scene.output outputId
      if 0 < output.lastFractionalScale then
        return scene.tell (.plugin (.preferredScale id output.lastFractionalScale))
      else return scene

def nestedFractionalScaleManagerGetFractionalScale (scene : Scene) (client : WlClientId)
    (id : SurfaceId) : Handled Scene := do
  let scene ← getExtension scene client id (.fractionalScale (some id)) (·.fractionalScale)
    fun resource surface => { surface with fractionalScale := some resource }
  let surface ← scene.forward id
  announceScale scene id surface.swaySurface

def fractionalScaleHandleResourceDestroy (scene : Scene) : Option SurfaceId → Handled Scene
  | none => return scene
  | some id => do
      let _ ← scene.forward id
      return scene.setForward id fun surface => { surface with fractionalScale := none }

def nestedColorGetSurface (scene : Scene) (client : WlClientId) (id : SurfaceId) : Handled Scene :=
  getExtension scene client id (.colorSurface (some id)) (·.colorSurface)
    fun resource surface => { surface with colorSurface := some resource }

/-- A pending image description is dropped, which may be the last reference to it. -/
def dropPendingDesc (scene : Scene) (id : SurfaceId) (surface : ForwardSurface) : Handled Scene :=
  unlinkDesc scene (fun record => { record with pendingSurfaces := record.pendingSurfaces.erase id })
    surface.pending.imageDesc

def nestedColorSurfaceSetImageDesc (scene : Scene) (desc : DescId) (intent : UInt32) :
    Option SurfaceId → Handled Scene
  | none => return scene
  | some id => do
      let surface ← scene.forward id
      let scene ← dropPendingDesc scene id surface
      let scene := scene.setPending id fun pending =>
        { pending with renderIntent := intent, imageDesc := some desc }
      scene.changeImageDesc desc fun record =>
        { record with pendingSurfaces := id :: record.pendingSurfaces }

def nestedColorSurfaceUnsetImageDesc (scene : Scene) : Option SurfaceId → Handled Scene
  | none => return scene
  | some id => do
      let surface ← scene.forward id
      let scene ← dropPendingDesc scene id surface
      return scene.setPending id fun pending => { pending with renderIntent := 0, imageDesc := none }

def colorSurfaceHandleResourceDestroy (scene : Scene) (resource : ResourceId) :
    Option SurfaceId → Handled Scene
  | none => return scene
  | some id => do
      let surface ← scene.forward id
      check (surface.colorSurface == some resource)
      return scene.setForward id fun surface => { surface with colorSurface := none }

/-- A plugin's own image description has a new upstream description behind it. -/
def createForwardImageDesc (scene : Scene) (client : WlClientId) : Scene :=
  { scene with
    imageDescs := scene.imageDescs.alloc (.allocated client scene.nextDescription false)
    nextDescription := scene.nextDescription + 1 }

/-- A plugin's view of an output's or the default description shares the upstream description. -/
def createOutputImageDesc (scene : Scene) (client : WlClientId) (description : UpstreamDesc) : Scene :=
  { scene with imageDescs := scene.imageDescs.alloc (.allocated client description true) }

def imageDescHandleResourceDestroy (scene : Scene) (desc : DescId) : Handled Scene := do
  let scene ← scene.changeImageDesc desc fun record => { record with resource := false }
  deleteImageDescIfUnreferenced scene desc

def nestedColorRepGetSurface (scene : Scene) (client : WlClientId) (id : SurfaceId) : Handled Scene :=
  getExtension scene client id (.colorRepresentation (some id)) (·.colorRepresentation)
    fun resource surface => { surface with colorRepresentation := some resource }

/-- A color representation setter acts only where the surface behind its object still exists. -/
def setColorRepresentation (scene : Scene) (change : SurfaceState → SurfaceState) :
    Option SurfaceId → Handled Scene
  | none => return scene
  | some id => do
      let _ ← scene.forward id
      return scene.setPending id change

def nestedColorRepSurfaceSetAlphaMode (scene : Scene) (mode : UInt32) : Option SurfaceId → Handled Scene :=
  setColorRepresentation scene fun pending => { pending with hasAlphaMode := true, alphaMode := mode }

def nestedColorRepSurfaceSetCoefficientsAndRange (scene : Scene) (coefficients range : UInt32) :
    Option SurfaceId → Handled Scene :=
  setColorRepresentation scene fun pending =>
    { pending with hasCoefRange := true, coefficients := coefficients, range := range }

def nestedColorRepSurfaceSetChromaLocation (scene : Scene) (location : UInt32) :
    Option SurfaceId → Handled Scene :=
  setColorRepresentation scene fun pending =>
    { pending with hasChromaLocation := true, chromaLocation := location }

/-- This is the `color_rep_handle_resource_destroy` operation, which resets the pending values. -/
def colorRepHandleResourceDestroy (scene : Scene) (resource : ResourceId) :
    Option SurfaceId → Handled Scene
  | none => return scene
  | some id => do
      let surface ← scene.forward id
      check (surface.colorRepresentation == some resource)
      return scene.setForward id fun surface =>
        { surface with
          colorRepresentation := none
          pending := { surface.pending with
            hasAlphaMode := false
            alphaMode := 0
            hasCoefRange := false
            coefficients := 0
            range := 0
            hasChromaLocation := false
            chromaLocation := 0 } }

end SwaylockPlugin
