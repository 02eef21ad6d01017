import SwaylockPlugin.Construction.LayerShell

namespace SwaylockPlugin

open Library

/-- These are the requests that name a plugin surface. -/
inductive SurfaceCall where
  | destroy
  | attach (buffer : Option BufferId)
  | damage (record : DamageRecord)
  | damageBuffer (record : DamageRecord)
  | frame
  | commit
  | setBufferTransform (transform : Int32)
  | setBufferScale (scale : Int32)
  | getSubsurface (parent : SurfaceId)
  | getViewport
  | getFractionalScale
  | getColorSurface
  | getColorRepresentation
  | getLayerSurface (output : Option ResourceId)
  deriving DecidableEq

/-- These are the requests on an extension object, a subsurface, a layer surface or an output. -/
inductive ObjectCall where
  | destroy
  | setSource (x y width height : WlFixed)
  | setDestination (width height : Int32)
  | setPosition (x y : Int32)
  | placeAbove (sibling : SurfaceId)
  | placeBelow (sibling : SurfaceId)
  | setSync
  | setDesync
  | setImageDescription (desc : DescId) (intent : UInt32)
  | unsetImageDescription
  | setAlphaMode (mode : UInt32)
  | setCoefficientsAndRange (coefficients range : UInt32)
  | setChromaLocation (location : UInt32)
  | ackConfigure (serial : UInt32)
  deriving DecidableEq

/-- A plugin sends one of these requests. -/
inductive Request where
  | getRegistry
  | bindOutput (output : OutputId)
  | createSurface (version : Nat)
  | createBuffer (width height : Int32)
  | destroyBuffer (buffer : BufferId)
  | createImageDesc
  | createOutputImageDesc (description : UpstreamDesc)
  | destroyImageDesc (desc : DescId)
  | surface (id : SurfaceId) (call : SurfaceCall)
  | object (id : ResourceId) (call : ObjectCall)
  deriving DecidableEq

/-- A plugin owns a surface that it created and did not destroy. -/
def ownsSurface (scene : Scene) (client : WlClientId) (id : SurfaceId) : Bool :=
  (scene.forwardSurfaces.cell id).any fun surface => surface.client == client

/-- A plugin owns a buffer whose resource it did not destroy. -/
def ownsBuffer (scene : Scene) (client : WlClientId) (id : BufferId) : Bool :=
  (scene.forwardBuffers.cell id).any fun buffer => buffer.client == client && buffer.resource

/-- A plugin owns an image description whose resource it did not destroy. -/
def ownsImageDesc (scene : Scene) (client : WlClientId) (id : DescId) : Bool :=
  (scene.imageDescs.cell id).any fun desc => desc.client == client && desc.resource

/-- A plugin finds the role of a resource that it owns. -/
def ownedRole (scene : Scene) (client : WlClientId) (id : ResourceId) : Option Role :=
  ((scene.resources.cell id).filter fun resource => resource.client == client).map Resource.role

/-- A request that names an object of another kind or of nobody is a protocol error. -/
def invalidObject (scene : Scene) (client : WlClientId) : Scene :=
  scene.postError client .invalidObject

/-- A layer surface request names no output or an output resource of the plugin. -/
def getLayerSurface (scene : Scene) (client : WlClientId) (id : SurfaceId) :
    Option ResourceId → Handled Scene
  | none => wlrLayerShellGetLayerSurface scene client id none
  | some resource =>
      match ownedRole scene client resource with
      | some (.output output) => wlrLayerShellGetLayerSurface scene client id (some output)
      | _ => return invalidObject scene client

/-- An attach request names no buffer or a buffer of the plugin. -/
def attachOwned (scene : Scene) (client : WlClientId) (id : SurfaceId) :
    Option BufferId → Handled Scene
  | none => nestedSurfaceAttach scene id none
  | some buffer =>
      if ownsBuffer scene client buffer then nestedSurfaceAttach scene id (some buffer)
      else return invalidObject scene client

/-- A request on a surface of the plugin runs its handler. -/
def handleSurface (scene : Scene) (client : WlClientId) (id : SurfaceId) : SurfaceCall → Handled Scene
  | .destroy => surfaceHandleResourceDestroy scene id
  | .attach buffer => attachOwned scene client id buffer
  | .damage record => return nestedSurfaceDamage scene id record
  | .damageBuffer record => return nestedSurfaceDamageBuffer scene id record
  | .frame => return nestedSurfaceFrame scene client id
  | .commit => do
      let (scene, _) ← nestedSurfaceCommit scene id
      return scene
  | .setBufferTransform transform => return nestedSurfaceSetBufferTransform scene id transform
  | .setBufferScale scale => return nestedSurfaceSetBufferScale scene id scale
  | .getSubsurface parent =>
      if ownsSurface scene client parent then subcompositorGetSubsurface scene client id parent
      else return invalidObject scene client
  | .getViewport => nestedViewporterGetViewport scene client id
  | .getFractionalScale => nestedFractionalScaleManagerGetFractionalScale scene client id
  | .getColorSurface => nestedColorGetSurface scene client id
  | .getColorRepresentation => nestedColorRepGetSurface scene client id
  | .getLayerSurface output => getLayerSurface scene client id output

/-- A request on a viewport runs its handler. -/
def handleViewport (scene : Scene) (client : WlClientId) (id : ResourceId) (user : Option SurfaceId) :
    ObjectCall → Handled Scene
  | .destroy => destroyResourceObject scene id
  | .setSource x y width height => nestedViewportSetSource scene client user x y width height
  | .setDestination width height => nestedViewportSetDestination scene client user width height
  | _ => return invalidObject scene client

/-- A request on a subsurface runs its handler. -/
def handleSubsurface (scene : Scene) (client : WlClientId) (id : ResourceId) (user : Option SurfaceId) :
    ObjectCall → Handled Scene
  | .destroy => destroyResourceObject scene id
  | .setPosition x y => nestedSubsurfaceSetPosition scene user x y
  | .placeAbove sibling =>
      if ownsSurface scene client sibling then nestedSubsurfacePlaceAbove scene client user sibling
      else return invalidObject scene client
  | .placeBelow sibling =>
      if ownsSurface scene client sibling then nestedSubsurfacePlaceBelow scene client user sibling
      else return invalidObject scene client
  | .setSync => nestedSubsurfaceSetSync scene user
  | .setDesync => nestedSubsurfaceSetDesync scene user
  | _ => return invalidObject scene client

/-- A request on a color management surface runs its handler. -/
def handleColorSurface (scene : Scene) (client : WlClientId) (id : ResourceId)
    (user : Option SurfaceId) : ObjectCall → Handled Scene
  | .destroy => do
      let scene ← nestedColorSurfaceUnsetImageDesc scene user
      destroyResourceObject scene id
  | .setImageDescription desc intent =>
      if ownsImageDesc scene client desc then nestedColorSurfaceSetImageDesc scene desc intent user
      else return invalidObject scene client
  | .unsetImageDescription => nestedColorSurfaceUnsetImageDesc scene user
  | _ => return invalidObject scene client

/-- A request on a color representation surface runs its handler. -/
def handleColorRepresentation (scene : Scene) (client : WlClientId) (id : ResourceId)
    (user : Option SurfaceId) : ObjectCall → Handled Scene
  | .destroy => destroyResourceObject scene id
  | .setAlphaMode mode => nestedColorRepSurfaceSetAlphaMode scene mode user
  | .setCoefficientsAndRange coefficients range =>
      nestedColorRepSurfaceSetCoefficientsAndRange scene coefficients range user
  | .setChromaLocation location => nestedColorRepSurfaceSetChromaLocation scene location user
  | _ => return invalidObject scene client

/-- A request on a layer surface runs its handler, and its destroy request does nothing. -/
def handleLayerSurface (scene : Scene) (client : WlClientId) (output : OutputId) :
    ObjectCall → Handled Scene
  | .destroy => return scene
  | .ackConfigure serial => zwlrLayerSurfaceAckConfigure scene client output serial
  | _ => return invalidObject scene client

/-- A request on a resource that only has a destroy request runs it. -/
def handleDestroyOnly (scene : Scene) (client : WlClientId) (id : ResourceId) :
    ObjectCall → Handled Scene
  | .destroy => destroyResourceObject scene id
  | _ => return invalidObject scene client

/-- A request on a resource of the plugin goes to the handlers of its role. -/
def handleObject (scene : Scene) (client : WlClientId) (id : ResourceId) (call : ObjectCall) :
    Role → Handled Scene
  | .viewport user => handleViewport scene client id user call
  | .fractionalScale _ => handleDestroyOnly scene client id call
  | .colorSurface user => handleColorSurface scene client id user call
  | .colorRepresentation user => handleColorRepresentation scene client id user call
  | .subsurface user => handleSubsurface scene client id user call
  | .layerSurface output => handleLayerSurface scene client output call
  | .output _ => handleDestroyOnly scene client id call
  | .frameCallback => return invalidObject scene client

/-- A request of a plugin runs its handler where the plugin owns the objects that it names. -/
def handleRequest (scene : Scene) (client : WlClientId) : Request → Handled Scene
  | .getRegistry => clientResourceCreate scene client
  | .bindOutput output => bindWlOutput scene client output
  | .createSurface version => return compositorCreateSurface scene client version
  | .createBuffer width height => return createForwardBuffer scene client width height
  | .destroyBuffer buffer =>
      if ownsBuffer scene client buffer then bufferHandleResourceDestroy scene buffer
      else return invalidObject scene client
  | .createImageDesc => return createForwardImageDesc scene client
  | .createOutputImageDesc description => return createOutputImageDesc scene client description
  | .destroyImageDesc desc =>
      if ownsImageDesc scene client desc then imageDescHandleResourceDestroy scene desc
      else return invalidObject scene client
  | .surface id call =>
      if ownsSurface scene client id then handleSurface scene client id call
      else return invalidObject scene client
  | .object id call =>
      match ownedRole scene client id with
      | some role => handleObject scene client id call role
      | none => return invalidObject scene client

end SwaylockPlugin
