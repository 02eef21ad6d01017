import Mathlib.Data.List.Basic

namespace SwaylockPlugin

/-- An output is named by the address of its `swaylock_surface`. -/
abbrev OutputId := Nat

/-- A plugin surface is named by the address of its `forward_surface`. -/
abbrev SurfaceId := Nat

/-- A plugin buffer is named by the address of its `forward_buffer`. -/
abbrev BufferId := Nat

/-- A plugin image description is named by the address of its `forward_image_desc`. -/
abbrev DescId := Nat

/-- An upstream image description is named by its proxy. -/
abbrev UpstreamDesc := Nat

/-- A plugin record is named by the address of its `swaylock_bg_client`. -/
abbrev BgClientId := Nat

/-- A plugin connection is named by the address of its `wl_client`. -/
abbrev WlClientId := Nat

/-- A nested resource is named by its address. -/
abbrev ResourceId := Nat

/-- A set of upstream frame callbacks is named by the address of its `frame_callbacks`. -/
abbrev CallbackId := Nat

/-- A seat is named by the address of its `swaylock_seat`. -/
abbrev SeatId := Nat

/-- A fixed-point number counts 256ths, as `wl_fixed_t` does. -/
abbrev WlFixed := Int32

def wlFixedFromInt (value : Int32) : WlFixed := value * 256

def wlFixedToInt (value : WlFixed) : Int32 := value / 256

/-- A damage record is one damaged rectangle. -/
structure DamageRecord where
  x : Int32
  y : Int32
  w : Int32
  h : Int32
  deriving DecidableEq

/-- An upstream surface is the lock surface of an output or the surface of a plugin subsurface. -/
inductive Target where
  | lock (output : OutputId)
  | ext (surface : SurfaceId)
  deriving DecidableEq

/-- A buffer is one that a plugin created or one that `render_fallback_surface` filled. -/
inductive UpstreamBuffer where
  | plugin (buffer : BufferId)
  | fallback
  deriving DecidableEq

/-- These are the requests on an upstream surface and on its extension objects. -/
inductive SurfaceRequest where
  | setBufferScale (scale : Int32)
  | setBufferTransform (transform : Int32)
  | setDestination (width height : Int32)
  | setSource (x y width height : WlFixed)
  | recreateColorRepresentation
  | setAlphaMode (alphaMode : UInt32)
  | setChromaLocation (chromaLocation : UInt32)
  | setCoefficientsAndRange (coefficients range : UInt32)
  | setImageDescription (desc : DescId) (description : UpstreamDesc) (renderIntent : UInt32)
  | unsetImageDescription
  | attach (buffer : UpstreamBuffer) (width height : UInt32) (x y : Int32)
  | offset (x y : Int32)
  | damageBuffer (record : DamageRecord)
  | damage (record : DamageRecord)
  | frame
  | commit
  deriving DecidableEq

/-- These are the requests on the upstream `wl_subsurface` of a plugin surface. -/
inductive SubsurfaceRequest where
  | create (parent : OutputId)
  | setDesync
  | setSync
  | setPosition (x y : Int32)
  | placeAbove (sibling : Target)
  | placeBelow (sibling : Target)
  | destroy
  deriving DecidableEq

/-- These are the protocol errors that `nested_surface_commit` posts. -/
inductive CommitError where
  | unmapped
  | sourceNotIntegral
  | notDivisibleByScale
  | sizeMismatch
  deriving DecidableEq

/-- These are the errors that the nested server posts to a plugin. -/
inductive PluginError where
  | commit (error : CommitError)
  | implementation
  | badSurface
  | badParent
  | badValue
  | exists
  | invalidObject
  deriving DecidableEq

/-- These are the events that the nested server sends to a plugin. -/
inductive PluginEvent where
  | configure (surface : SurfaceId) (serial width height : UInt32)
  | closed (surface : SurfaceId)
  | preferredScale (surface : SurfaceId) (scale : UInt32)
  | callbackDone (callback : ResourceId)
  | error (client : WlClientId) (error : PluginError)
  deriving DecidableEq

/-- A message is an upstream event that was handled, an upstream request, or an event for a plugin. -/
inductive Message where
  | configured (output : OutputId) (serial width height : UInt32)
  | ackConfigure (output : OutputId) (serial : UInt32)
  | surface (target : Target) (request : SurfaceRequest)
  | subsurface (surface : SurfaceId) (request : SubsurfaceRequest)
  | plugin (event : PluginEvent)
  deriving DecidableEq

/-- The color representation of an upstream surface holds the values that were set since it was created. -/
structure ColorRepresentation where
  alphaMode : Option UInt32
  chromaLocation : Option UInt32
  coefficientsAndRange : Option (UInt32 × UInt32)
  deriving DecidableEq

/-- A new color representation has no value set. -/
def ColorRepresentation.initial : ColorRepresentation := ⟨none, none, none⟩

/-- The values last sent to an upstream surface and its extension objects stand in one record. -/
structure LastSent where
  bufferScale : Int32
  bufferTransform : Int32
  destination : Int32 × Int32
  source : WlFixed × WlFixed × WlFixed × WlFixed
  colorRepresentation : ColorRepresentation
  imageDescription : Option (DescId × UInt32)
  content : Option (UInt32 × UInt32)
  deriving DecidableEq

namespace LastSent

/-- A new upstream surface has the protocol defaults and no content. -/
def initial : LastSent where
  bufferScale := 1
  bufferTransform := 0
  destination := (-1, -1)
  source := (wlFixedFromInt (-1), wlFixedFromInt (-1), wlFixedFromInt (-1), wlFixedFromInt (-1))
  colorRepresentation := .initial
  imageDescription := none
  content := none

/-- Each request replaces the value that it sets. -/
def receive (sent : LastSent) : SurfaceRequest → LastSent
  | .setBufferScale scale => { sent with bufferScale := scale }
  | .setBufferTransform transform => { sent with bufferTransform := transform }
  | .setDestination width height => { sent with destination := (width, height) }
  | .setSource x y width height => { sent with source := (x, y, width, height) }
  | .recreateColorRepresentation => { sent with colorRepresentation := .initial }
  | .setAlphaMode mode =>
      { sent with colorRepresentation := { sent.colorRepresentation with alphaMode := some mode } }
  | .setChromaLocation location =>
      { sent with colorRepresentation := { sent.colorRepresentation with chromaLocation := some location } }
  | .setCoefficientsAndRange coefficients range =>
      { sent with colorRepresentation :=
          { sent.colorRepresentation with coefficientsAndRange := some (coefficients, range) } }
  | .setImageDescription desc _ intent => { sent with imageDescription := some (desc, intent) }
  | .unsetImageDescription => { sent with imageDescription := none }
  | .attach _ width height _ _ => { sent with content := some (width, height) }
  | .offset _ _ | .damageBuffer _ | .damage _ | .frame | .commit => sent

end LastSent

/-- The compositor keeps what was last sent to a surface and what the last commit made current. -/
structure SurfaceContent where
  sent : LastSent
  current : Option LastSent
  deriving DecidableEq

namespace SurfaceContent

/-- A new surface has sent nothing and committed nothing. -/
def initial : SurfaceContent := ⟨.initial, none⟩

/-- A commit makes what was sent current. -/
def receive (content : SurfaceContent) : SurfaceRequest → SurfaceContent
  | .commit => { content with current := some content.sent }
  | request => { content with sent := content.sent.receive request }

end SurfaceContent

/-- The requests on one upstream surface stand in the order in which they were sent. -/
def requestsOn (target : Target) (wire : List Message) : List SurfaceRequest :=
  wire.filterMap fun
    | .surface surface request => if surface = target then some request else none
    | _ => none

/-- The content of an upstream surface follows from the requests on it. -/
def contentOf (target : Target) (wire : List Message) : SurfaceContent :=
  (requestsOn target wire).foldl SurfaceContent.receive .initial

/-- The serials of an output's configure events stand in the order in which they arrived. -/
def issued (output : OutputId) (wire : List Message) : List UInt32 :=
  wire.filterMap fun
    | .configured target serial _ _ => if target = output then some serial else none
    | _ => none

/-- The serials that were acknowledged for an output stand in the order in which they were sent. -/
def acknowledged (output : OutputId) (wire : List Message) : List UInt32 :=
  wire.filterMap fun
    | .ackConfigure target serial => if target = output then some serial else none
    | _ => none

end SwaylockPlugin
