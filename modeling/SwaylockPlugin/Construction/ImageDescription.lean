import SwaylockPlugin.Construction.Apply

namespace SwaylockPlugin.Color

open Library

/-- An `image_description_state` keeps the name under which it was handed out. -/
abbrev StateId := Nat

/-- An `image_description_properties` record keeps the name under which it was handed out. -/
abbrev PropertiesId := Nat

/-- An upstream information object keeps the name under which it was handed out. -/
abbrev InfoId := Nat

/-- The four chromaticity coordinates of some primaries come in pairs. -/
structure Primaries where
  red : UInt32 × UInt32
  green : UInt32 × UInt32
  blue : UInt32 × UInt32
  white : UInt32 × UInt32

/-- This is the `image_description_properties` structure, where an absent field is `none`. -/
structure Properties where
  failed : Bool
  failureCause : UInt32
  failureReason : Option String
  iccProfile : Int
  iccProfileLen : UInt32
  tf : Option UInt32
  eexp : Option UInt32
  primariesNamed : Option UInt32
  primaries : Option Primaries
  luminances : Option (UInt32 × UInt32 × UInt32)
  masteringDisplayPrimaries : Option Primaries
  masteringLuminance : Option (UInt32 × UInt32)
  maxCll : Option UInt32
  maxFall : Option UInt32
  description : Option UpstreamDesc
  colorIdentityV2Hi : UInt32
  colorIdentityV2Lo : UInt32
  colorIdentityV1 : UInt32
  referenceCount : Nat

/-- This is the record that `create_image_description_props` returns. -/
def createImageDescriptionProps : Properties where
  failed := false
  failureCause := 0
  failureReason := none
  iccProfile := -1
  iccProfileLen := 0
  tf := none
  eexp := none
  primariesNamed := none
  primaries := none
  luminances := none
  masteringDisplayPrimaries := none
  masteringLuminance := none
  maxCll := none
  maxFall := none
  description := none
  colorIdentityV2Hi := 0
  colorIdentityV2Lo := 0
  colorIdentityV1 := 0
  referenceCount := 1

/-- This is the `image_description_state` structure, which belongs to an output or to the default surface. -/
structure ImageDescriptionState where
  infoRequest : Option InfoId
  dirty : Bool
  pending : Option PropertiesId
  current : Option PropertiesId
  surface : Bool

/-- A live `wp_image_description_v1` has a description state or a plugin's description as its listener, and the
compositor answers it once. -/
structure UpstreamDescription where
  listener : Option StateId
  answered : Bool

/-- The compositor sends these events about an image description, each at most once, before it is done. -/
inductive InfoKind where
  | iccFile
  | primaries
  | primariesNamed
  | tfPower
  | tfNamed
  | luminances
  | targetPrimaries
  | targetLuminance
  | targetMaxCll
  | targetMaxFall
  deriving DecidableEq

/-- A live `wp_image_description_info_v1` has a description state as its listener. -/
structure Information where
  listener : StateId
  sent : List InfoKind

/-- These are the events of an information object except the last one. -/
inductive InfoEvent where
  | iccFile (icc : Int) (size : UInt32)
  | primaries (primaries : Primaries)
  | primariesNamed (primaries : UInt32)
  | tfPower (eexp : UInt32)
  | tfNamed (tf : UInt32)
  | luminances (minLum maxLum referenceLum : UInt32)
  | targetPrimaries (primaries : Primaries)
  | targetLuminance (minLum maxLum : UInt32)
  | targetMaxCll (maxCll : UInt32)
  | targetMaxFall (maxFall : UInt32)

/-- The kind of an event forgets its arguments. -/
def InfoEvent.kind : InfoEvent → InfoKind
  | .iccFile _ _ => .iccFile
  | .primaries _ => .primaries
  | .primariesNamed _ => .primariesNamed
  | .tfPower _ => .tfPower
  | .tfNamed _ => .tfNamed
  | .luminances _ _ _ => .luminances
  | .targetPrimaries _ => .targetPrimaries
  | .targetLuminance _ _ => .targetLuminance
  | .targetMaxCll _ => .targetMaxCll
  | .targetMaxFall _ => .targetMaxFall

/-- This is the part of a `forward_image_desc` that decides how long it lives. -/
structure ForwardDesc where
  resource : Bool
  description : Option UpstreamDesc
  pendingSurfaces : List SurfaceId
  committedSurfaces : List SurfaceId
  properties : Option PropertiesId

/-- This is the part of a `forward_surface` that refers to image descriptions. -/
structure ForwardColor where
  pendingDesc : Option DescId
  pendingIntent : UInt32
  committedDesc : Option DescId
  committedIntent : UInt32
  colorSurface : Option ResourceId

/-- A new surface refers to no image description. -/
def ForwardColor.allocated : ForwardColor := ⟨none, 0, none, 0, none⟩

/-- The color management consists of the upstream objects, the description states with their properties, and the
descriptions, surfaces and surface feedbacks of the plugins. -/
structure ColorScene where
  descriptions : Heap UpstreamDescription
  informations : Heap Information
  properties : Heap Properties
  states : Heap ImageDescriptionState
  descs : Heap ForwardDesc
  surfaces : Heap ForwardColor
  colorSurfaces : Heap (Option SurfaceId)
  colorFeedbacks : Heap SurfaceId

namespace ColorScene

/-- No object exists. -/
def empty : ColorScene := ⟨.empty, .empty, .empty, .empty, .empty, .empty, .empty, .empty⟩

def state (scene : ColorScene) (id : StateId) : Handled ImageDescriptionState :=
  demand .invalidPointer (scene.states.cell id)

def props (scene : ColorScene) (id : PropertiesId) : Handled Properties :=
  demand .invalidPointer (scene.properties.cell id)

def desc (scene : ColorScene) (id : DescId) : Handled ForwardDesc :=
  demand .invalidPointer (scene.descs.cell id)

def forward (scene : ColorScene) (id : SurfaceId) : Handled ForwardColor :=
  demand .invalidPointer (scene.surfaces.cell id)

def setState (scene : ColorScene) (id : StateId) (change : ImageDescriptionState → ImageDescriptionState) : ColorScene :=
  { scene with states := scene.states.modify id change }

def setProps (scene : ColorScene) (id : PropertiesId) (change : Properties → Properties) : ColorScene :=
  { scene with properties := scene.properties.modify id change }

def setDesc (scene : ColorScene) (id : DescId) (change : ForwardDesc → ForwardDesc) : ColorScene :=
  { scene with descs := scene.descs.modify id change }

def setForward (scene : ColorScene) (id : SurfaceId) (change : ForwardColor → ForwardColor) : ColorScene :=
  { scene with surfaces := scene.surfaces.modify id change }

end ColorScene

/-- The `wp_image_description_v1_destroy` request is made once for a live object. -/
def wpImageDescriptionV1Destroy (scene : ColorScene) (description : UpstreamDesc) : Handled ColorScene := do
  let _ ← demand Halt.invalidPointer (scene.descriptions.cell description)
  return { scene with descriptions := scene.descriptions.free description }

def unrefImageDescriptionProps (scene : ColorScene) : Option PropertiesId → Handled ColorScene
  | none => return scene
  | some id => do
      let record ← scene.props id
      let scene := scene.setProps id fun record => { record with referenceCount := record.referenceCount - 1 }
      if 0 < record.referenceCount - 1 then return scene
      else do
        let description ← demand .assertion record.description
        let scene ← wpImageDescriptionV1Destroy scene description
        return { scene with properties := scene.properties.free id }

/-- New properties wait for the description of an output or the preferred one of the default surface. -/
def awaitDescription (scene : ColorScene) (id : StateId) : ColorScene :=
  { scene with
    descriptions := scene.descriptions.alloc ⟨some id, false⟩
    properties := scene.properties.alloc
      { createImageDescriptionProps with description := some scene.descriptions.next } }

def requestNewImageDesc (scene : ColorScene) (id : StateId) : Handled ColorScene := do
  let state ← scene.state id
  check state.pending.isNone
  check state.infoRequest.isNone
  return (awaitDescription scene id).setState id fun state =>
    { state with dirty := false, pending := some scene.properties.next }

/-- A description state is set up for an output or for the default surface with its first request under way. -/
def setupDescriptionState (scene : ColorScene) (surface : Bool) : ColorScene :=
  let id := scene.states.next
  { awaitDescription scene id with
    states := scene.states.alloc ⟨none, false, some scene.properties.next, none, surface⟩ }

/-- The pending properties become the current ones, and another request follows where the state is dirty. -/
def commitPending (scene : ColorScene) (id : StateId) : Handled ColorScene := do
  let state ← scene.state id
  let scene ← unrefImageDescriptionProps scene state.current
  let scene := scene.setState id fun state => { state with current := state.pending, pending := none }
  if state.dirty then requestNewImageDesc scene id else return scene

def imageDescInfoHandleDone (scene : ColorScene) (info : InfoId) : Handled ColorScene := do
  let record ← demand .invalidPointer (scene.informations.cell info)
  commitPending { scene with informations := scene.informations.free info } record.listener

/-- The pending properties of a description state are read through their pointer. -/
def pendingProps (scene : ColorScene) (id : StateId) : Handled (PropertiesId × Properties) := do
  let state ← scene.state id
  let pending ← demand Halt.invalidPointer state.pending
  let record ← scene.props pending
  return (pending, record)

/-- This is what the handler of an information event writes to the pending properties. -/
def InfoEvent.write (record : Properties) : InfoEvent → Properties
  | .iccFile icc size => { record with iccProfile := icc, iccProfileLen := size }
  | .primaries coordinates => { record with primaries := some coordinates }
  | .primariesNamed name => { record with primariesNamed := some name }
  | .tfPower eexp => { record with eexp := some eexp }
  | .tfNamed name => { record with tf := some name }
  -- the luminances are written to the fields of the mastering luminance
  | .luminances minLum maxLum _ => { record with masteringLuminance := some (minLum, maxLum) }
  | .targetPrimaries coordinates => { record with masteringDisplayPrimaries := some coordinates }
  | .targetLuminance minLum maxLum => { record with masteringLuminance := some (minLum, maxLum) }
  | .targetMaxCll maxCll => { record with maxCll := some maxCll }
  | .targetMaxFall maxFall => { record with maxFall := some maxFall }

/-- These are the `image_desc_info_handle_*` operations, of which the one for an ICC file makes an assertion. -/
def imageDescInfoHandle (scene : ColorScene) (info : InfoId) (event : InfoEvent) : Handled ColorScene := do
  let record ← demand .invalidPointer (scene.informations.cell info)
  let scene := { scene with informations := scene.informations.modify info fun record =>
    { record with sent := event.kind :: record.sent } }
  let (pending, properties) ← pendingProps scene record.listener
  check (event.kind != .iccFile || properties.iccProfile == -1)
  return scene.setProps pending event.write

/-- The compositor answers a description once. -/
def answer (scene : ColorScene) (description : UpstreamDesc) : ColorScene :=
  { scene with descriptions := scene.descriptions.modify description fun record => { record with answered := true } }

/-- This is the `image_desc_handle_failed` operation of a description state. -/
def imageDescHandleFailed (scene : ColorScene) (id : StateId) (cause : UInt32) (msg : String) : Handled ColorScene := do
  let (pending, record) ← pendingProps scene id
  check record.failureReason.isNone
  commitPending (scene.setProps pending fun record =>
    { record with failed := true, failureCause := cause, failureReason := some msg }) id

/-- An identity comes in one word from the first version of the protocol and in two from the second. -/
inductive Identity where
  | v1 (identity : UInt32)
  | v2 (hi lo : UInt32)

/-- An identity is written to the fields of its version. -/
def Identity.write (record : Properties) : Identity → Properties
  | .v1 identity => { record with colorIdentityV1 := identity }
  | .v2 hi lo => { record with colorIdentityV2Hi := hi, colorIdentityV2Lo := lo }

/-- These are the `image_desc_handle_ready` and `image_desc_handle_ready2` operations of a description state. -/
def imageDescHandleReady (scene : ColorScene) (id : StateId) (description : UpstreamDesc) (identity : Identity) :
    Handled ColorScene := do
  let (pending, record) ← pendingProps scene id
  check (record.description == some description)
  let state ← scene.state id
  check state.infoRequest.isNone
  let scene := scene.setProps pending identity.write
  return { scene.setState id fun state => { state with infoRequest := some scene.informations.next } with
    informations := scene.informations.alloc ⟨id, []⟩ }

/-- These are the `color_feedback_handle_preferred_changed` operations of the default surface and the
`color_output_handle_image_desc_changed` operation of an output. -/
def handleChanged (scene : ColorScene) (id : StateId) : Handled ColorScene := do
  let state ← scene.state id
  -- the listener of an output was registered with the whole `swaylock_surface`, which is taken for its description state
  if state.surface then throw .invalidPointer
  else if state.pending.isSome then return scene.setState id fun state => { state with dirty := true }
  else requestNewImageDesc scene id

end SwaylockPlugin.Color
