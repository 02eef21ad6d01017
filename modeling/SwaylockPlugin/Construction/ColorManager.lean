import SwaylockPlugin.Construction.ColorManagement

namespace SwaylockPlugin.ColorManager

open Library Color

/-- An upstream creator keeps the name under which it was handed out. -/
abbrev CreatorId := Nat

/-- These constants come from the header that is generated for the protocol. -/
structure ProtocolConstants where
  renderIntentAbsoluteNoAdaptation : UInt32
  renderIntentAbsoluteNoAdaptationSinceVersion : UInt32
  transferFunctionCompoundPower24 : UInt32
  transferFunctionCompoundPower24SinceVersion : UInt32
  transferFunctionSrgb : UInt32

/-- A color manager sends these events. -/
inductive ManagerEvent where
  | supportedIntent (renderIntent : UInt32)
  | supportedFeature (feature : UInt32)
  | supportedTfNamed (tf : UInt32)
  | supportedPrimariesNamed (primaries : UInt32)
  | done
  deriving DecidableEq

/-- A parametric creator takes these requests before it is used up. -/
inductive ParamsRequest where
  | setTfNamed (tf : UInt32)
  | setTfPower (eexp : UInt32)
  | setPrimariesNamed (primaries : UInt32)
  | setPrimaries (primaries : Primaries)
  | setLuminances (minLum maxLum referenceLum : UInt32)
  | setMasteringDisplayPrimaries (primaries : Primaries)
  | setMasteringLuminance (minLum maxLum : UInt32)
  | setMaxCll (maxCll : UInt32)
  | setMaxFall (maxFall : UInt32)
  deriving DecidableEq

/-- The compositor keeps what an upstream creator received, whose proxy is gone once it was used up or destroyed. -/
structure UpstreamCreator where
  proxy : Bool
  requests : List ParamsRequest
  created : Bool
  deriving DecidableEq

/-- A plugin's color manager received these events when it was bound. -/
structure ManagerResource where
  version : UInt32
  received : List ManagerEvent
  deriving DecidableEq

/-- This is the part of the `forward_state` for the announcements of the upstream color manager, with the managers and
the parametric creators of the plugins. -/
structure ManagerState where
  supportedIntents : List UInt32
  supportedFeatures : List UInt32
  supportedTfs : List UInt32
  supportedPrimaries : List UInt32
  colorManagementDone : Bool
  global : Bool
  managers : Heap ManagerResource
  creators : Heap (Option CreatorId)
  upstream : Heap UpstreamCreator

/-- Nothing was announced yet. -/
def ManagerState.start : ManagerState := ⟨[], [], [], [], false, false, .empty, .empty, .empty⟩

def colorSupportedIntent (state : ManagerState) (renderIntent : UInt32) : ManagerState :=
  { state with supportedIntents := state.supportedIntents ++ [renderIntent] }

def colorSupportedFeature (state : ManagerState) (feature : UInt32) : ManagerState :=
  { state with supportedFeatures := state.supportedFeatures ++ [feature] }

def colorSupportedTf (state : ManagerState) (tf : UInt32) : ManagerState :=
  { state with supportedTfs := state.supportedTfs ++ [tf] }

def colorSupportedPrimaries (state : ManagerState) (primaries : UInt32) : ManagerState :=
  { state with supportedPrimaries := state.supportedPrimaries ++ [primaries] }

def colorMgrDone (state : ManagerState) : ManagerState := { state with colorManagementDone := true }

def colorManagerListener (state : ManagerState) : ManagerEvent → ManagerState
  | .supportedIntent renderIntent => colorSupportedIntent state renderIntent
  | .supportedFeature feature => colorSupportedFeature state feature
  | .supportedTfNamed tf => colorSupportedTf state tf
  | .supportedPrimariesNamed primaries => colorSupportedPrimaries state primaries
  | .done => colorMgrDone state

section Bind

variable (constants : ProtocolConstants) (version : UInt32)

/-- A version lacks the last rendering intent before it was added to the protocol. -/
def lacksIntent (intent : UInt32) : Bool :=
  !decide (constants.renderIntentAbsoluteNoAdaptationSinceVersion ≤ version) &&
    intent == constants.renderIntentAbsoluteNoAdaptation

/-- The loop over the intents is followed by other events unless it returns from the function. -/
def sendSupportedIntents (rest : List ManagerEvent) : List UInt32 → List ManagerEvent
  | [] => rest
  | intent :: intents =>
      if lacksIntent constants version intent then []
      else .supportedIntent intent :: sendSupportedIntents rest intents

/-- A transfer function is replaced where the version lacks it. -/
def sentTf (tf : UInt32) : UInt32 :=
  if !decide (constants.transferFunctionCompoundPower24SinceVersion ≤ version) &&
      tf == constants.transferFunctionCompoundPower24
    then constants.transferFunctionSrgb else tf

/-- These are the events that the `bind_color_manager` operation sends. -/
def bindColorManager (state : ManagerState) : List ManagerEvent :=
  sendSupportedIntents constants version
    (state.supportedFeatures.map .supportedFeature ++
      state.supportedTfs.map (fun tf => .supportedTfNamed (sentTf constants version tf)) ++
      state.supportedPrimaries.map .supportedPrimariesNamed ++ [.done])
    state.supportedIntents

end Bind

def nestedColorCreateParametricCreator (state : ManagerState) : ManagerState :=
  { state with
    creators := state.creators.alloc (some state.upstream.next)
    upstream := state.upstream.alloc ⟨true, [], false⟩ }

/-- A request is made through the proxy of an upstream creator. -/
def ManagerState.call (state : ManagerState) (creator : CreatorId) (change : UpstreamCreator → UpstreamCreator) :
    Handled ManagerState := do
  let record ← demand .invalidPointer (state.upstream.cell creator)
  require .invalidPointer record.proxy
  return { state with upstream := state.upstream.modify creator change }

/-- The upstream creator of a resource is read from its user data. -/
def ManagerState.creator (state : ManagerState) (resource : ResourceId) : Handled CreatorId := do
  let user ← demand .invalidPointer (state.creators.cell resource)
  demand .invalidPointer user

/-- The handler of a setter makes a request on the upstream creator. -/
def nestedDescCreatorParamsSet (request : ParamsRequest) (state : ManagerState) (resource : ResourceId) :
    Handled ManagerState := do
  let creator ← state.creator resource
  state.call creator fun record => { record with requests := record.requests ++ [request] }

def nestedDescCreatorParamsSetTfNamed (tf : UInt32) := nestedDescCreatorParamsSet (.setTfNamed tf)

def nestedDescCreatorParamsSetTfPower (eexp : UInt32) := nestedDescCreatorParamsSet (.setTfPower eexp)

def nestedDescCreatorParamsSetPrimariesNamed (primaries : UInt32) :=
  nestedDescCreatorParamsSet (.setPrimariesNamed primaries)

def nestedDescCreatorParamsSetPrimaries (primaries : Primaries) := nestedDescCreatorParamsSet (.setPrimaries primaries)

def nestedDescCreatorParamsSetLuminances (minLum maxLum referenceLum : UInt32) :=
  nestedDescCreatorParamsSet (.setLuminances minLum maxLum referenceLum)

def nestedDescCreatorParamsSetMasteringDisplayPrimaries (primaries : Primaries) :=
  nestedDescCreatorParamsSet (.setMasteringDisplayPrimaries primaries)

def nestedDescCreatorParamsSetMasteringLuminance (minLum maxLum : UInt32) :=
  nestedDescCreatorParamsSet (.setMasteringLuminance minLum maxLum)

def nestedDescCreatorParamsSetMaxCll (maxCll : UInt32) := nestedDescCreatorParamsSet (.setMaxCll maxCll)

def nestedDescCreatorParamsSetMaxFall (maxFall : UInt32) := nestedDescCreatorParamsSet (.setMaxFall maxFall)

/-- These are the setters of the `desc_creator_params_impl` structure. -/
def descCreatorParamsImpl : ParamsRequest → ManagerState → ResourceId → Handled ManagerState
  | .setTfNamed tf => nestedDescCreatorParamsSetTfNamed tf
  | .setTfPower eexp => nestedDescCreatorParamsSetTfPower eexp
  | .setPrimariesNamed primaries => nestedDescCreatorParamsSetPrimariesNamed primaries
  | .setPrimaries primaries => nestedDescCreatorParamsSetPrimaries primaries
  | .setLuminances minLum maxLum referenceLum => nestedDescCreatorParamsSetLuminances minLum maxLum referenceLum
  | .setMasteringDisplayPrimaries primaries => nestedDescCreatorParamsSetMasteringDisplayPrimaries primaries
  | .setMasteringLuminance minLum maxLum => nestedDescCreatorParamsSetMasteringLuminance minLum maxLum
  -- the table pairs the last two requests with each other's handlers
  | .setMaxCll maxCll => nestedDescCreatorParamsSetMaxFall maxCll
  | .setMaxFall maxFall => nestedDescCreatorParamsSetMaxCll maxFall

/-- This is the `nested_desc_creator_params_create` operation, after which the upstream creator is used up. -/
def nestedDescCreatorParamsCreate (state : ManagerState) (resource : ResourceId) : Handled ManagerState := do
  let creator ← state.creator resource
  let state ← state.call creator fun record => { record with proxy := false, created := true }
  return { state with creators := state.creators.modify resource fun _ => none }

/-- This is the `desc_creator_params_handle_resource_destroy` operation, after which the resource is gone. -/
def descCreatorParamsHandleResourceDestroy (state : ManagerState) (resource : ResourceId) : Handled ManagerState := do
  let user ← demand .invalidPointer (state.creators.cell resource)
  let state ← match user with
    | none => pure state
    | some creator => state.call creator fun record => { record with proxy := false }
  return { state with creators := state.creators.free resource }

/-- The compositor announces what it supports, the main function creates the global, and the plugins bind it and use the
creators. -/
inductive ColorManagerEvent where
  | announced (event : ManagerEvent)
  | globalCreated
  | bind (version : UInt32)
  | createParametricCreator (manager : ResourceId)
  | set (resource : ResourceId) (request : ParamsRequest)
  | create (resource : ResourceId)
  | destroyed (resource : ResourceId)
  deriving DecidableEq

def handleColorManager (constants : ProtocolConstants) (state : ManagerState) :
    ColorManagerEvent → Handled ManagerState
  | .announced event => return colorManagerListener state event
  | .globalCreated => do
      require .assertion state.colorManagementDone
      return { state with global := true }
  | .bind version => return { state with
      managers := state.managers.alloc ⟨version, bindColorManager constants version state⟩ }
  | .createParametricCreator _ => return nestedColorCreateParametricCreator state
  | .set resource request => descCreatorParamsImpl request state resource
  | .create resource => nestedDescCreatorParamsCreate state resource
  | .destroyed resource => descCreatorParamsHandleResourceDestroy state resource

/-- A plugin binds the global once it is there and makes requests on the objects that it has. -/
def colorManagerEnabled (state : ManagerState) : ColorManagerEvent → Bool
  | .announced _ => true
  | .globalCreated => !state.global
  | .bind _ => state.global
  | .createParametricCreator manager => state.managers.live manager
  | .set resource _ | .create resource | .destroyed resource => state.creators.live resource

def managing (constants : ProtocolConstants) : Program ManagerState ColorManagerEvent Halt where
  initial state := state = .start
  enabled state event := colorManagerEnabled state event = true
  decideEnabled _ _ := inferInstance
  next := handleColorManager constants

end SwaylockPlugin.ColorManager
