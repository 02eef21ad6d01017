import SwaylockPlugin.Library.Heap
import SwaylockPlugin.Library.Outcome
import SwaylockPlugin.Construction.Loop
import SwaylockPlugin.Construction.Wire

namespace SwaylockPlugin

open Library

/-- A handler that does not return ends the process in one of these ways. -/
inductive Halt where
  | exited (status : Nat)
  | assertion
  | invalidPointer
  | destroyedDisplay
  | divisionByZero
  | endless
  deriving DecidableEq

/-- A handler returns a value or ends the process. -/
abbrev Handled := Except Halt

/-- An fd callback is one of the functions that `main` registers. -/
inductive FdCallback where
  | displayIn
  | commIn
  | dispatchNested
  | termIn
  | lockIn
  | sleepIn
  deriving DecidableEq

/-- A timer callback is a function together with its data. -/
inductive TimerCallback where
  | setInputIdle
  | setAuthIdle
  | clearPassword
  | hiddenCheckTimeout
  | graceTimeout
  | clientConnectionTimeout (client : BgClientId)
  | outputRedrawTimeout (output : OutputId)
  | keyboardRepeat (seat : SeatId)
  deriving DecidableEq

/-- These are the options that the modelled functions read, with the grace time as an exact number. -/
structure SwaylockArgs where
  ignoreEmpty : Bool
  daemonize : Bool
  readyFd : Int
  pluginPerOutput : Bool
  pauseWhenHidden : Bool
  hiddenTimeoutMs : Int
  graceTime : Rat
  gracePointerHysteresis : Rat

/-- These are the options of a program that is started without any. -/
def SwaylockArgs.default : SwaylockArgs where
  ignoreEmpty := false
  daemonize := false
  readyFd := -1
  pluginPerOutput := false
  pauseWhenHidden := false
  hiddenTimeoutMs := 5000
  graceTime := 0
  gracePointerHysteresis := 10

/-- These descriptors are open and polled by the main function, and no two of them are the same. -/
structure Descriptors where
  display : Int
  comm : Int
  nested : Int
  sigusr : Int
  sigusr2 : Int
  distinct : [display, comm, nested, sigusr, sigusr2].Nodup
  valid : ∀ fd ∈ [display, comm, nested, sigusr, sigusr2], 0 ≤ fd

/-- A program that opened its descriptors in order has these. -/
def Descriptors.opened : Descriptors := ⟨3, 4, 5, 6, 7, by decide, by decide⟩

/-- These upstream globals decide which extension objects exist. -/
structure ForwardState where
  viewporter : Bool
  fractionalScale : Bool
  colorManagement : Bool
  colorRepresentation : Bool

/-- A compositor may offer every optional global. -/
def ForwardState.complete : ForwardState := ⟨true, true, true, true⟩

/-- An augmented surface has a surface and those extension objects that the globals offer. -/
structure AugmentedSurface where
  surface : Bool
  viewport : Bool
  colorRepSurface : Bool
  colorSurface : Bool
  deriving DecidableEq

/-- An augmented surface that was cleared has none of its parts. -/
def AugmentedSurface.none : AugmentedSurface := ⟨false, false, false, false⟩

/-- The fields of a `swaylock_surface` that the modelled functions use keep their names. -/
structure SwaylockSurface where
  outputGlobalName : UInt32
  surface : AugmentedSurface
  pluginSurface : Option SurfaceId
  framePending : Bool
  framePendingSince : Timespec
  frameLastDone : Timespec
  extSessionLockSurface : Bool
  fractionalScale : Bool
  colorOutput : Bool
  outputDescCurrent : Bool
  lastFractionalScale : UInt32
  created : Bool
  dirty : Bool
  width : UInt32
  height : UInt32
  scale : Int32
  hasOutputDone : Bool
  frame : Bool
  nestedServerOutput : Bool
  firstConfigureSerial : UInt32
  usedFirstConfigure : Bool
  hasPendingAckConf : Bool
  pendingUpstreamSerial : UInt32
  hasNewerSerial : Bool
  newestSerial : UInt32
  hasBuffer : Bool
  client : Option BgClientId
  clientSubmissionTimer : Option TimerId

/-- An output that `handle_global` just allocated is zero apart from its name. -/
def SwaylockSurface.allocated (name : UInt32) (colorOutput : Bool) : SwaylockSurface where
  outputGlobalName := name
  surface := .none
  pluginSurface := none
  framePending := false
  framePendingSince := ⟨0, 0⟩
  frameLastDone := ⟨0, 0⟩
  extSessionLockSurface := false
  fractionalScale := false
  colorOutput := colorOutput
  outputDescCurrent := false
  lastFractionalScale := 0
  created := false
  dirty := false
  width := 0
  height := 0
  scale := 0
  hasOutputDone := false
  frame := false
  nestedServerOutput := false
  firstConfigureSerial := 0
  usedFirstConfigure := false
  hasPendingAckConf := false
  pendingUpstreamSerial := 0
  hasNewerSerial := false
  newestSerial := 0
  hasBuffer := false
  client := none
  clientSubmissionTimer := none

/-- A `swaylock_bg_client` records one run of the plugin command. -/
structure SwaylockBgClient where
  serial : UInt32
  client : WlClientId
  uniqueOutput : Option OutputId
  pid : Int
  paused : Bool
  madeARegistry : Bool
  clientConnectTimer : Option TimerId

/-- A connection that was sent an error is closed without reading more requests. -/
structure WlClient where
  error : Bool

/-- An attachment is absent, a buffer, or one of the two marker addresses. -/
inductive Attachment where
  | null
  | buffer (buffer : BufferId)
  | unreachable
  | committed
  deriving DecidableEq

/-- A `forward_buffer` outlives its resource while some surface still has it pending. -/
structure ForwardBuffer where
  client : WlClientId
  resource : Bool
  pendingSurfaces : List SurfaceId
  committedSurfaces : List SurfaceId
  width : UInt32
  height : UInt32

/-- A new buffer is on no list. -/
def ForwardBuffer.allocated (client : WlClientId) (width height : Int32) : ForwardBuffer where
  client := client
  resource := true
  pendingSurfaces := []
  committedSurfaces := []
  width := width.toUInt32
  height := height.toUInt32

/-- A `forward_image_desc` outlives its resource while some surface still refers to it. -/
structure ForwardImageDesc where
  client : WlClientId
  resource : Bool
  description : UpstreamDesc
  pendingSurfaces : List SurfaceId
  committedSurfaces : List SurfaceId
  properties : Bool

/-- A new image description is on no list. -/
def ForwardImageDesc.allocated (client : WlClientId) (description : UpstreamDesc)
    (properties : Bool) : ForwardImageDesc where
  client := client
  resource := true
  description := description
  pendingSurfaces := []
  committedSurfaces := []
  properties := properties

/-- A `subsurface_entry` is linked into the stack of at most one surface. -/
structure SubsurfaceEntry where
  posX : Int32
  posY : Int32
  isDesync : Bool
  link : Option SurfaceId
  deriving DecidableEq

/-- This is the `surface_state` structure, with its stacks in list order. -/
structure SurfaceState where
  attachment : Attachment
  offsetX : Int32
  offsetY : Int32
  bufferScale : Int32
  bufferTransform : Int32
  viewportSourceX : WlFixed
  viewportSourceY : WlFixed
  viewportSourceW : WlFixed
  viewportSourceH : WlFixed
  viewportDestWidth : Int32
  viewportDestHeight : Int32
  hasAlphaMode : Bool
  alphaMode : UInt32
  hasCoefRange : Bool
  coefficients : UInt32
  range : UInt32
  hasChromaLocation : Bool
  chromaLocation : UInt32
  imageDesc : Option DescId
  renderIntent : UInt32
  subsurfacesAbove : List SurfaceId
  subsurfacesBelow : List SurfaceId
  deriving DecidableEq

/-- This is the `default_surface_state` operation on zeroed memory. -/
def defaultSurfaceState : SurfaceState where
  attachment := .null
  offsetX := 0
  offsetY := 0
  bufferScale := 1
  bufferTransform := 0
  viewportSourceX := wlFixedFromInt (-1)
  viewportSourceY := wlFixedFromInt (-1)
  viewportSourceW := wlFixedFromInt (-1)
  viewportSourceH := wlFixedFromInt (-1)
  viewportDestWidth := -1
  viewportDestHeight := -1
  hasAlphaMode := false
  alphaMode := 0
  hasCoefRange := false
  coefficients := 0
  range := 0
  hasChromaLocation := false
  chromaLocation := 0
  imageDesc := none
  renderIntent := 0
  subsurfacesAbove := []
  subsurfacesBelow := []

/-- A `serial_pair` relates a plugin configure to the upstream configure that it answers. -/
structure SerialPair where
  pluginSerial : UInt32
  upstreamSerial : UInt32
  configWidth : UInt32
  configHeight : UInt32
  localOnly : Bool
  deriving DecidableEq

/-- The fields of a `forward_surface` keep their names. -/
structure ForwardSurface where
  client : WlClientId
  version : Nat
  hasBeenConfigured : Bool
  layerSurface : Option ResourceId
  swaySurface : Option OutputId
  inert : Bool
  subsurfaceParent : Option SurfaceId
  subsurface : Option ResourceId
  extSurface : AugmentedSurface
  extSubsurface : Bool
  subsurfPendingEntry : SubsurfaceEntry
  subsurfCommittedEntry : SubsurfaceEntry
  frameCallbacks : List ResourceId
  pending : SurfaceState
  committed : SurfaceState
  committedBufferWidth : UInt32
  committedBufferHeight : UInt32
  bufferDamage : List DamageRecord
  oldDamage : List DamageRecord
  lastUsedPluginSerial : UInt32
  lastAckedWidth : UInt32
  lastAckedHeight : UInt32
  serialTable : List SerialPair
  viewport : Option ResourceId
  fractionalScale : Option ResourceId
  colorSurface : Option ResourceId
  colorRepresentation : Option ResourceId

/-- A surface that `compositor_create_surface` just made has the default state twice. -/
def ForwardSurface.allocated (client : WlClientId) (version : Nat) : ForwardSurface where
  client := client
  version := version
  hasBeenConfigured := false
  layerSurface := none
  swaySurface := none
  inert := false
  subsurfaceParent := none
  subsurface := none
  extSurface := .none
  extSubsurface := false
  subsurfPendingEntry := ⟨0, 0, false, none⟩
  subsurfCommittedEntry := ⟨0, 0, false, none⟩
  frameCallbacks := []
  pending := defaultSurfaceState
  committed := defaultSurfaceState
  committedBufferWidth := 0
  committedBufferHeight := 0
  bufferDamage := []
  oldDamage := []
  lastUsedPluginSerial := 0
  lastAckedWidth := 0
  lastAckedHeight := 0
  serialTable := []
  viewport := none
  fractionalScale := none
  colorSurface := none
  colorRepresentation := none

/-- A resource keeps as its role the user data that its handlers read. -/
inductive Role where
  | viewport (surface : Option SurfaceId)
  | fractionalScale (surface : Option SurfaceId)
  | colorSurface (surface : Option SurfaceId)
  | colorRepresentation (surface : Option SurfaceId)
  | subsurface (surface : Option SurfaceId)
  | layerSurface (output : OutputId)
  | output (output : OutputId)
  | frameCallback
  deriving DecidableEq

/-- A resource belongs to one connection. -/
structure Resource where
  client : WlClientId
  role : Role

/-- A `frame_callbacks` record waits for one upstream frame callback. -/
structure FrameCallbacks where
  list : List ResourceId
  swaySurface : Option OutputId

/-- The scene is the part of `swaylock_state` that outputs and plugins share, with its transcript. -/
structure Scene where
  clock : Timespec
  eventloop : Loop FdCallback TimerCallback
  args : SwaylockArgs
  globals : ForwardState
  display : Bool
  descriptors : Descriptors
  startClientlessMode : Bool
  hiddenCheckTimer : Option TimerId
  mainClient : Option BgClientId
  clients : List BgClientId
  surfaces : List OutputId
  outputs : Heap SwaylockSurface
  bgClients : Heap SwaylockBgClient
  wlClients : Heap WlClient
  forwardSurfaces : Heap ForwardSurface
  forwardBuffers : Heap ForwardBuffer
  imageDescs : Heap ForwardImageDesc
  nextDescription : UpstreamDesc
  resources : Heap Resource
  frameCallbacks : Heap FrameCallbacks
  wire : List Message

namespace Scene

def output (scene : Scene) (id : OutputId) : Handled SwaylockSurface :=
  demand .invalidPointer (scene.outputs.cell id)

/-- A pointer to a plugin record is followed to it. -/
def bgClient (scene : Scene) (id : BgClientId) : Handled SwaylockBgClient :=
  demand .invalidPointer (scene.bgClients.cell id)

def forward (scene : Scene) (id : SurfaceId) : Handled ForwardSurface :=
  demand .invalidPointer (scene.forwardSurfaces.cell id)

def forwardBuffer (scene : Scene) (id : BufferId) : Handled ForwardBuffer :=
  demand .invalidPointer (scene.forwardBuffers.cell id)

def imageDesc (scene : Scene) (id : DescId) : Handled ForwardImageDesc :=
  demand .invalidPointer (scene.imageDescs.cell id)

def setOutput (scene : Scene) (id : OutputId) (change : SwaylockSurface → SwaylockSurface) : Scene :=
  { scene with outputs := scene.outputs.modify id change }

def setBgClient (scene : Scene) (id : BgClientId) (change : SwaylockBgClient → SwaylockBgClient) : Scene :=
  { scene with bgClients := scene.bgClients.modify id change }

def setForward (scene : Scene) (id : SurfaceId) (change : ForwardSurface → ForwardSurface) : Scene :=
  { scene with forwardSurfaces := scene.forwardSurfaces.modify id change }

def setBuffer (scene : Scene) (id : BufferId) (change : ForwardBuffer → ForwardBuffer) : Scene :=
  { scene with forwardBuffers := scene.forwardBuffers.modify id change }

def setImageDesc (scene : Scene) (id : DescId) (change : ForwardImageDesc → ForwardImageDesc) : Scene :=
  { scene with imageDescs := scene.imageDescs.modify id change }

/-- A resource changes its user data in place. -/
def setRole (scene : Scene) (id : ResourceId) (role : Role) : Scene :=
  { scene with resources := scene.resources.modify id fun resource => { resource with role := role } }

def tell (scene : Scene) (message : Message) : Scene :=
  { scene with wire := scene.wire ++ [message] }

/-- A request on an upstream surface is sent. -/
def request (scene : Scene) (target : Target) (request : SurfaceRequest) : Scene :=
  scene.tell (.surface target request)

def requestAll (scene : Scene) (target : Target) (requests : List SurfaceRequest) : Scene :=
  { scene with wire := scene.wire ++ requests.map (.surface target) }

/-- An error posted to a plugin closes its connection to further requests. -/
def postError (scene : Scene) (client : WlClientId) (error : PluginError) : Scene :=
  { scene with
    wlClients := scene.wlClients.modify client fun _ => ⟨true⟩
    wire := scene.wire ++ [.plugin (.error client error)] }

/-- A new timer is armed and its name returned. -/
def addTimer (scene : Scene) (ms : Int) (callback : TimerCallback) : Scene × TimerId :=
  ({ scene with eventloop := scene.eventloop.addTimer scene.clock ms callback },
    scene.eventloop.nextTimer)

def removeTimer (scene : Scene) (timer : TimerId) : Scene :=
  { scene with eventloop := scene.eventloop.removeTimer timer }

/-- A timer is removed from the loop where there is one. -/
def removeTimer? (scene : Scene) : Option TimerId → Scene
  | none => scene
  | some timer => scene.removeTimer timer

end Scene

end SwaylockPlugin
