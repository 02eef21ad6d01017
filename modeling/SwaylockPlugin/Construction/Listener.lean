import SwaylockPlugin.Library.Layout
import SwaylockPlugin.Construction.Apply

namespace SwaylockPlugin.Listener

open Library

/-- The usual data models have pointers and long words of four or of eight bytes. -/
inductive DataModel where
  | ilp32
  | lp64
  deriving DecidableEq

/-- This is the size of a pointer in bytes. -/
def DataModel.pointerSize : DataModel → Nat
  | .ilp32 => 4
  | .lp64 => 8

/-- A pointer is aligned to its size. -/
def pointer (model : DataModel) : Shape := .scalar model.pointerSize

/-- A `size_t`, a `time_t` and a `long` have the size of a pointer. -/
def long (model : DataModel) : Shape := .scalar model.pointerSize

/-- An `int`, an enumeration and a `uint32_t` have four bytes. -/
def int32 : Shape := .scalar 4

/-- A `bool` has one byte. -/
def bool : Shape := .scalar 1

/-- A `wl_list` has two pointers. -/
def wlList (model : DataModel) : Shape := .struct [pointer model, pointer model]

/-- A `timespec` has seconds and nanoseconds. -/
def timespec (model : DataModel) : Shape := .struct [long model, long model]

def augmentedSurface (model : DataModel) : Shape :=
  .struct [pointer model, pointer model, pointer model, pointer model]

def poolBuffer (model : DataModel) : Shape :=
  .struct [pointer model, pointer model, pointer model, int32, int32, pointer model, long model, bool]

/-- These are the fields of an `image_description_state`. -/
inductive StateField where
  | infoRequest
  | dirty
  | pending
  | current
  | surface
  | state
  deriving DecidableEq

def imageDescriptionState (model : DataModel) : List (StateField × Shape) :=
  [(.infoRequest, pointer model), (.dirty, bool), (.pending, pointer model), (.current, pointer model),
    (.surface, pointer model), (.state, pointer model)]

/-- These are the fields of an `image_description_properties` record, in which coordinates stay together. -/
inductive PropertiesField where
  | failed
  | failureCause
  | failureReason
  | iccProfile
  | iccProfileLen
  | hasTf
  | tf
  | hasEexp
  | eexp
  | hasPrimariesNamed
  | primariesNamed
  | hasPrimaries
  | primaries
  | hasLuminances
  | luminances
  | hasMasteringDisplayPrimaries
  | masteringDisplayPrimaries
  | hasMasteringLuminance
  | masteringLuminance
  | hasMaxCll
  | maxCll
  | hasMaxFall
  | maxFall
  | description
  | colorIdentityV2
  | colorIdentityV1
  | referenceCount
  deriving DecidableEq

def imageDescriptionProperties (model : DataModel) : List (PropertiesField × Shape) :=
  [(.failed, bool), (.failureCause, int32), (.failureReason, pointer model), (.iccProfile, int32),
    (.iccProfileLen, int32), (.hasTf, bool), (.tf, int32), (.hasEexp, bool), (.eexp, int32),
    (.hasPrimariesNamed, bool), (.primariesNamed, int32), (.hasPrimaries, bool), (.primaries, .array 8 int32),
    (.hasLuminances, bool), (.luminances, .array 3 int32), (.hasMasteringDisplayPrimaries, bool),
    (.masteringDisplayPrimaries, .array 8 int32), (.hasMasteringLuminance, bool),
    (.masteringLuminance, .array 2 int32), (.hasMaxCll, bool), (.maxCll, int32), (.hasMaxFall, bool),
    (.maxFall, int32), (.description, pointer model), (.colorIdentityV2, .array 2 int32), (.colorIdentityV1, int32),
    (.referenceCount, long model)]

/-- These are the fields of a `swaylock_surface`. -/
inductive SurfaceField where
  | image
  | state
  | output
  | outputGlobalName
  | surface
  | child
  | subsurface
  | pluginSurface
  | framePending
  | framePendingSince
  | frameLastDone
  | extSessionLockSurface
  | fractionalScale
  | colorOutput
  | colorOutputDescription
  | lastFractionalScale
  | indicatorBuffers
  | created
  | dirty
  | width
  | height
  | scale
  | hasOutputDone
  | subpixel
  | outputName
  | outputDescription
  | physicalWidth
  | physicalHeight
  | outputTransform
  | modeWidth
  | modeHeight
  | link
  | frame
  | outputDesc
  | nestedServerOutput
  | nestedServerWlOutputResources
  | nestedServerXdgOutputResources
  | nestedServerColorOutputResources
  | nestedServerColorFeedbackResources
  | firstConfigureSerial
  | usedFirstConfigure
  | hasPendingAckConf
  | pendingUpstreamSerial
  | hasNewerSerial
  | newestSerial
  | hasBuffer
  | client
  | clientSubmissionTimer
  deriving DecidableEq

/-- The description state of an output is a part of the output. -/
def outputDesc (model : DataModel) : Shape := .struct ((imageDescriptionState model).map Prod.snd)

def swaylockSurface (model : DataModel) : List (SurfaceField × Shape) :=
  [(.image, pointer model), (.state, pointer model), (.output, pointer model), (.outputGlobalName, int32),
    (.surface, augmentedSurface model), (.child, pointer model), (.subsurface, pointer model),
    (.pluginSurface, pointer model), (.framePending, bool), (.framePendingSince, timespec model),
    (.frameLastDone, timespec model), (.extSessionLockSurface, pointer model), (.fractionalScale, pointer model),
    (.colorOutput, pointer model), (.colorOutputDescription, pointer model), (.lastFractionalScale, int32),
    (.indicatorBuffers, .array 2 (poolBuffer model)), (.created, bool), (.dirty, bool), (.width, int32),
    (.height, int32), (.scale, int32), (.hasOutputDone, bool), (.subpixel, int32), (.outputName, pointer model),
    (.outputDescription, pointer model), (.physicalWidth, int32), (.physicalHeight, int32), (.outputTransform, int32),
    (.modeWidth, int32), (.modeHeight, int32), (.link, wlList model), (.frame, pointer model),
    (.outputDesc, outputDesc model), (.nestedServerOutput, pointer model),
    (.nestedServerWlOutputResources, wlList model), (.nestedServerXdgOutputResources, wlList model),
    (.nestedServerColorOutputResources, wlList model), (.nestedServerColorFeedbackResources, wlList model),
    (.firstConfigureSerial, int32), (.usedFirstConfigure, bool), (.hasPendingAckConf, bool),
    (.pendingUpstreamSerial, int32), (.hasNewerSerial, bool), (.newestSerial, int32), (.hasBuffer, bool),
    (.client, pointer model), (.clientSubmissionTimer, pointer model)]

/-- This is the size of a `swaylock_surface`. -/
def surfaceSize (model : DataModel) : Nat := (Shape.struct ((swaylockSurface model).map Prod.snd)).size

/-- This is the size of an `image_description_properties` record. -/
def propertiesSize (model : DataModel) : Nat :=
  (Shape.struct ((imageDescriptionProperties model).map Prod.snd)).size

/-- A field of a description state has an address. -/
def stateField (model : DataModel) (state : Nat) (field : StateField) : Nat :=
  state + offsetFrom 0 (imageDescriptionState model) field

/-- A field of a properties record has an address. -/
def propertiesField (model : DataModel) (properties : Nat) (field : PropertiesField) : Nat :=
  properties + offsetFrom 0 (imageDescriptionProperties model) field

/-- A field of an output has an address. -/
def surfaceField (model : DataModel) (surface : Nat) (field : SurfaceField) : Nat :=
  surface + offsetFrom 0 (swaylockSurface model) field

/-- The listeners for the color output and for the image description of an output are of different types. -/
inductive ListenerKind where
  | colorOutput
  | imageOutputDesc
  deriving DecidableEq

/-- These requests are made for the description of an output or of the default surface. -/
inductive ColorRequest where
  | getOutput (output : Nat)
  | getImageDescription (colorOutput : Nat)
  | getPreferredParametric (feedback : Nat)
  deriving DecidableEq

/-- The process has its memory, the listeners of the upstream objects with their data, the requests that it made, and
the feedback object behind its state. -/
structure World where
  memory : Memory
  listeners : Nat → Option (ListenerKind × Nat)
  requests : List ColorRequest
  testFeedback : Nat

/-- The allocator and the upstream connection hand out new objects. -/
structure Fresh where
  properties : Nat
  description : Nat
  colorOutput : Nat

namespace World

/-- A pointer is read. -/
def readPointer (world : World) (model : DataModel) (address : Nat) : Nat :=
  world.memory.read address model.pointerSize

/-- A pointer is written. -/
def writePointer (world : World) (model : DataModel) (address value : Nat) : World :=
  { world with memory := world.memory.write address value model.pointerSize }

/-- A boolean is written. -/
def writeBool (world : World) (address : Nat) (value : Bool) : World :=
  { world with memory := world.memory.write address value.toNat 1 }

/-- An object gets a listener with its data. -/
def addListener (world : World) (proxy : Nat) (kind : ListenerKind) (data : Nat) : World :=
  { world with listeners := Function.update world.listeners proxy (some (kind, data)) }

/-- A request is made. -/
def request (world : World) (request : ColorRequest) : World :=
  { world with requests := world.requests ++ [request] }

end World

/-- This is the `create_image_description_props` operation for the memory that was allocated. -/
def createImageDescriptionProps (model : DataModel) (world : World) (properties : Nat) : World :=
  let memory := world.memory.write properties 0 (propertiesSize model)
  let memory := memory.write (propertiesField model properties .iccProfile) 0xffffffff 4
  { world with memory := memory.write (propertiesField model properties .referenceCount) 1 model.pointerSize }

/-- The pending properties of a description state have a new description whose listener has the state as its data. -/
def awaitDescription (model : DataModel) (fresh : Fresh) (world : World) (state : Nat) (ask : ColorRequest) : World :=
  let world := createImageDescriptionProps model world fresh.properties
  let world := world.writePointer model (stateField model state .pending) fresh.properties
  let world := (world.request ask).writePointer model (propertiesField model fresh.properties .description)
    fresh.description
  world.addListener fresh.description .imageOutputDesc state

def setupColorManagementForSurface (model : DataModel) (fresh : Fresh) (world : World) (surface : Nat) : World :=
  let world := world.request (.getOutput (world.readPointer model (surfaceField model surface .output)))
  let world := world.writePointer model (surfaceField model surface .colorOutput) fresh.colorOutput
  let world := world.addListener fresh.colorOutput .colorOutput surface
  let outputDesc := surfaceField model surface .outputDesc
  let world := world.writePointer model (stateField model outputDesc .surface) surface
  awaitDescription model fresh world outputDesc (.getImageDescription fresh.colorOutput)

/-- This is the part of `handle_global` that fills in a new output before its color management is set up. -/
def handleGlobalOutput (model : DataModel) (world : World) (surface state output name : Nat) : World :=
  let world := { world with memory := world.memory.write surface 0 (surfaceSize model) }
  let world := world.writePointer model (surfaceField model surface .state) state
  let world := world.writePointer model (surfaceField model surface .output) output
  { world with memory := world.memory.write (surfaceField model surface .outputGlobalName) name 4 }

/-- A new description is asked for at the output of a description state, or at the feedback of the default surface. -/
def descriptionRequest (model : DataModel) (world : World) (state : Nat) : Handled ColorRequest := do
  let surface := world.readPointer model (stateField model state .surface)
  if surface != 0 then
    return .getImageDescription (world.readPointer model (surfaceField model surface .colorOutput))
  else do
    check (world.readPointer model (stateField model state .state) != 0)
    return .getPreferredParametric world.testFeedback

def requestNewImageDesc (model : DataModel) (fresh : Fresh) (world : World) (state : Nat) : Handled World := do
  let world := world.writeBool (stateField model state .dirty) false
  check (world.readPointer model (stateField model state .pending) == 0)
  check (world.readPointer model (stateField model state .infoRequest) == 0)
  let ask ← descriptionRequest model world state
  return awaitDescription model fresh world state ask

/-- This is the `color_output_handle_image_desc_changed` operation, which takes its data for a description state. -/
def colorOutputHandleImageDescChanged (model : DataModel) (fresh : Fresh) (world : World) (data : Nat) :
    Handled World :=
  if world.readPointer model (stateField model data .pending) != 0 then
    return world.writeBool (stateField model data .dirty) true
  else requestNewImageDesc model fresh world data

/-- The `image_description_changed` event of a color output calls its listener with the data that was registered. -/
def imageDescriptionChanged (model : DataModel) (fresh : Fresh) (world : World) (colorOutput : Nat) : Handled World :=
  match world.listeners colorOutput with
  | some (.colorOutput, data) => colorOutputHandleImageDescChanged model fresh world data
  | _ => return world

end SwaylockPlugin.Listener
