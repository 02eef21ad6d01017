import SwaylockPlugin.Construction.Scene

namespace SwaylockPlugin

/-- The configure cycle of an output uses these of its fields. -/
structure OutputCore where
  pluginSurface : Option SurfaceId
  extSessionLockSurface : Bool
  width : UInt32
  height : UInt32
  firstConfigureSerial : UInt32
  usedFirstConfigure : Bool
  hasPendingAckConf : Bool
  pendingUpstreamSerial : UInt32
  hasNewerSerial : Bool
  newestSerial : UInt32
  hasBuffer : Bool

/-- The core of an output forgets how it is timed, drawn and served. -/
def SwaylockSurface.core (output : SwaylockSurface) : OutputCore where
  pluginSurface := output.pluginSurface
  extSessionLockSurface := output.extSessionLockSurface
  width := output.width
  height := output.height
  firstConfigureSerial := output.firstConfigureSerial
  usedFirstConfigure := output.usedFirstConfigure
  hasPendingAckConf := output.hasPendingAckConf
  pendingUpstreamSerial := output.pendingUpstreamSerial
  hasNewerSerial := output.hasNewerSerial
  newestSerial := output.newestSerial
  hasBuffer := output.hasBuffer

/-- A look holds the values of a surface state that are forwarded when they change. -/
structure Look where
  bufferScale : Int32
  bufferTransform : Int32
  viewportSourceX : WlFixed
  viewportSourceY : WlFixed
  viewportSourceW : WlFixed
  viewportSourceH : WlFixed
  viewportDestWidth : Int32
  viewportDestHeight : Int32
  hasAlphaMode : Bool
  alphaMode : UInt32
  hasCoefRange : Bool
  coefficients : UInt32
  range : UInt32
  hasChromaLocation : Bool
  chromaLocation : UInt32
  imageDesc : Option DescId
  renderIntent : UInt32
  deriving DecidableEq

/-- The look of a surface state forgets its attachment, its offset and its stacks. -/
def SurfaceState.look (state : SurfaceState) : Look where
  bufferScale := state.bufferScale
  bufferTransform := state.bufferTransform
  viewportSourceX := state.viewportSourceX
  viewportSourceY := state.viewportSourceY
  viewportSourceW := state.viewportSourceW
  viewportSourceH := state.viewportSourceH
  viewportDestWidth := state.viewportDestWidth
  viewportDestHeight := state.viewportDestHeight
  hasAlphaMode := state.hasAlphaMode
  alphaMode := state.alphaMode
  hasCoefRange := state.hasCoefRange
  coefficients := state.coefficients
  range := state.range
  hasChromaLocation := state.hasChromaLocation
  chromaLocation := state.chromaLocation
  imageDesc := state.imageDesc
  renderIntent := state.renderIntent

/-- The configure cycle of a plugin surface uses these of its fields. -/
structure PluginCycle where
  hasBeenConfigured : Bool
  lastUsedPluginSerial : UInt32
  lastAckedWidth : UInt32
  lastAckedHeight : UInt32
  serialTable : List SerialPair

/-- The part of a plugin surface that the configure cycle uses stands in one record. -/
def ForwardSurface.cycle (surface : ForwardSurface) : PluginCycle where
  hasBeenConfigured := surface.hasBeenConfigured
  lastUsedPluginSerial := surface.lastUsedPluginSerial
  lastAckedWidth := surface.lastAckedWidth
  lastAckedHeight := surface.lastAckedHeight
  serialTable := surface.serialTable

/-- The content of a plugin surface consists of its attachments and of the size of the last buffer. -/
structure AttachmentCore where
  pending : Attachment
  committed : Attachment
  width : UInt32
  height : UInt32

/-- The attachments of a plugin surface stand in one record. -/
def ForwardSurface.attachments (surface : ForwardSurface) : AttachmentCore where
  pending := surface.pending.attachment
  committed := surface.committed.attachment
  width := surface.committedBufferWidth
  height := surface.committedBufferHeight

/-- A plugin surface in a role has a configure cycle. -/
structure RoleCore where
  role : Option OutputId
  cycle : PluginCycle

/-- The role and the cycle of a plugin surface stand in one record. -/
def ForwardSurface.roleCore (surface : ForwardSurface) : RoleCore :=
  ⟨surface.swaySurface, surface.cycle⟩

/-- The core of a plugin surface consists of its role, its attachments and its committed look. -/
structure SurfaceCore where
  roleCore : RoleCore
  attachments : AttachmentCore
  committed : Look

/-- The core of a plugin surface forgets its pending look, its extension objects and its stacks. -/
def ForwardSurface.core (surface : ForwardSurface) : SurfaceCore where
  roleCore := surface.roleCore
  attachments := surface.attachments
  committed := surface.committed.look

/-- A message aside concerns neither a lock surface nor its configure cycle. -/
def Message.aside : Message → Bool
  | .surface (.ext _) _ => true
  | .subsurface _ _ => true
  | .plugin _ => true
  | .surface (.lock _) _ => false
  | .configured _ _ _ _ => false
  | .ackConfigure _ _ => false

/-- An entry is a message that concerns the lock surface of one output or its configure cycle. -/
inductive Entry where
  | configured (serial width height : UInt32)
  | acknowledged (serial : UInt32)
  | request (request : SurfaceRequest)
  deriving DecidableEq

/-- A message is an entry of the output that it names. -/
def Message.entry (output : OutputId) : Message → Option Entry
  | .configured target serial width height =>
      if target = output then some (.configured serial width height) else none
  | .ackConfigure target serial => if target = output then some (.acknowledged serial) else none
  | .surface (.lock target) request => if target = output then some (.request request) else none
  | .surface (.ext _) _ => none
  | .subsurface _ _ => none
  | .plugin _ => none

/-- The entries of an output stand in the order of the transcript. -/
def entriesOf (output : OutputId) (wire : List Message) : List Entry := wire.filterMap (Message.entry output)

theorem Message.entry_aside {message : Message} (aside : message.aside = true) (output : OutputId) :
    message.entry output = none := by
  cases message with
  | surface target request =>
      cases target with
      | lock id => cases aside
      | ext id => rfl
  | configured => cases aside
  | ackConfigure => cases aside
  | subsurface => rfl
  | plugin => rfl

@[simp] theorem entriesOf_nil (output : OutputId) : entriesOf output [] = [] := rfl

@[simp] theorem entriesOf_append (output : OutputId) (first second : List Message) :
    entriesOf output (first ++ second) = entriesOf output first ++ entriesOf output second :=
  List.filterMap_append

@[simp] theorem entriesOf_cons (output : OutputId) (message : Message) (rest : List Message) :
    entriesOf output (message :: rest) = (message.entry output).toList ++ entriesOf output rest := by
  unfold entriesOf
  cases found : message.entry output with
  | none => rw [List.filterMap_cons_none found, Option.toList_none, List.nil_append]
  | some entry => rw [List.filterMap_cons_some found, Option.toList_some, List.singleton_append]

theorem entriesOf_aside (output : OutputId) {messages : List Message}
    (aside : ∀ message ∈ messages, message.aside = true) : entriesOf output messages = [] := by
  apply List.filterMap_eq_nil_iff.mpr
  intro message member
  exact Message.entry_aside (aside message member) output

/-- The serials of the configure entries stand in order. -/
def issuedIn (log : List Entry) : List UInt32 :=
  log.filterMap fun
    | .configured serial _ _ => some serial
    | _ => none

/-- The acknowledged serials stand in order. -/
def ackedIn (log : List Entry) : List UInt32 :=
  log.filterMap fun
    | .acknowledged serial => some serial
    | _ => none

/-- The requests stand in order. -/
def requestsIn (log : List Entry) : List SurfaceRequest :=
  log.filterMap fun
    | .request request => some request
    | _ => none

theorem issued_eq (output : OutputId) (wire : List Message) : issued output wire = issuedIn (entriesOf output wire) := by
  unfold issued issuedIn entriesOf
  rw [List.filterMap_filterMap]
  congr 1
  funext message
  rcases message with ⟨target, serial, width, height⟩ | ⟨target, serial⟩ | ⟨target | _, request⟩ | _ | _
  all_goals (try by_cases same : target = output) <;> simp_all [Message.entry]

/-- The serials that a transcript acknowledged for an output are those of its entries. -/
theorem acknowledged_eq (output : OutputId) (wire : List Message) :
    acknowledged output wire = ackedIn (entriesOf output wire) := by
  unfold acknowledged ackedIn entriesOf
  rw [List.filterMap_filterMap]
  congr 1
  funext message
  rcases message with ⟨target, serial, width, height⟩ | ⟨target, serial⟩ | ⟨target | _, request⟩ | _ | _
  all_goals (try by_cases same : target = output) <;> simp_all [Message.entry]

theorem requestsOn_eq (output : OutputId) (wire : List Message) :
    requestsOn (.lock output) wire = requestsIn (entriesOf output wire) := by
  unfold requestsOn requestsIn entriesOf
  rw [List.filterMap_filterMap]
  congr 1
  funext message
  rcases message with ⟨target, serial, width, height⟩ | ⟨target, serial⟩ | ⟨target | _, request⟩ | _ | _
  all_goals (try by_cases same : target = output) <;> simp_all [Message.entry]

end SwaylockPlugin
