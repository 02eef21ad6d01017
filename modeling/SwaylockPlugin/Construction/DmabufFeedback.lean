import SwaylockPlugin.Library.Machine
import SwaylockPlugin.Construction.Apply

namespace SwaylockPlugin.Dmabuf

open Library

/-- A format table is a file that descriptors refer to. -/
abbrev TableFile := Nat

/-- A descriptor keeps the name under which it was handed out, even where the kernel uses its number again. -/
abbrev FdId := Nat

/-- The memory of an array keeps the name under which it was handed out. -/
abbrev BlockId := Nat

/-- The dmabuf feedback of the compositor and of a plugin comes in these events. -/
inductive FeedbackEvent (Table : Type) where
  | formatTable (table : Table) (size : UInt32)
  | mainDevice (device : UInt64)
  | trancheTargetDevice (device : UInt64)
  | trancheFormats (indices : List UInt8)
  | trancheFlags (flags : UInt32)
  | trancheDone
  | done
  deriving DecidableEq

/-- A descriptor of a format table counts how often it was closed. -/
structure Descriptor where
  file : TableFile
  closes : Nat

/-- The memory of an array counts how often it was released. -/
structure Block where
  bytes : List UInt8
  releases : Nat

/-- This is the `feedback_tranche` structure, where an array without memory is empty. -/
structure FeedbackTranche where
  trancheDevice : UInt64
  indices : Option BlockId
  flags : UInt32

/-- This is the `dmabuf_feedback_state` structure, where the descriptor -1 is `none`. -/
structure DmabufFeedbackState where
  mainDevice : UInt64
  tableFd : Option FdId
  tableFdSize : UInt32
  tranches : List FeedbackTranche

/-- This is the part of the `forward_state` for the dmabuf feedback, with the descriptors, the memory of the arrays and
what each feedback object of a plugin received. -/
structure DmabufScene where
  current : DmabufFeedbackState
  pending : DmabufFeedbackState
  pendingTranche : FeedbackTranche
  fds : Heap Descriptor
  blocks : Heap Block
  feedbackInstances : Heap (List (FeedbackEvent (Option TableFile)))

/-- This is how `handle_global` initializes the pending and the current state. -/
def DmabufFeedbackState.zero : DmabufFeedbackState := ⟨0, none, 0, []⟩

/-- A tranche starts with these values. -/
def FeedbackTranche.zero : FeedbackTranche := ⟨0, none, 0⟩

/-- The feedback object was just created. -/
def DmabufScene.start : DmabufScene := ⟨.zero, .zero, .zero, .empty, .empty, .empty⟩

/-- A descriptor is closed once more. -/
def Descriptor.close (record : Descriptor) : Descriptor := { record with closes := record.closes + 1 }

/-- The memory of an array is released once more. -/
def Block.release (record : Block) : Block := { record with releases := record.releases + 1 }

/-- A descriptor is closed unless it is -1. -/
def closeFd (fds : Heap Descriptor) : Option FdId → Heap Descriptor
  | none => fds
  | some fd => fds.modify fd Descriptor.close

/-- The `wl_array_release` operation frees the memory of an array. -/
def wlArrayRelease (blocks : Heap Block) (block : BlockId) : Heap Block :=
  blocks.modify block Block.release

/-- The `wl_array_copy` operation takes memory for an array that has none where some is needed. -/
def wlArrayCopy (blocks : Heap Block) (bytes : List UInt8) : Option BlockId → Heap Block × Option BlockId
  | none => if bytes.isEmpty then (blocks, none) else (blocks.alloc ⟨bytes, 0⟩, some blocks.next)
  | some block => (blocks.modify block fun record => { record with bytes := bytes }, some block)

/-- These are the bytes of an array. -/
def bytesOf (blocks : Heap Block) (array : Option BlockId) : List UInt8 :=
  ((array.bind blocks.cell).map Block.bytes).getD []

/-- This is the file behind a descriptor. -/
def fileOf (fds : Heap Descriptor) (fd : Option FdId) : Option TableFile := (fd.bind fds.cell).map Descriptor.file

/-- A tranche is sent with these events. -/
def sendTranche (blocks : Heap Block) (tranche : FeedbackTranche) : List (FeedbackEvent (Option TableFile)) :=
  [.trancheTargetDevice tranche.trancheDevice, .trancheFlags tranche.flags,
    .trancheFormats (bytesOf blocks tranche.indices), .trancheDone]

def sendDmabufFeedbackData (scene : DmabufScene) (state : DmabufFeedbackState) :
    List (FeedbackEvent (Option TableFile)) :=
  [.mainDevice state.mainDevice, .formatTable (fileOf scene.fds state.tableFd) state.tableFdSize] ++
    state.tranches.flatMap (sendTranche scene.blocks) ++ [.done]

/-- The current state and its arrays and descriptor make way for the pending ones. -/
def replaceCurrent (scene : DmabufScene) : DmabufScene :=
  { scene with
    blocks := (scene.current.tranches.filterMap FeedbackTranche.indices).foldl wlArrayRelease scene.blocks
    fds := closeFd scene.fds scene.current.tableFd
    current := scene.pending
    pending := { scene.pending with tranches := [] } }

/-- The `dup` system call duplicates a descriptor that is open and returns -1 otherwise. -/
def dup (fds : Heap Descriptor) (fd : FdId) : Heap Descriptor × Option FdId :=
  match fds.cell fd with
  | some ⟨file, 0⟩ => (fds.alloc ⟨file, 0⟩, some fds.next)
  | _ => (fds, none)

/-- The pending state continues with a duplicate of the current descriptor unless that is -1. -/
def duplicateTable (scene : DmabufScene) : DmabufScene :=
  match scene.current.tableFd with
  | none => scene
  | some fd =>
      let (fds, copy) := dup scene.fds fd
      { scene with fds := fds, pending := { scene.pending with tableFd := copy } }

/-- The current state is sent to every feedback object. -/
def notifyInstances (scene : DmabufScene) : DmabufScene :=
  { scene with feedbackInstances := scene.feedbackInstances.mapAll fun _ received =>
      received ++ sendDmabufFeedbackData scene scene.current }

def dmabufFeedbackDone (scene : DmabufScene) : DmabufScene := notifyInstances (duplicateTable (replaceCurrent scene))

/-- This is the `dmabuf_feedback_format_table` operation for a new descriptor. -/
def dmabufFeedbackFormatTable (scene : DmabufScene) (file : TableFile) (size : UInt32) : DmabufScene :=
  { scene with
    fds := closeFd (scene.fds.alloc ⟨file, 0⟩) scene.pending.tableFd
    pending := { scene.pending with tableFd := some scene.fds.next, tableFdSize := size } }

def dmabufFeedbackMainDevice (scene : DmabufScene) (device : UInt64) : DmabufScene :=
  { scene with pending := { scene.pending with mainDevice := device } }

def dmabufFeedbackTrancheDone (scene : DmabufScene) : DmabufScene :=
  { scene with
    pending := { scene.pending with tranches := scene.pending.tranches ++ [scene.pendingTranche] }
    pendingTranche := .zero }

def dmabufFeedbackTrancheTargetDevice (scene : DmabufScene) (device : UInt64) : DmabufScene :=
  { scene with pendingTranche := { scene.pendingTranche with trancheDevice := device } }

def dmabufFeedbackTrancheFormats (scene : DmabufScene) (indices : List UInt8) : DmabufScene :=
  let (blocks, array) := wlArrayCopy scene.blocks indices scene.pendingTranche.indices
  { scene with blocks := blocks, pendingTranche := { scene.pendingTranche with indices := array } }

def dmabufFeedbackTrancheFlags (scene : DmabufScene) (flags : UInt32) : DmabufScene :=
  { scene with pendingTranche := { scene.pendingTranche with flags := flags } }

def dmabufFeedbackListener (scene : DmabufScene) : FeedbackEvent TableFile → DmabufScene
  | .formatTable table size => dmabufFeedbackFormatTable scene table size
  | .mainDevice device => dmabufFeedbackMainDevice scene device
  | .trancheTargetDevice device => dmabufFeedbackTrancheTargetDevice scene device
  | .trancheFormats indices => dmabufFeedbackTrancheFormats scene indices
  | .trancheFlags flags => dmabufFeedbackTrancheFlags scene flags
  | .trancheDone => dmabufFeedbackTrancheDone scene
  | .done => dmabufFeedbackDone scene

/-- These are the `nested_linux_dmabuf_get_default_feedback` and `nested_linux_dmabuf_get_surface_feedback`
operations. -/
def nestedLinuxDmabufGetFeedback (scene : DmabufScene) : DmabufScene :=
  { scene with feedbackInstances := scene.feedbackInstances.alloc (sendDmabufFeedbackData scene scene.current) }

/-- The compositor sends its feedback, and the plugins ask for feedback objects and destroy them. -/
inductive DmabufEvent where
  | feedback (event : FeedbackEvent TableFile)
  | getFeedback
  | destroyed (feedback : ResourceId)
  deriving DecidableEq

/-- An event runs its handler, of which none fails. -/
def handleDmabuf (scene : DmabufScene) : DmabufEvent → DmabufScene
  | .feedback event => dmabufFeedbackListener scene event
  | .getFeedback => nestedLinuxDmabufGetFeedback scene
  | .destroyed feedback => { scene with feedbackInstances := scene.feedbackInstances.free feedback }

/-- A plugin destroys only the feedback objects that it has. -/
def dmabufEnabled (scene : DmabufScene) : DmabufEvent → Bool
  | .destroyed feedback => scene.feedbackInstances.live feedback
  | _ => true

def feeding : Program DmabufScene DmabufEvent Halt where
  initial scene := scene = .start
  enabled scene event := dmabufEnabled scene event = true
  decideEnabled _ _ := inferInstance
  next scene event := .ok (handleDmabuf scene event)

end SwaylockPlugin.Dmabuf
