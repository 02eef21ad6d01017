import SwaylockPlugin.Library.Machine
import SwaylockPlugin.Library.Outcome
import SwaylockPlugin.Construction.Listener

namespace SwaylockPlugin.ForwardArrays

open Library Listener

/-- A growing array stops the program where one of its assertions fails. The other two faults are those that no
assertion catches, a loop without end and a write behind the memory of the array. -/
inductive GrowthFault where
  | lengthAssertion
  | sizeAssertion
  | memoryAssertion
  | endless
  | outOfBounds
  deriving DecidableEq

/-- The number of values of a `size_t`. -/
def sizeValues (model : DataModel) : ℕ := 2 ^ (8 * model.pointerSize)

/-- This is `SIZE_MAX`. -/
def sizeMax (model : DataModel) : ℕ := sizeValues model - 1

/-- This is the loop that shifts `p` to the left while it is below `n`. After as many rounds as there are bits nothing
is left of `p`, and a loop that still goes on then never ends. -/
def shiftWhileBelow (model : DataModel) (n : ℕ) : ℕ → ℕ → Option ℕ
  | 0, p => if p < n then none else some p
  | rounds + 1, p => if p < n then shiftWhileBelow model n rounds (p * 2 % sizeValues model) else some p

/-- This is `next_power_of_two`. -/
def nextPowerOfTwo (model : DataModel) (n : ℕ) : Except GrowthFault ℕ := do
  require .lengthAssertion (decide (n ≤ sizeMax model / 2))
  if n = 0 then
    return 0
  demand .endless (shiftWhileBelow model n (8 * model.pointerSize) 1)

/-- An array has the cells of its memory, of which none are there for the null pointer, and a length. A cell that was
not yet written is empty. -/
structure ElementArray (Element : Type) where
  data : List (Option Element)
  currentLen : ℕ

namespace ElementArray

variable {Element : Type}

/-- An array starts as the null pointer with length zero. -/
def null : ElementArray Element := ⟨[], 0⟩

/-- The capacity is the number of cells in the memory of the array. -/
def capacity (array : ElementArray Element) : ℕ := array.data.length

/-- This is `realloc`, which keeps the cells for which the new memory has room. -/
def realloc (data : List (Option Element)) (cells : ℕ) : List (Option Element) :=
  data.take cells ++ List.replicate (cells - data.length) none

end ElementArray

section

variable {Element : Type} (model : DataModel) (elementSize : ℕ)

/-- The memory of an array is enlarged where its capacity changes, if the allocator grants it. -/
def reserve (granted : Bool) (data : List (Option Element)) (capacity nextCapacity : ℕ) :
    Except GrowthFault (List (Option Element)) := do
  if nextCapacity = capacity then
    return data
  require .sizeAssertion (decide (nextCapacity ≤ sizeMax model / elementSize))
  require .memoryAssertion granted
  -- the allocator counts bytes, and the product may wrap around
  return ElementArray.realloc data (elementSize * nextCapacity % sizeValues model / elementSize)

/-- This is `add_one_element`. -/
def addOneElement (granted : Bool) (array : ElementArray Element) : Except GrowthFault (ElementArray Element) := do
  let capacity ← nextPowerOfTwo model array.currentLen
  let nextCapacity ← nextPowerOfTwo model ((array.currentLen + 1) % sizeValues model)
  let data ← reserve model elementSize granted array.data capacity nextCapacity
  return { data, currentLen := (array.currentLen + 1) % sizeValues model }

/-- The callers write their element at the index `length - 1`. -/
def writeLast (array : ElementArray Element) (element : Element) : Except GrowthFault (ElementArray Element) := do
  let index := (array.currentLen + (sizeValues model - 1)) % sizeValues model
  require .outOfBounds (decide (index < array.data.length))
  return { array with data := array.data.set index (some element) }

/-- A listener adds one element to its array and writes what the compositor announced. -/
def handleElement (granted : Bool) (array : ElementArray Element) (element : Element) :
    Except GrowthFault (ElementArray Element) := do
  let grown ← addOneElement model elementSize granted array
  writeLast model grown element

/-- The calls on an array come one after the other, each with the answer of the allocator and an element. -/
def calls : Program (ElementArray Element) (Bool × Element) GrowthFault where
  initial array := array = .null
  enabled _ _ := True
  decideEnabled _ _ := .isTrue trivial
  next array call := handleElement model elementSize call.1 array call.2

end

structure DmabufModifierPair where
  format : UInt32
  modifierHi : UInt32
  modifierLo : UInt32
  deriving DecidableEq

structure ColorCoefRange where
  coefficients : UInt32
  range : UInt32
  deriving DecidableEq

/-- A `uint32_t` has four bytes. -/
def uint32Size : ℕ := int32.size

/-- This is the size of a `dmabuf_modifier_pair`. -/
def dmabufModifierPairSize : ℕ := (Shape.struct [int32, int32, int32]).size

/-- This is the size of a `color_coef_range`. -/
def colorCoefRangeSize : ℕ := (Shape.struct [int32, int32]).size

/-- This is the size of a `feedback_tranche`, which has a device, an array of indices and flags. -/
def feedbackTrancheSize (model : DataModel) : ℕ :=
  (Shape.struct [.scalar 8, .struct [long model, long model, pointer model], int32]).size

section

variable (model : DataModel) (granted : Bool)

/-- This is `wl_shm_handle_format` over `shm_formats`. -/
def wlShmHandleFormat (shmFormats : ElementArray UInt32) (format : UInt32) :=
  handleElement model uint32Size granted shmFormats format

/-- This is `linux_dmabuf_handle_modifier` over `dmabuf_formats`. -/
def linuxDmabufHandleModifier (dmabufFormats : ElementArray DmabufModifierPair)
    (format modifierHi modifierLo : UInt32) :=
  handleElement model dmabufModifierPairSize granted dmabufFormats ⟨format, modifierHi, modifierLo⟩

/-- This is what `dmabuf_feedback_tranche_done` does to the pending tranches. -/
def dmabufFeedbackTrancheDone {Tranche : Type} (tranches : ElementArray Tranche) (pendingTranche : Tranche) :=
  handleElement model (feedbackTrancheSize model) granted tranches pendingTranche

/-- This is `color_supported_intent` over `supported_intents`. -/
def colorSupportedIntent (supportedIntents : ElementArray UInt32) (renderIntent : UInt32) :=
  handleElement model uint32Size granted supportedIntents renderIntent

/-- This is `color_supported_feature` over `supported_features`. -/
def colorSupportedFeature (supportedFeatures : ElementArray UInt32) (feature : UInt32) :=
  handleElement model uint32Size granted supportedFeatures feature

/-- This is `color_supported_tf` over `supported_tfs`. -/
def colorSupportedTf (supportedTfs : ElementArray UInt32) (tf : UInt32) :=
  handleElement model uint32Size granted supportedTfs tf

/-- This is `color_supported_primaries` over `supported_primaries`. -/
def colorSupportedPrimaries (supportedPrimaries : ElementArray UInt32) (primaries : UInt32) :=
  handleElement model uint32Size granted supportedPrimaries primaries

/-- This is `color_alpha_mode` over `alpha_modes`. -/
def colorAlphaMode (alphaModes : ElementArray UInt32) (alphaMode : UInt32) :=
  handleElement model uint32Size granted alphaModes alphaMode

/-- This is `color_coef_range` over `coef_range_pairs`. -/
def colorCoefRange (coefRangePairs : ElementArray ColorCoefRange) (coefficients range : UInt32) :=
  handleElement model colorCoefRangeSize granted coefRangePairs ⟨coefficients, range⟩

end

end SwaylockPlugin.ForwardArrays
