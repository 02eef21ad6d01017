import SwaylockPlugin.Construction.Listener

namespace SwaylockPlugin.Listener

open Library

/-- A live output has a pointer to the aligned state of the program and one to its upstream output, and its color output
has the listener that was registered for it. -/
structure LiveOutput (model : DataModel) (world : World) (surface : Nat) : Prop where
  state : world.readPointer model (surfaceField model surface .state) % model.pointerSize = 0
  output : world.readPointer model (surfaceField model surface .output) ≠ 0
  listens : world.listeners (world.readPointer model (surfaceField model surface .colorOutput)) =
    some (.colorOutput, surface)

/-- A change of an output's description changes no byte of the outputs but the ones of that description, marks it where
properties are pending and otherwise asks for new ones. -/
structure OnlyDescription (model : DataModel) (outputs : List Nat) (surface : Nat) (world after : World) : Prop where
  others : ∀ other ∈ outputs, ∀ byte, other ≤ byte → byte < other + surfaceSize model →
    byte < surfaceField model surface .outputDesc ∨
      surfaceField model surface .outputDesc + (outputDesc model).size ≤ byte →
    after.memory byte = world.memory byte
  marks : world.readPointer model (stateField model (surfaceField model surface .outputDesc) .pending) ≠ 0 →
    after.memory.read (stateField model (surfaceField model surface .outputDesc) .dirty) 1 = 1 ∧
      after.requests = world.requests
  asks : world.readPointer model (stateField model (surfaceField model surface .outputDesc) .pending) = 0 →
    after.readPointer model (stateField model (surfaceField model surface .outputDesc) .pending) ≠ 0 ∧
      after.requests = world.requests ++
        [.getImageDescription (world.readPointer model (surfaceField model surface .colorOutput))]

section Offsets

variable (model : DataModel) (surface : Nat)

/-- The pending properties of what is taken for a description state are the upstream output of an output. -/
theorem pending_is_output : stateField model surface .pending = surfaceField model surface .output := by
  cases model <;> rfl

/-- The mark of what is taken for a description state is the first byte of an output's pointer to the state. -/
theorem dirty_is_state : stateField model surface .dirty = surfaceField model surface .state := by
  cases model <;> rfl

theorem pointerSize_even : 0 < model.pointerSize ∧ 2 ∣ model.pointerSize := by
  cases model <;> decide

theorem fields_apart :
    offsetFrom 0 (swaylockSurface model) .state + model.pointerSize ≤ offsetFrom 0 (swaylockSurface model) .output ∧
    offsetFrom 0 (swaylockSurface model) .output + model.pointerSize ≤
      offsetFrom 0 (swaylockSurface model) .outputGlobalName ∧
    offsetFrom 0 (swaylockSurface model) .outputGlobalName + 4 ≤ offsetFrom 0 (swaylockSurface model) .colorOutput ∧
    offsetFrom 0 (swaylockSurface model) .colorOutput + model.pointerSize ≤
      offsetFrom 0 (swaylockSurface model) .outputDesc ∧
    offsetFrom 0 (swaylockSurface model) .outputDesc + (outputDesc model).size ≤ surfaceSize model := by
  cases model <;> decide +kernel

theorem properties_inside :
    offsetFrom 0 (imageDescriptionProperties model) .iccProfile + 4 ≤ propertiesSize model ∧
    offsetFrom 0 (imageDescriptionProperties model) .referenceCount + model.pointerSize ≤ propertiesSize model ∧
    offsetFrom 0 (imageDescriptionProperties model) .description + model.pointerSize ≤ propertiesSize model := by
  cases model <;> decide

end Offsets

variable {model : DataModel} {world : World} {surface : Nat}

/-- The event of a live output writes a mark over the first byte of the output's pointer to the state. -/
theorem changed_marks (live : LiveOutput model world surface) (fresh : Fresh) :
    imageDescriptionChanged model fresh world (world.readPointer model (surfaceField model surface .colorOutput)) =
      .ok (world.writeBool (surfaceField model surface .state) true) := by
  rw [imageDescriptionChanged, live.listens]
  show colorOutputHandleImageDescChanged model fresh world surface = _
  rw [colorOutputHandleImageDescChanged, pending_is_output, dirty_is_state, if_pos (bne_iff_ne.mpr live.output)]
  rfl

theorem LiveOutput.even (live : LiveOutput model world surface) :
    (world.memory (surfaceField model surface .state)).toNat % 2 = 0 := by
  obtain ⟨positive, even⟩ := pointerSize_even model
  refine world.memory.even_lowest positive ?_
  have aligned : model.pointerSize ∣ world.memory.read (surfaceField model surface .state) model.pointerSize :=
    Nat.dvd_of_mod_eq_zero live.state
  exact Nat.mod_eq_zero_of_dvd (Nat.dvd_trans even aligned)

theorem changed_elsewhere (live : LiveOutput model world surface) {outputs : List Nat} (listed : surface ∈ outputs) :
    ¬ OnlyDescription model outputs surface world (world.writeBool (surfaceField model surface .state) true) := by
  intro only
  obtain ⟨first, second, third, fourth, last⟩ := fields_apart model
  have positive := (pointerSize_even model).1
  have kept : (world.writeBool (surfaceField model surface .state) true).memory (surfaceField model surface .state) =
      world.memory (surfaceField model surface .state) := by
    refine only.others surface listed _ (Nat.le_add_right _ _) ?_ (.inl ?_)
    · unfold surfaceField
      omega
    · unfold surfaceField
      omega
  have written : (world.writeBool (surfaceField model surface .state) true).memory (surfaceField model surface .state) =
      1 := Function.update_self ..
  have even := live.even
  rw [← kept, written] at even
  exact absurd even (by decide)

/-- Whatever the state of the outputs is, the change of the description of a live output changes something else. -/
theorem description_change_strays {outputs : List Nat} (live : LiveOutput model world surface)
    (listed : surface ∈ outputs) (fresh : Fresh) :
    ¬ ∃ after, imageDescriptionChanged model fresh world
        (world.readPointer model (surfaceField model surface .colorOutput)) = .ok after ∧
      OnlyDescription model outputs surface world after := by
  rintro ⟨after, computed, only⟩
  rw [changed_marks live fresh] at computed
  cases computed
  exact changed_elsewhere live listed only

section Setup

variable {fresh : Fresh}

theorem createProps_read {properties address size : Nat}
    (apart : address + size ≤ properties ∨ properties + propertiesSize model ≤ address) :
    (createImageDescriptionProps model world properties).memory.read address size = world.memory.read address size := by
  obtain ⟨icc, count, _⟩ := properties_inside model
  unfold createImageDescriptionProps propertiesField
  rw [Memory.read_write_apart _ _ (by omega), Memory.read_write_apart _ _ (by omega),
    Memory.read_write_apart _ _ apart]

theorem await_read {state address size : Nat} {ask : ColorRequest}
    (apart : address + size ≤ fresh.properties ∨ fresh.properties + propertiesSize model ≤ address)
    (aside : address + size ≤ state) :
    (awaitDescription model fresh world state ask).memory.read address size = world.memory.read address size := by
  obtain ⟨_, _, description⟩ := properties_inside model
  show (Memory.write _ _ _ _).read address size = _
  unfold propertiesField
  rw [Memory.read_write_apart _ _ (by omega)]
  show (Memory.write _ _ _ _).read address size = _
  unfold stateField
  rw [Memory.read_write_apart _ _ (by omega), createProps_read apart]

theorem setup_field (world : World) {field : SurfaceField}
    (before : offsetFrom 0 (swaylockSurface model) field + model.pointerSize ≤
      offsetFrom 0 (swaylockSurface model) .colorOutput)
    (apart : fresh.properties + propertiesSize model ≤ surface ∨ surface + surfaceSize model ≤ fresh.properties) :
    (setupColorManagementForSurface model fresh world surface).readPointer model (surfaceField model surface field) =
      world.readPointer model (surfaceField model surface field) := by
  obtain ⟨_, _, _, color, last⟩ := fields_apart model
  refine (await_read (by unfold surfaceField; omega) (by unfold surfaceField; omega)).trans ?_
  show (Memory.write _ _ _ _).read _ _ = _
  unfold stateField surfaceField
  rw [Memory.read_write_apart _ _ (by omega)]
  exact Memory.read_write_apart _ _ (by omega)

theorem handleGlobalOutput_fields (world : World) {state output : Nat} (name : Nat)
    (fits : state < 256 ^ model.pointerSize ∧ output < 256 ^ model.pointerSize) :
    (handleGlobalOutput model world surface state output name).readPointer model (surfaceField model surface .state) =
        state ∧
      (handleGlobalOutput model world surface state output name).readPointer model
        (surfaceField model surface .output) = output := by
  obtain ⟨first, second, third, _⟩ := fields_apart model
  constructor
  · show (Memory.write _ _ _ _).read _ _ = _
    unfold surfaceField
    rw [Memory.read_write_apart _ _ (by omega)]
    show (Memory.write _ _ _ _).read _ _ = _
    rw [Memory.read_write_apart _ _ (by omega)]
    exact Memory.read_write _ _ fits.1
  · show (Memory.write _ _ _ _).read _ _ = _
    unfold surfaceField
    rw [Memory.read_write_apart _ _ (by omega)]
    exact Memory.read_write _ _ fits.2

theorem setup_colorOutput (fits : fresh.colorOutput < 256 ^ model.pointerSize)
    (apart : fresh.properties + propertiesSize model ≤ surface ∨ surface + surfaceSize model ≤ fresh.properties) :
    (setupColorManagementForSurface model fresh world surface).readPointer model
      (surfaceField model surface .colorOutput) = fresh.colorOutput := by
  obtain ⟨_, _, _, color, last⟩ := fields_apart model
  refine (await_read (by unfold surfaceField; omega) (by unfold surfaceField; omega)).trans ?_
  show (Memory.write _ _ _ _).read _ _ = _
  unfold stateField surfaceField
  rw [Memory.read_write_apart _ _ (by omega)]
  exact Memory.read_write _ _ fits

theorem setup_live {state output : Nat} (name : Nat) (aligned : state % model.pointerSize = 0)
    (fits : state < 256 ^ model.pointerSize ∧ output < 256 ^ model.pointerSize ∧
      fresh.colorOutput < 256 ^ model.pointerSize)
    (bound : output ≠ 0) (different : fresh.colorOutput ≠ fresh.description)
    (apart : fresh.properties + propertiesSize model ≤ surface ∨ surface + surfaceSize model ≤ fresh.properties) :
    LiveOutput model (setupColorManagementForSurface model fresh
      (handleGlobalOutput model world surface state output name) surface) surface := by
  obtain ⟨first, second, third, color, last⟩ := fields_apart model
  obtain ⟨state, output⟩ := handleGlobalOutput_fields world name ⟨fits.1, fits.2.1⟩
  refine ⟨?_, ?_, ?_⟩
  · rw [setup_field _ (by omega) apart, state]
    exact aligned
  · rw [setup_field _ (by omega) apart, output]
    exact bound
  · rw [setup_colorOutput fits.2.2 apart]
    show Function.update _ _ _ _ = _
    rw [Function.update_of_ne different]
    exact Function.update_self ..

end Setup

/-- The memory is empty, and nothing was registered or asked for. -/
def blankWorld : World := ⟨fun _ => 0, fun _ => none, [], 0x5000⟩

/-- The allocator and the upstream connection hand these objects out. -/
def handedOut : Fresh := ⟨0x4000, 0x3000, 0x3100⟩

/-- The only output was just added, and its first description is awaited. -/
def addedWorld : World :=
  setupColorManagementForSurface .lp64 handedOut (handleGlobalOutput .lp64 blankWorld 0x1000 0x7f00 0x2000 1) 0x1000

theorem added_live : LiveOutput .lp64 addedWorld 0x1000 :=
  setup_live 1 (by decide) ⟨by decide, by decide, by decide⟩ (by decide) (by decide) (.inr (by decide +kernel))

/-- The change of the description of the added output strays. -/
theorem added_change_strays : ¬ ∃ after, imageDescriptionChanged .lp64 handedOut addedWorld
      (addedWorld.readPointer .lp64 (surfaceField .lp64 0x1000 .colorOutput)) = .ok after ∧
    OnlyDescription .lp64 [0x1000] 0x1000 addedWorld after :=
  description_change_strays added_live List.mem_cons_self handedOut

/-- A change of a description does not always change only the description. -/
theorem description_change_not_framed : ¬ ∀ (model : DataModel) (outputs : List Nat) (surface : Nat) (world : World)
    (fresh : Fresh), surface ∈ outputs → LiveOutput model world surface →
      ∃ after, imageDescriptionChanged model fresh world
          (world.readPointer model (surfaceField model surface .colorOutput)) = .ok after ∧
        OnlyDescription model outputs surface world after := by
  intro framed
  have listed : 0x1000 ∈ [0x1000] := List.mem_cons_self
  obtain ⟨after, computed, only⟩ := framed .lp64 [0x1000] 0x1000 addedWorld handedOut listed added_live
  rw [changed_marks added_live handedOut] at computed
  cases computed
  exact changed_elsewhere added_live listed only

end SwaylockPlugin.Listener
