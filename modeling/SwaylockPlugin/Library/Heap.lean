import Mathlib.Data.Option.Basic
import Mathlib.Logic.Basic

namespace SwaylockPlugin.Library

/-- A heap holds records at addresses and hands out each address at most once. -/
structure Heap (Record : Type) where
  next : Nat
  cell : Nat → Option Record
  unused : ∀ address, next ≤ address → cell address = none

namespace Heap

variable {Record : Type}

/-- The empty heap has handed out no address. -/
def empty : Heap Record := ⟨0, fun _ => none, fun _ _ => rfl⟩

/-- A record is live while its address holds it. -/
def live (heap : Heap Record) (address : Nat) : Bool := (heap.cell address).isSome

theorem live_below (heap : Heap Record) {address : Nat} {record : Record}
    (present : heap.cell address = some record) : address < heap.next := by
  by_contra outside
  rw [heap.unused address (Nat.le_of_not_lt outside)] at present
  cases present

/-- Allocation places a record at the next address. -/
def alloc (heap : Heap Record) (record : Record) : Heap Record where
  next := heap.next + 1
  cell := fun address => if address = heap.next then some record else heap.cell address
  unused := by
    intro address above
    rw [if_neg (by omega)]
    exact heap.unused address (by omega)

/-- An update rewrites the record at one address and leaves an empty address empty. -/
def modify (heap : Heap Record) (target : Nat) (change : Record → Record) : Heap Record where
  next := heap.next
  cell := fun address => if address = target then (heap.cell address).map change else heap.cell address
  unused := by
    intro address above
    by_cases same : address = target
    · rw [if_pos same, heap.unused address above, Option.map_none]
    · rw [if_neg same]
      exact heap.unused address above

/-- Release empties one address for ever. -/
def free (heap : Heap Record) (target : Nat) : Heap Record where
  next := heap.next
  cell := fun address => if address = target then none else heap.cell address
  unused := by
    intro address above
    by_cases same : address = target
    · rw [if_pos same]
    · rw [if_neg same]
      exact heap.unused address above

/-- A sweep rewrites every live record. -/
def mapAll (heap : Heap Record) (change : Nat → Record → Record) : Heap Record where
  next := heap.next
  cell := fun address => (heap.cell address).map (change address)
  unused := by
    intro address above
    rw [heap.unused address above, Option.map_none]

@[simp] theorem cell_empty (address : Nat) : (empty : Heap Record).cell address = none := rfl

@[simp] theorem cell_next (heap : Heap Record) : heap.cell heap.next = none :=
  heap.unused heap.next (Nat.le_refl _)

theorem cell_alloc (heap : Heap Record) (record : Record) (address : Nat) :
    (heap.alloc record).cell address =
      if address = heap.next then some record else heap.cell address := rfl

@[simp] theorem cell_alloc_next (heap : Heap Record) (record : Record) :
    (heap.alloc record).cell heap.next = some record := by
  simp [cell_alloc]

theorem cell_alloc_of_live (heap : Heap Record) (record : Record) {address : Nat} {old : Record}
    (present : heap.cell address = some old) : (heap.alloc record).cell address = some old := by
  have below := heap.live_below present
  rw [cell_alloc, if_neg (Nat.ne_of_lt below)]
  exact present

theorem cell_modify (heap : Heap Record) (target : Nat) (change : Record → Record) (address : Nat) :
    (heap.modify target change).cell address =
      if address = target then (heap.cell address).map change else heap.cell address := rfl

@[simp] theorem cell_modify_self (heap : Heap Record) (target : Nat) (change : Record → Record) :
    (heap.modify target change).cell target = (heap.cell target).map change := by
  simp [cell_modify]

theorem cell_modify_other (heap : Heap Record) {target address : Nat} (change : Record → Record)
    (other : address ≠ target) : (heap.modify target change).cell address = heap.cell address := by
  rw [cell_modify, if_neg other]

theorem live_iff {heap : Heap Record} {address : Nat} :
    heap.live address = true ↔ ∃ record, heap.cell address = some record := Option.isSome_iff_exists

theorem not_live_iff {heap : Heap Record} {address : Nat} : heap.live address = false ↔ heap.cell address = none := by
  unfold live
  rw [← Bool.not_eq_true, Option.not_isSome_iff_eq_none]

theorem old_of_alloc (heap : Heap Record) {record old : Record} {address : Nat}
    (present : (heap.alloc record).cell address = some old) :
    address = heap.next ∧ old = record ∨ address ≠ heap.next ∧ heap.cell address = some old := by
  rw [cell_alloc] at present
  by_cases same : address = heap.next
  · rw [if_pos same] at present
    cases present
    exact .inl ⟨same, rfl⟩
  · rw [if_neg same] at present
    exact .inr ⟨same, present⟩

theorem live_alloc_other (heap : Heap Record) (record : Record) {address : Nat} (other : address ≠ heap.next) :
    (heap.alloc record).live address = heap.live address := by
  unfold live
  rw [cell_alloc, if_neg other]

@[simp] theorem live_modify (heap : Heap Record) (target : Nat) (change : Record → Record) (address : Nat) :
    (heap.modify target change).live address = heap.live address := by
  unfold live
  rw [cell_modify]
  split
  · exact Option.isSome_map
  · rfl

theorem modify_same (heap : Heap Record) (target : Nat) {change : Record → Record}
    (same : ∀ record, change record = record) : heap.modify target change = heap := by
  have cells : (heap.modify target change).cell = heap.cell := by
    funext address
    rw [cell_modify]
    split
    · cases heap.cell address with
      | none => rfl
      | some record => exact congrArg some (same record)
    · rfl
  cases heap
  simp only [modify, mk.injEq, true_and] at cells ⊢
  exact cells

theorem modify_modify (heap : Heap Record) (target : Nat) (first second : Record → Record) :
    (heap.modify target first).modify target second = heap.modify target (second ∘ first) := by
  have same : ((heap.modify target first).modify target second).cell =
      (heap.modify target (second ∘ first)).cell := by
    funext address
    by_cases here : address = target
    · rw [here, cell_modify_self, cell_modify_self, cell_modify_self, Option.map_map]
    · rw [cell_modify_other _ _ here, cell_modify_other _ _ here, cell_modify_other _ _ here]
  cases heap
  simp only [modify, mk.injEq, true_and] at same ⊢
  exact same

theorem cell_free (heap : Heap Record) (target address : Nat) :
    (heap.free target).cell address = if address = target then none else heap.cell address := rfl

@[simp] theorem cell_free_self (heap : Heap Record) (target : Nat) :
    (heap.free target).cell target = none := by
  simp [cell_free]

theorem cell_free_other (heap : Heap Record) {target address : Nat} (other : address ≠ target) :
    (heap.free target).cell address = heap.cell address := by
  rw [cell_free, if_neg other]

theorem live_free_other (heap : Heap Record) {target address : Nat} (other : address ≠ target) :
    (heap.free target).live address = heap.live address := by
  unfold live
  rw [cell_free_other heap other]

theorem ne_of_free (heap : Heap Record) {target address : Nat} {record : Record}
    (present : (heap.free target).cell address = some record) : address ≠ target := by
  rintro rfl
  rw [cell_free_self] at present
  cases present

theorem old_of_free (heap : Heap Record) {target address : Nat} {record : Record}
    (present : (heap.free target).cell address = some record) : heap.cell address = some record := by
  rw [cell_free] at present
  split at present
  · cases present
  · exact present

theorem free_modify (heap : Heap Record) (target : Nat) (change : Record → Record) :
    (heap.modify target change).free target = heap.free target := by
  have same : ((heap.modify target change).free target).cell = (heap.free target).cell := by
    funext address
    by_cases here : address = target
    · rw [here, cell_free_self, cell_free_self]
    · rw [cell_free_other _ here, cell_free_other _ here, cell_modify_other _ _ here]
  cases heap
  simp only [free, modify, mk.injEq, true_and] at same ⊢
  exact same

@[simp] theorem cell_mapAll (heap : Heap Record) (change : Nat → Record → Record) (address : Nat) :
    (heap.mapAll change).cell address = (heap.cell address).map (change address) := rfl

theorem view_modify {View : Type} (heap : Heap Record) (target : Nat) (change : Record → Record)
    (view : Record → View) (kept : ∀ record, heap.cell target = some record → view (change record) = view record)
    (address : Nat) :
    ((heap.modify target change).cell address).map view = (heap.cell address).map view := by
  by_cases same : address = target
  · subst same
    rw [cell_modify_self]
    cases present : heap.cell address with
    | none => rfl
    | some record => simp only [Option.map_some, kept record present]
  · rw [cell_modify_other heap change same]

theorem bind_modify {Field : Type} (heap : Heap Record) (target : Nat) (change : Record → Record)
    (field : Record → Option Field) (address : Nat) :
    ((heap.modify target change).cell address).bind field =
      if address = target then (heap.cell target).bind fun record => field (change record)
      else (heap.cell address).bind field := by
  by_cases same : address = target
  · subst same
    rw [if_pos rfl, cell_modify_self, Option.bind_map]
    rfl
  · rw [if_neg same, cell_modify_other heap change same]

theorem view_mapAll {View : Type} (heap : Heap Record) (change : Nat → Record → Record)
    (view : Record → View) (kept : ∀ address record, view (change address record) = view record)
    (address : Nat) :
    ((heap.mapAll change).cell address).map view = (heap.cell address).map view := by
  rw [cell_mapAll]
  cases heap.cell address with
  | none => rfl
  | some record => simp only [Option.map_some, kept]

/-- A record that an update leaves was there before, and only at the target did it change. -/
theorem old_of_modify (heap : Heap Record) {target address : Nat} {change : Record → Record} {record : Record}
    (present : (heap.modify target change).cell address = some record) :
    ∃ old, heap.cell address = some old ∧
      (address = target ∧ record = change old ∨ address ≠ target ∧ record = old) := by
  by_cases same : address = target
  · rw [same, cell_modify_self, Option.map_eq_some_iff] at present
    obtain ⟨old, found, changed⟩ := present
    exact ⟨old, same ▸ found, .inl ⟨same, changed.symm⟩⟩
  · rw [cell_modify_other heap change same] at present
    exact ⟨record, present, .inr ⟨same, rfl⟩⟩

/-- A property of the records that an update keeps holds of every live record after it. -/
theorem every_modify (heap : Heap Record) (target : Nat) (change : Record → Record) {Holds : Record → Prop}
    (kept : ∀ record, heap.cell target = some record → Holds record → Holds (change record))
    (holds : ∀ address record, heap.cell address = some record → Holds record) :
    ∀ address record, (heap.modify target change).cell address = some record → Holds record := by
  intro address record present
  obtain ⟨old, found, ⟨same, rfl⟩ | ⟨_, rfl⟩⟩ := heap.old_of_modify present
  · exact kept old (same ▸ found) (holds address old found)
  · exact holds address record found

end Heap

end SwaylockPlugin.Library
