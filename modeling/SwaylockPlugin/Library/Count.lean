import Mathlib.Data.List.Range
import SwaylockPlugin.Library.Heap

namespace SwaylockPlugin.Library

/-- Two tests that agree except at one number count the same numbers apart from that one. -/
theorem countP_except {first second : Nat → Bool} {target bound : Nat} (inside : target < bound)
    (same : ∀ number, number ≠ target → second number = first number) :
    (List.range bound).countP second + (first target).toNat =
      (List.range bound).countP first + (second target).toNat := by
  have before (limit : Nat) (below : limit ≤ target) :
      (List.range limit).countP second = (List.range limit).countP first := by
    refine List.countP_congr fun number listed => ?_
    have small := List.mem_range.mp listed
    rw [same number (by omega)]
  induction bound with
  | zero => exact absurd inside (Nat.not_lt_zero _)
  | succ bound ih =>
      rw [List.range_succ, List.countP_append, List.countP_append, List.countP_singleton, List.countP_singleton]
      by_cases here : bound = target
      · subst here
        rw [before bound (Nat.le_refl _)]
        cases first bound <;> cases second bound <;> simp
      · have rest := ih (by omega)
        rw [same bound here]
        omega

namespace Heap

variable {Record : Type}

/-- The live records that pass a test are counted. -/
def count (heap : Heap Record) (test : Record → Bool) : Nat :=
  (List.range heap.next).countP fun address => (heap.cell address).any test

theorem count_zero {heap : Heap Record} {test : Record → Bool}
    (fails : ∀ address record, heap.cell address = some record → test record = false) : heap.count test = 0 := by
  refine List.countP_eq_zero.mpr fun address _ passes => ?_
  obtain ⟨record, present, holds⟩ := (Option.any_eq_true _ _).mp passes
  exact absurd (holds.symm.trans (fails address record present)) (by decide)

theorem count_pos {heap : Heap Record} {test : Record → Bool} {address : Nat} {record : Record}
    (present : heap.cell address = some record) (passes : test record = true) : 0 < heap.count test := by
  refine List.countP_pos_iff.mpr ⟨address, List.mem_range.mpr (heap.live_below present), ?_⟩
  exact (Option.any_eq_true _ _).mpr ⟨record, present, passes⟩

theorem exists_of_count {heap : Heap Record} {test : Record → Bool} (positive : 0 < heap.count test) :
    ∃ address record, heap.cell address = some record ∧ test record = true := by
  obtain ⟨address, _, passes⟩ := List.countP_pos_iff.mp positive
  obtain ⟨record, present, holds⟩ := (Option.any_eq_true _ _).mp passes
  exact ⟨address, record, present, holds⟩

/-- Heaps that agree except at one address count the same records apart from the one there. -/
theorem count_except (first second : Heap Record) (test : Record → Bool) {target : Nat} {record : Record}
    (present : first.cell target = some record) (bound : second.next = first.next)
    (same : ∀ address, address ≠ target → second.cell address = first.cell address) :
    second.count test + (test record).toNat = first.count test + ((second.cell target).any test).toNat := by
  have agree (address : Nat) (other : address ≠ target) :
      (fun address => (second.cell address).any test) address = (fun address => (first.cell address).any test) address :=
    congrArg (Option.any test) (same address other)
  have counted := countP_except (first.live_below present) agree
  rw [present, Option.any_some] at counted
  unfold count
  rw [bound]
  exact counted

theorem count_alloc (heap : Heap Record) (record : Record) (test : Record → Bool) :
    (heap.alloc record).count test = heap.count test + (test record).toNat := by
  have old : (List.range heap.next).countP (fun address => ((heap.alloc record).cell address).any test) =
      heap.count test := by
    refine List.countP_congr fun address listed => ?_
    rw [cell_alloc, if_neg (Nat.ne_of_lt (List.mem_range.mp listed))]
  change (List.range (heap.next + 1)).countP _ = _
  rw [List.range_succ, List.countP_append, List.countP_singleton, old, cell_alloc_next, Option.any_some]
  cases test record <;> rfl

theorem count_modify (heap : Heap Record) (test : Record → Bool) {target : Nat} {record : Record}
    (present : heap.cell target = some record) (change : Record → Record) :
    (heap.modify target change).count test + (test record).toNat =
      heap.count test + (test (change record)).toNat := by
  have counted := count_except heap (heap.modify target change) test present rfl
    fun address other => cell_modify_other heap change other
  rw [cell_modify_self, present, Option.map_some, Option.any_some] at counted
  exact counted

theorem count_modify_same (heap : Heap Record) (test : Record → Bool) (target : Nat) {change : Record → Record}
    (same : ∀ record, test (change record) = test record) :
    (heap.modify target change).count test = heap.count test := by
  refine List.countP_congr fun address _ => ?_
  rw [cell_modify]
  split
  · cases heap.cell address with
    | none => rfl
    | some record => rw [Option.map_some, Option.any_some, Option.any_some, same]
  · rfl

theorem count_free (heap : Heap Record) (test : Record → Bool) {target : Nat} {record : Record}
    (present : heap.cell target = some record) :
    (heap.free target).count test + (test record).toNat = heap.count test := by
  have counted := count_except heap (heap.free target) test present rfl fun address other => cell_free_other heap other
  rw [cell_free_self] at counted
  exact counted

end Heap

end SwaylockPlugin.Library
