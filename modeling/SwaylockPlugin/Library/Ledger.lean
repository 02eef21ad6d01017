import Mathlib.Data.List.Count
import SwaylockPlugin.Library.Heap

namespace SwaylockPlugin.Library

variable {Record : Type}

/-- Every record of a heap either has one owner or was spent once. -/
def Conserved (heap : Heap Record) (spent : Record → Nat) (owners : List Nat) : Prop :=
  ∀ address, (heap.cell address).elim 0 spent + owners.count address = (heap.live address).toNat

namespace Conserved

variable {heap : Heap Record} {spent : Record → Nat} {owners others : List Nat} {address : Nat} {record : Record}

theorem empty : Conserved (.empty : Heap Record) spent [] := fun _ => rfl

theorem perm (conserved : Conserved heap spent owners) (same : owners.Perm others) : Conserved heap spent others := by
  intro address
  rw [← same.count_eq address]
  exact conserved address

theorem alloc (conserved : Conserved heap spent owners) (unspent : spent record = 0) :
    Conserved (heap.alloc record) spent (heap.next :: owners) := by
  intro address
  have before := conserved address
  unfold Heap.live at before ⊢
  rw [Heap.cell_alloc, List.count_cons]
  by_cases here : address = heap.next
  · subst here
    rw [heap.cell_next] at before
    simp only [Option.elim_none, Option.isSome_none, Bool.toNat_false] at before
    simp only [if_pos, Option.elim_some, Option.isSome_some, Bool.toNat_true, beq_self_eq_true]
    omega
  · rw [if_neg here, if_neg (by simpa using Ne.symm here)]
    exact before

theorem modify (conserved : Conserved heap spent owners) (target : Nat) {change : Record → Record}
    (same : ∀ record, spent (change record) = spent record) : Conserved (heap.modify target change) spent owners := by
  intro address
  have before := conserved address
  rw [Heap.live_modify, Heap.cell_modify]
  split
  · rw [Option.elim_map, show spent ∘ change = spent from funext same]
    exact before
  · exact before

theorem spend (conserved : Conserved heap spent (address :: owners)) {change : Record → Record}
    (once : ∀ record, spent (change record) = spent record + 1) :
    Conserved (heap.modify address change) spent owners := by
  intro other
  have before := conserved other
  rw [Heap.live_modify, Heap.cell_modify]
  rw [List.count_cons] at before
  by_cases here : other = address
  · subst here
    rw [if_pos rfl, Option.elim_map]
    unfold Heap.live at before ⊢
    cases found : heap.cell other with
    | none =>
        rw [found] at before
        simp at before
    | some record =>
        rw [found] at before
        simp only [Option.elim_some, beq_self_eq_true, if_true, Function.comp, once] at before ⊢
        omega
  · rw [if_neg here]
    rw [if_neg (by simpa using Ne.symm here)] at before
    exact before

theorem spendAll {addresses : List Nat} (conserved : Conserved heap spent (addresses ++ owners))
    {change : Record → Record} (once : ∀ record, spent (change record) = spent record + 1) :
    Conserved (addresses.foldl (fun heap address => heap.modify address change) heap) spent owners := by
  induction addresses generalizing heap with
  | nil => exact conserved
  | cons address addresses ih => exact ih (conserved.spend once)

theorem owned (conserved : Conserved heap spent owners) (member : address ∈ owners) :
    ∃ record, heap.cell address = some record := by
  have counted := conserved address
  have positive := List.count_pos_iff.mpr member
  rw [← Heap.live_iff]
  by_contra dead
  rw [(Bool.not_eq_true _).mp dead, Bool.toNat_false] at counted
  omega

theorem nodup (conserved : Conserved heap spent owners) : owners.Nodup := by
  rw [List.nodup_iff_count]
  intro address
  have counted := conserved address
  have bound := Bool.toNat_le (heap.live address)
  omega

theorem outcome (conserved : Conserved heap spent owners) (found : heap.cell address = some record) :
    spent record = if address ∈ owners then 0 else 1 := by
  have counted := conserved address
  unfold Heap.live at counted
  rw [found, Option.elim_some, Option.isSome_some, Bool.toNat_true] at counted
  split
  · have positive := List.count_pos_iff.mpr ‹address ∈ owners›
    omega
  · have absent := List.count_eq_zero.mpr ‹address ∉ owners›
    omega

end Conserved

end SwaylockPlugin.Library
