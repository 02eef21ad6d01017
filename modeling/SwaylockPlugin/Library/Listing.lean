import Mathlib.Data.List.Count
import Mathlib.Logic.Function.Basic
import SwaylockPlugin.Library.Heap

namespace SwaylockPlugin.Library

variable {Record : Type}

/-- A list in each record holds exactly the members that name the address of the record, each once. -/
def Enlists (heap : Heap Record) (list : Record → List Nat) (named : Nat → Option Nat) : Prop :=
  ∀ address member, (heap.cell address).elim 0 (fun record => (list record).count member) =
    (named member == some address).toNat

namespace Enlists

variable {heap : Heap Record} {list : Record → List Nat} {named : Nat → Option Nat} {address member : Nat}
  {record : Record}

theorem empty (free : ∀ member, named member = none) : Enlists (.empty : Heap Record) list named := by
  intro address member
  rw [free member]
  rfl

theorem present (enlists : Enlists heap list named) (names : named member = some address) :
    ∃ record, heap.cell address = some record ∧ member ∈ list record := by
  have counted := enlists address member
  rw [names, beq_self_eq_true, Bool.toNat_true] at counted
  cases found : heap.cell address with
  | none =>
      rw [found] at counted
      cases counted
  | some record =>
      rw [found, Option.elim_some] at counted
      exact ⟨record, rfl, List.count_pos_iff.mp (by omega)⟩

theorem names (enlists : Enlists heap list named) (found : heap.cell address = some record)
    (listed : member ∈ list record) : named member = some address := by
  have counted := enlists address member
  have positive := List.count_pos_iff.mpr listed
  rw [found, Option.elim_some] at counted
  by_contra other
  rw [beq_false_of_ne other, Bool.toNat_false] at counted
  omega

/-- A member is in the list of a record exactly where it names the address of the record. -/
theorem mem_iff (enlists : Enlists heap list named) (found : heap.cell address = some record) :
    member ∈ list record ↔ named member = some address := by
  refine ⟨enlists.names found, fun names => ?_⟩
  obtain ⟨other, there, listed⟩ := enlists.present names
  rw [found] at there
  exact Option.some.inj there ▸ listed

theorem nodup (enlists : Enlists heap list named) (found : heap.cell address = some record) : (list record).Nodup := by
  rw [List.nodup_iff_count]
  intro member
  have counted := enlists address member
  rw [found, Option.elim_some] at counted
  rw [counted]
  exact Bool.toNat_le _

theorem eq_nil_iff (enlists : Enlists heap list named) (found : heap.cell address = some record) :
    list record = [] ↔ ∀ member, named member ≠ some address := by
  refine List.eq_nil_iff_forall_not_mem.trans (forall_congr' fun member => ?_)
  exact not_congr (enlists.mem_iff found)

/-- The list of a record is empty without a member exactly where no other member names the record. -/
theorem erase_eq_nil_iff (enlists : Enlists heap list named) (found : heap.cell address = some record) :
    (list record).erase member = [] ↔ ∀ other, named other = some address → other = member := by
  rw [List.eq_nil_iff_forall_not_mem]
  refine forall_congr' fun other => ?_
  rw [(enlists.nodup found).mem_erase_iff, enlists.mem_iff found, not_and', not_ne_iff]

theorem congr {other : Nat → Option Nat} (enlists : Enlists heap list named) (same : ∀ member, other member = named member) :
    Enlists heap list other :=
  (funext same : other = named) ▸ enlists

theorem modify (enlists : Enlists heap list named) (target : Nat) {change : Record → Record}
    (same : ∀ record, list (change record) = list record) : Enlists (heap.modify target change) list named := by
  intro other who
  rw [← enlists other who]
  by_cases here : other = target
  · subst here
    rw [Heap.cell_modify_self]
    cases heap.cell other with
    | none => rfl
    | some record =>
        rw [Option.map_some, Option.elim_some, Option.elim_some, same]
  · rw [heap.cell_modify_other change here]

theorem remove (enlists : Enlists heap list named) (names : named member = some address) {change : Record → Record}
    (erases : ∀ record, list (change record) = (list record).erase member) :
    Enlists (heap.modify address change) list (Function.update named member none) := by
  obtain ⟨record, found, _⟩ := enlists.present names
  intro other who
  have counted := enlists other who
  by_cases here : other = address
  · subst here
    rw [Heap.cell_modify_self, found, Option.map_some, Option.elim_some, erases, List.count_erase]
    rw [found, Option.elim_some] at counted
    by_cases same : who = member
    · subst same
      rw [names, beq_self_eq_true, Bool.toNat_true] at counted
      rw [Function.update_self, counted, if_pos (beq_self_eq_true who)]
      rfl
    · rw [Function.update_of_ne same, ← counted, if_neg fun same_ => same (eq_of_beq same_).symm, Nat.sub_zero]
  · rw [heap.cell_modify_other change here, counted]
    by_cases same : who = member
    · subst same
      rw [Function.update_self, names, beq_false_of_ne fun same => here (Option.some.inj same).symm]
      rfl
    · rw [Function.update_of_ne same]

theorem add (enlists : Enlists heap list named) (free : named member = none) (found : heap.cell address = some record)
    {change : Record → Record} (adds : ∀ record, list (change record) = member :: list record) :
    Enlists (heap.modify address change) list (Function.update named member (some address)) := by
  intro other who
  have counted := enlists other who
  by_cases here : other = address
  · subst here
    rw [Heap.cell_modify_self, found, Option.map_some, Option.elim_some, adds, List.count_cons]
    rw [found, Option.elim_some] at counted
    by_cases same : who = member
    · subst same
      rw [Function.update_self, counted, free, if_pos (beq_self_eq_true who), beq_self_eq_true]
      rfl
    · rw [Function.update_of_ne same, ← counted, if_neg fun same_ => same (eq_of_beq same_).symm, Nat.add_zero]
  · rw [heap.cell_modify_other change here, counted]
    by_cases same : who = member
    · subst same
      rw [Function.update_self, free, beq_false_of_ne fun same => here (Option.some.inj same).symm]
      rfl
    · rw [Function.update_of_ne same]

theorem free (enlists : Enlists heap list named) (found : heap.cell address = some record) (empty : list record = []) :
    Enlists (heap.free address) list named := by
  intro other who
  rw [← enlists other who]
  by_cases here : other = address
  · subst here
    rw [Heap.cell_free_self, found, Option.elim_some, empty]
    rfl
  · rw [heap.cell_free_other here]

theorem alloc (enlists : Enlists heap list named) (empty : list record = []) : Enlists (heap.alloc record) list named := by
  intro other who
  rw [← enlists other who]
  by_cases here : other = heap.next
  · subst here
    rw [Heap.cell_alloc_next, Heap.cell_next, Option.elim_some, empty]
    rfl
  · rw [Heap.cell_alloc, if_neg here]

end Enlists

end SwaylockPlugin.Library
