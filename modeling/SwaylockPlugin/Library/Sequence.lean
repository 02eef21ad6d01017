import Mathlib.Data.List.Nodup
import Mathlib.Data.List.Basic

namespace SwaylockPlugin.Library

variable {Item : Type}

theorem not_sublist_after_last {taken given : List Item} {last next : Item}
    (nodup : given.Nodup) (newest : given.getLast? = some last) (current : taken.getLast? = some last) :
    ¬ (taken ++ [next]).Sublist given := by
  intro sublist
  obtain ⟨before, rfl⟩ := List.getLast?_eq_some_iff.mp newest
  obtain ⟨early, rfl⟩ := List.getLast?_eq_some_iff.mp current
  have pair : [last, next].Sublist (before ++ [last]) := by
    refine List.Sublist.trans ?_ sublist
    rw [List.append_assoc]
    exact List.sublist_append_right early _
  have fresh : last ∉ before := by
    intro member
    exact (List.nodup_append.mp nodup).2.2 last member last (List.mem_singleton_self last) rfl
  rcases List.sublist_append_iff.mp pair with ⟨left, right, split, inBefore, inLast⟩
  cases left with
  | nil =>
      rw [List.nil_append] at split
      have short := inLast.length_le
      rw [← split] at short
      simp at short
  | cons first left =>
      obtain ⟨rfl, _⟩ := List.cons.inj split
      exact fresh (inBefore.subset List.mem_cons_self)

theorem sublist_before_last {taken given : List Item} {last next : Item}
    (newest : given.getLast? = some last) (sublist : (taken ++ [next]).Sublist given)
    (other : next ≠ last) : (taken ++ [next] ++ [last]).Sublist given := by
  obtain ⟨before, rfl⟩ := List.getLast?_eq_some_iff.mp newest
  apply List.Sublist.append _ (List.Sublist.refl [last])
  rcases List.sublist_append_iff.mp sublist with ⟨left, right, split, inBefore, inLast⟩
  rcases List.sublist_singleton.mp inLast with rfl | rfl
  · rw [List.append_nil] at split
    rw [split]
    exact inBefore
  · have ends := congrArg List.getLast? split
    simp at ends
    exact absurd ends other

end SwaylockPlugin.Library
