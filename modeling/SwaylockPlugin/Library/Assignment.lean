import Mathlib.Data.List.Basic

namespace SwaylockPlugin.Library

variable {Instruction Value : Type}

/-- Each instruction may assign a value, and the last one that does decides. -/
def lastAssigned (assign : Instruction → Option Value) (instructions : List Instruction) (start : Value) : Value :=
  (instructions.reverse.findSome? assign).getD start

variable {assign : Instruction → Option Value} {start : Value}

@[simp] theorem lastAssigned_nil : lastAssigned assign [] start = start := rfl

theorem lastAssigned_cons (first : Instruction) (rest : List Instruction) :
    lastAssigned assign (first :: rest) start = lastAssigned assign rest ((assign first).getD start) := by
  unfold lastAssigned
  rw [List.reverse_cons, List.findSome?_append]
  cases rest.reverse.findSome? assign with
  | none => simp
  | some value => rfl

theorem lastAssigned_append (first second : List Instruction) :
    lastAssigned assign (first ++ second) start = lastAssigned assign second (lastAssigned assign first start) := by
  induction first generalizing start with
  | nil => rfl
  | cons instruction first ih =>
      rw [List.cons_append, lastAssigned_cons, lastAssigned_cons, ih]

theorem lastAssigned_override {instructions : List Instruction} {instruction : Instruction}
    (member : instruction ∈ instructions) (assigns : (assign instruction).isSome = true) (other : Value) :
    lastAssigned assign instructions start = lastAssigned assign instructions other := by
  unfold lastAssigned
  cases found : instructions.reverse.findSome? assign with
  | some value => rfl
  | none =>
      rw [List.findSome?_eq_none_iff] at found
      rw [found instruction (List.mem_reverse.mpr member)] at assigns
      cases assigns

/-- What holds of the first value and of every value that is assigned holds of the last one. -/
theorem lastAssigned_holds {Holds : Value → Prop} {instructions : List Instruction} (first : Holds start)
    (assigned : ∀ instruction ∈ instructions, ∀ value, assign instruction = some value → Holds value) :
    Holds (lastAssigned assign instructions start) := by
  unfold lastAssigned
  cases found : instructions.reverse.findSome? assign with
  | none => exact first
  | some value =>
      obtain ⟨instruction, member, same⟩ := List.exists_of_findSome?_eq_some found
      exact assigned instruction (List.mem_reverse.mp member) value same

end SwaylockPlugin.Library
