import SwaylockPlugin.Proof.Typing

namespace SwaylockPlugin

open Library

/-- An observer notes whether the buffer was cleared, and the characters that were typed since then. -/
structure Residue where
  cleared : Bool
  typed : List UInt32

namespace Residue

/-- Before the first edit the buffer was not cleared. -/
def blank : Residue := ⟨false, []⟩

/-- A typed character is noted, and a cleared buffer starts anew. -/
def after (residue : Residue) : Edit → Residue
  | .keep => residue
  | .push ch => { residue with typed := ch :: residue.typed }
  | .pop => residue
  | .empty => ⟨true, []⟩
  | .submit _ => ⟨true, []⟩

/-- A byte behind the text is zero, was there before, or continues a character that was typed. -/
def Leaves (memory : List UInt8) (residue : Residue) (index : Nat) (byte : UInt8) : Prop :=
  byte = 0 ∨ residue.cleared = false ∧ memory[index]? = some byte ∨ ∃ ch ∈ residue.typed, byte ∈ (utf8Encode ch).tail

/-- The observer follows the edits of a run. -/
def observe (residue : Residue) (state : SwaylockState) (occurrence : Occurrence) : Residue :=
  residue.after (occurrence.event.edit state)

end Residue

/-- The password holds characters that were typed, and what stands behind them was left there. -/
structure SwaylockPassword.Residual (memory : List UInt8) (password : SwaylockPassword) (residue : Residue) : Prop where
  spelled : ∃ text, password.Spells text ∧ ∀ ch ∈ text, ch ∈ residue.typed
  behind : ∀ index byte, password.len ≤ index → password.buffer[index]? = some byte → residue.Leaves memory index byte

namespace SwaylockPassword.Residual

variable {memory : List UInt8} {password : SwaylockPassword} {residue : Residue}

theorem clear (residual : password.Residual memory residue) : password.clear.Residual memory ⟨true, []⟩ where
  spelled := by
    obtain ⟨text, spells, _⟩ := residual.spelled
    exact ⟨[], spells.clear, by simp⟩
  behind index byte _ present := by
    have zero := List.eq_of_mem_replicate (List.mem_of_getElem? present)
    exact .inl zero

theorem backspace (residual : password.Residual memory residue) : password.backspace.Residual memory residue := by
  obtain ⟨text, spells, typed⟩ := residual.spelled
  refine ⟨⟨text.dropLast, spells.backspace.1, fun ch member => typed ch (List.dropLast_subset _ member)⟩, ?_⟩
  intro index byte behind present
  rcases List.eq_nil_or_concat text with rfl | ⟨before, ch, rfl⟩
  · have same : password.backspace = password := if_pos (spells.empty_iff.mpr rfl)
    rw [same] at behind present
    exact residual.behind index byte behind present
  · rw [List.concat_eq_append] at spells typed
    have some_ : password.len ≠ 0 := fun none_ => by simpa using spells.empty_iff.mp none_
    have short : password.backspace.len = password.len - utf8Chsize ch := by
      unfold SwaylockPassword.backspace
      rw [if_neg some_, spells.lastSize]
    have cut : password.backspace.buffer = password.buffer.set (password.len - utf8Chsize ch) 0 := by
      unfold SwaylockPassword.backspace
      rw [if_neg some_, spells.lastSize]
    rw [short] at behind
    rw [cut, List.getElem?_set] at present
    split at present
    · split at present
      · exact .inl (Option.some.inj present).symm
      · cases present
    · rename_i apart
      by_cases later : password.len ≤ index
      · exact residual.behind index byte later present
      · -- The byte is one of the erased character behind its first byte.
        obtain ⟨rest, held⟩ := spells.memory
        obtain ⟨first, inner, encoded, _⟩ := utf8Encode_split ch
        have width := utf8Encode_length ch
        have len := spells.len
        rw [encodeText_snoc, List.length_append, width] at len
        rw [held, encodeText_snoc, List.append_assoc, encoded] at present
        have inside : (encodeText before).length < index := by omega
        rw [List.getElem?_append_right (Nat.le_of_lt inside)] at present
        obtain ⟨offset, shift⟩ := Nat.exists_eq_add_of_lt inside
        have near : offset < inner.length := by
          rw [encoded, List.length_cons] at width
          omega
        rw [shift, show (encodeText before).length + offset + 1 - (encodeText before).length = offset + 1 by omega,
          List.cons_append, List.getElem?_cons_succ, List.getElem?_append_left near] at present
        refine .inr (.inr ⟨ch, typed ch (by simp), ?_⟩)
        rw [encoded]
        exact List.mem_of_getElem? present

theorem appendCh (residual : password.Residual memory residue) {ch : UInt32} (other : ch ≠ 0) :
    (password.appendCh ch).Residual memory { residue with typed := ch :: residue.typed } := by
  obtain ⟨text, spells, typed⟩ := residual.spelled
  have more {index : Nat} {byte : UInt8} (leaves : residue.Leaves memory index byte) :
      Residue.Leaves memory { residue with typed := ch :: residue.typed } index byte := by
    rcases leaves with zero | old | ⟨earlier, member, continues⟩
    · exact .inl zero
    · exact .inr (.inl old)
    · exact .inr (.inr ⟨earlier, List.mem_cons_of_mem _ member, continues⟩)
  refine ⟨⟨_, (spells.appendCh other).1, fun some_ member => ?_⟩, fun index byte behind present => ?_⟩
  · split at member
    · rcases List.mem_append.mp member with old | new
      · exact List.mem_cons_of_mem _ (typed some_ old)
      · exact List.mem_singleton.mp new ▸ List.mem_cons_self
    · exact List.mem_cons_of_mem _ (typed some_ member)
  · by_cases full : password.bufferLen ≤ password.len + utf8Chsize ch + 1
    · have same : password.appendCh ch = password := if_pos full
      rw [same] at behind present
      exact more (residual.behind index byte behind present)
    · have long : (password.appendCh ch).len = password.len + utf8Chsize ch := by
        unfold SwaylockPassword.appendCh
        rw [if_neg full]
      have written : (password.appendCh ch).buffer =
          (writeBytes password.buffer password.len (utf8Encode ch)).set (password.len + utf8Chsize ch) 0 := by
        unfold SwaylockPassword.appendCh
        rw [if_neg full]
      rw [long] at behind
      rw [written, List.getElem?_set] at present
      split at present
      · split at present
        · exact .inl (Option.some.inj present).symm
        · cases present
      · have width := utf8Encode_length ch
        have room := spells.room
        have start : (password.buffer.take password.len ++ utf8Encode ch).length = password.len + utf8Chsize ch := by
          rw [List.length_append, List.length_take, width]
          change min _ password.bufferLen + _ = _
          omega
        rw [writeBytes, List.getElem?_append_right (start.symm ▸ behind), List.getElem?_drop, start, width] at present
        have place : password.len + utf8Chsize ch + (index - (password.len + utf8Chsize ch)) = index := by omega
        rw [place] at present
        exact more (residual.behind index byte (by omega) present)

end SwaylockPassword.Residual

theorem TypingCore.edit_residual {memory : List UInt8} {core : TypingCore} {residue : Residue}
    (residual : core.password.Residual memory residue) {edit : Edit} (proper : edit ≠ .push 0) :
    (core.edit edit).password.Residual memory (residue.after edit) := by
  cases edit with
  | keep => exact residual
  | push ch => exact residual.appendCh (fun zero => proper (congrArg Edit.push zero))
  | pop => exact residual.backspace
  | empty => exact residual.clear
  | submit written => exact residual.clear

/-- Behind the password each byte is zero, or continues a character that was typed after the buffer was last cleared, or
was in the memory from the start if it was never cleared. -/
theorem password_residue {first last : SwaylockState} {residue : Residue} {events : List Occurrence}
    (initial : InitialState first)
    (run : (swaylock.machine.observed .blank Residue.observe).Run (first, .blank) events (last, residue)) :
    ∀ index byte, last.password.len ≤ index → last.password.buffer[index]? = some byte →
      byte = 0 ∨ (∃ ch ∈ residue.typed, byte ∈ (utf8Encode ch).tail ∧ byte &&& 0xc0 = 0x80) ∨
        residue.cleared = false ∧ first.password.buffer[index]? = some byte := by
  have residual := run.preserves (fun pair => pair.1.password.Residual first.password.buffer pair.2)
    (fun pair occurrence next before moved => ?_) ?_
  · intro index byte behind present
    rcases residual.behind index byte behind present with zero | old | ⟨ch, member, continues⟩
    · exact .inl zero
    · exact .inr (.inr old)
    · obtain ⟨head, rest, encoded, _, every, _⟩ := utf8Encode_split ch
      refine .inr (.inl ⟨ch, member, continues, every byte ?_⟩)
      rw [encoded] at continues
      exact continues
  · obtain ⟨moved, noted⟩ := moved
    have edited := congrArg TypingCore.password (typing_of_step moved)
    change next.1.password = _ at edited
    rw [edited, noted]
    exact TypingCore.edit_residual before (occurrence.event.edit_push pair.1)
  · obtain ⟨len, size, head⟩ := initial.password
    obtain ⟨rest, memory⟩ := List.head?_eq_some_iff.mp head
    refine ⟨⟨[], ⟨⟨rest, memory⟩, len, by simp, ?_⟩, by simp⟩, fun index byte _ present => .inr (.inl ⟨rfl, present⟩)⟩
    rw [len, size]
    decide

/-- An erased euro sign leaves the two bytes that continue it. -/
theorem password_residue_euro : ∃ (state : SwaylockState) (residue : Residue), state.password.len = 1 ∧
    state.password.buffer[2]? = some 0x82 ∧ ∃ ch ∈ residue.typed, (0x82 : UInt8) ∈ (utf8Encode ch).tail := by
  obtain ⟨state, run, passed⟩ := swaylock.play_runs
    ((typingEvents ++ [Event.key 0 true 0xff08 0 ⟨0, true⟩]).map Event.obliged)
    (fun state => state.password.len == 1 && state.password.buffer[2]? == some 0x82)
    (by decide +kernel : (swaylock.play defaultState _).any _ = true)
  obtain ⟨residue, path⟩ := run.observed .blank Residue.observe .blank
  simp only [Bool.and_eq_true, beq_iff_eq] at passed
  have left := password_residue (startState_initial _ _ _) path 2 0x82 (by omega) passed.2
  rcases left with zero | ⟨ch, member, continues, _⟩ | ⟨_, there⟩
  · exact absurd zero (by decide)
  · exact ⟨state, residue, passed.1, passed.2, ch, member, continues⟩
  · exact absurd there (by decide +kernel)

end SwaylockPlugin
