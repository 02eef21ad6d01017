import SwaylockPlugin.Proof.Encoding
import SwaylockPlugin.Proof.Unlock

namespace SwaylockPlugin

open Library

/-- An edit changes the typed text. -/
inductive Edit where
  | keep
  | push (ch : UInt32)
  | pop
  | empty
  | submit (written : Bool)
  deriving DecidableEq

namespace Edit

/-- A pushed character is accepted where its bytes and the terminator leave one byte of the buffer unused. -/
def apply (limit : Nat) (text : List UInt32) : Edit → List UInt32
  | .keep => text
  | .push ch => if (encodeText text).length + (utf8Encode ch).length + 1 < limit then text ++ [ch] else text
  | .pop => text.dropLast
  | .empty => []
  | .submit _ => []

/-- A submission that was written hands the text over with its terminator. -/
def hands (text : List UInt32) : Edit → List (List UInt8)
  | .submit true => [encodeText text ++ [0]]
  | _ => []

end Edit

/-- The typing core holds the password and the passwords that were handed over. -/
structure TypingCore where
  password : SwaylockPassword
  passwords : List (List UInt8)

/-- The typing core of a state forgets everything else. -/
def SwaylockState.typingCore (state : SwaylockState) : TypingCore := ⟨state.password, state.passwords⟩

/-- The program carries out an edit on its buffer. -/
def TypingCore.edit (core : TypingCore) : Edit → TypingCore
  | .keep => core
  | .push ch => { core with password := core.password.appendCh ch }
  | .pop => { core with password := core.password.backspace }
  | .empty => { core with password := core.password.clear }
  | .submit written =>
      ⟨core.password.clear,
        if written then core.passwords ++ [core.password.buffer.take (core.password.len + 1)] else core.passwords⟩

/-- A password is submitted unless it is empty and ignored or another one is being validated. -/
def submission (state : SwaylockState) (written : Bool) : Edit :=
  if state.scene.args.ignoreEmpty && state.password.len == 0 then .keep
  else if state.authState == .validating then .keep
  else .submit written

/-- A key that inputs a character pushes it. -/
def typed (codepoint : UInt32) : Edit := if codepoint = 0 then .keep else .push codepoint

/-- A key stands for an edit. -/
def keyEdit (state : SwaylockState) (keysym : Keysym) (codepoint : UInt32) (written : Bool) : Edit :=
  match keysym with
  | .kpEnter | .return => submission state written
  | .delete | .backSpace => if state.xkb.control then .empty else .pop
  | .escape => .empty
  | .capsLock | .shiftL | .shiftR | .controlL | .controlR | .metaL | .metaR | .altL | .altR
  | .superL | .superR => .keep
  | .m | .d | .j => if state.xkb.control then submission state written else typed codepoint
  | .c | .u => if state.xkb.control then .empty else typed codepoint
  | .other _ => typed codepoint

/-- A timer stands for an edit when it clears the password or repeats a key. -/
def timerEdit (state : SwaylockState) (written : Bool) : Option TimerCallback → Edit
  | some .clearPassword => .empty
  | some (.keyboardRepeat seat) =>
      match state.seats.cell seat with
      | some record => keyEdit state (.ofCode record.repeatSym) record.repeatCodepoint written
      | none => .keep
  | _ => .keep

/-- An event stands for an edit when it is a key press outside the grace period or such a timer. -/
def Event.edit (state : SwaylockState) : Event → Edit
  | .key _ pressed sym codepoint result =>
      if state.xkb.state && pressed && state.graceTimer.isNone then
        keyEdit state (.ofCode sym) codepoint result.written
      else .keep
  | .timer id result => timerEdit state result.written (state.scene.eventloop.due state.scene.clock id)
  | _ => .keep

/-- The observer keeps the text that the edits of a run produce. -/
def typedText (text : List UInt32) (state : SwaylockState) (occurrence : Occurrence) : List UInt32 :=
  (occurrence.event.edit state).apply state.password.bufferLen text

section Keys

theorem submitPassword_typing (state : SwaylockState) (written : Bool) :
    (submitPassword state written).typingCore = state.typingCore.edit (submission state written) := by
  unfold submitPassword submission
  split
  · rfl
  · split
    · rfl
    · cases written <;> rfl

theorem eraseByKey_typing (state : SwaylockState) (random : Nat) :
    (eraseByKey state random).typingCore =
      state.typingCore.edit (if state.xkb.control then .empty else .pop) := by
  unfold eraseByKey
  split
  · rfl
  · dsimp only
    split <;> rfl

theorem appendByKey_typing (state : SwaylockState) (codepoint : UInt32) (random : Nat) :
    (appendByKey state codepoint random).typingCore = state.typingCore.edit (typed codepoint) := by
  unfold appendByKey typed
  split <;> rfl

theorem swaylockHandleKey_typing (state : SwaylockState) (keysym : Keysym) (codepoint : UInt32) (random : Nat)
    (written : Bool) :
    (swaylockHandleKey state keysym codepoint random written).typingCore =
      state.typingCore.edit (keyEdit state keysym codepoint written) := by
  have submits := submitPassword_typing state written
  have appends := appendByKey_typing state codepoint random
  have either {one two : SwaylockState} {first second : Edit} (held : one.typingCore = state.typingCore.edit first)
      (plain : two.typingCore = state.typingCore.edit second) :
      (if state.xkb.control then one else two).typingCore =
        state.typingCore.edit (if state.xkb.control then first else second) := by
    cases state.xkb.control with
    | false => exact plain
    | true => exact held
  have clears : (clearByKey state).typingCore = state.typingCore.edit .empty := rfl
  unfold swaylockHandleKey keyEdit
  cases keysym with
  | kpEnter => exact submits
  | «return» => exact submits
  | delete => exact eraseByKey_typing state random
  | backSpace => exact eraseByKey_typing state random
  | other => exact appends
  | m => exact either submits appends
  | d => exact either submits appends
  | j => exact either submits appends
  | c => exact either clears appends
  | u => exact either clears appends
  | _ => rfl

theorem keyboardKey_typing (state : SwaylockState) (id : SeatId) (pressed : Bool) (sym codepoint : UInt32)
    (result : InputResult) :
    Ensures (keyboardKey state id pressed sym codepoint result.random result.written) fun next =>
      next.typingCore = state.typingCore.edit (Event.edit state (.key id pressed sym codepoint result)) := by
  unfold keyboardKey Event.edit
  dsimp only
  cases loaded : state.xkb.state with
  | false => exact .pure rfl
  | true =>
      by_cases unlocks : (pressed && state.graceTimer.isSome) = true
      · rw [if_neg (by decide), if_pos unlocks]
        rw [Bool.and_eq_true] at unlocks
        rw [if_neg (by simpa using fun _ => Option.isSome_iff_ne_none.mp unlocks.2)]
        exact .pure rfl
      · rw [if_neg (by decide), if_neg unlocks]
        have handled : (if pressed then swaylockHandleKey state (.ofCode sym) codepoint result.random result.written
            else state).typingCore = state.typingCore.edit
              (if true && pressed && state.graceTimer.isNone then
                keyEdit state (.ofCode sym) codepoint result.written
              else .keep) := by
          cases pressed with
          | false => rfl
          | true =>
              rw [if_pos rfl, if_pos (by simpa using unlocks)]
              exact swaylockHandleKey_typing state _ _ _ _
        rw [← handled]
        generalize (if pressed then swaylockHandleKey state (.ofCode sym) codepoint result.random result.written
          else state) = pressedState
        refine .via (fun stopped => stopped.typingCore = pressedState.typingCore) ?_ fun stopped same => ?_
        · exact .read fun seat _ => .pure rfl
        · refine .read fun seat _ => ?_
          split <;> exact .pure same

theorem dispatchTimer_typing (state : SwaylockState) (env : Environment) (timer : TimerId) (result : InputResult) :
    Ensures (dispatchTimer state env timer result) fun next =>
      next.typingCore = state.typingCore.edit (Event.edit state (.timer timer result)) := by
  refine .read fun callback due => ?_
  unfold Event.edit
  dsimp only
  rw [due]
  refine .via (fun middle => middle.typingCore = state.typingCore.edit (timerEdit state result.written (some callback)))
    ?_ fun middle same => .pure same
  cases callback with
  | setInputIdle => exact .pure rfl
  | setAuthIdle => exact .pure rfl
  | clearPassword => exact .pure rfl
  | hiddenCheckTimeout => exact .pure rfl
  | graceTimeout => exact .pure rfl
  | clientConnectionTimeout client => exact .via (fun _ => True) (fun _ _ => trivial) fun _ _ => .pure rfl
  | outputRedrawTimeout output => exact .via (fun _ => True) (fun _ _ => trivial) fun _ _ => .pure rfl
  | keyboardRepeat seat =>
      refine .read fun record present => .pure ?_
      rw [swaylockHandleKey_typing]
      unfold timerEdit
      dsimp only
      rw [present]
      rfl

end Keys

theorem typing_of_step {state next : SwaylockState} {occurrence : Occurrence}
    (moved : swaylock.machine.step state occurrence next) :
    next.typingCore = state.typingCore.edit (occurrence.event.edit state) := by
  obtain ⟨event, env⟩ := occurrence
  obtain ⟨_, handled⟩ := moved
  revert next
  change Ensures (handleEvent state env event) fun next => next.typingCore = state.typingCore.edit (event.edit state)
  cases event with
  | timer timer result => exact dispatchTimer_typing state env timer result
  | key seat pressed sym codepoint result => exact keyboardKey_typing state seat pressed sym codepoint result
  | tick => exact .pure rfl
  | scene => exact .via (fun _ => True) (fun _ _ => trivial) fun _ _ => .pure rfl
  | seatAdded => exact .pure rfl
  | seatCapabilities => exact .read fun _ _ => .pure rfl
  | keymap => exact .pure rfl
  | keyboardLeave => exact .read fun _ _ => .pure rfl
  | modifiers =>
      refine .pure ?_
      unfold keyboardModifiers
      split
      · rfl
      · dsimp only
        split <;> rfl
  | repeatInfo => exact .read fun _ _ => .pure rfl
  | pointerEnter =>
      intro next entered
      rw [wlPointerEnter_ok entered]
      rfl
  | pointerMotion =>
      intro next moved
      rw [wlPointerMotion_ok moved]
      rfl
  | commReply success => cases success <;> exact .pure rfl
  | lockNow =>
      refine .pure ?_
      unfold lockIn
      split <;> rfl
  | sleepNotice =>
      refine .pure ?_
      unfold sleepIn
      split <;> rfl
  | sweep => exact .pure rfl
  | start =>
      exact .via (fun _ => True) (fun _ _ => trivial) fun _ _ =>
        .via (fun _ => True) (fun _ _ => trivial) fun _ _ => .pure rfl
  | startGrace watcher =>
      refine .pure ?_
      unfold startGracePeriod
      split
      · cases watcher <;> rfl
      · rfl
  | armHiddenCheck => exact .pure rfl
  | resume => exact .pure rfl
  | _ =>
      refine (handleEvent_plain state env rfl).weaken ?_
      rintro _ ⟨_, _, _, _, _, rfl⟩
      rfl

theorem Event.edit_push (state : SwaylockState) (event : Event) : event.edit state ≠ .push 0 := by
  have types (codepoint : UInt32) : typed codepoint ≠ .push 0 := by
    unfold typed
    split
    · nofun
    · rename_i other
      rintro ⟨⟩
      exact other rfl
  have submits (written : Bool) : submission state written ≠ .push 0 := by
    unfold submission
    split
    · nofun
    · split <;> nofun
  have keys (keysym : Keysym) (codepoint : UInt32) (written : Bool) :
      keyEdit state keysym codepoint written ≠ .push 0 := by
    have either {one two : Edit} (held : one ≠ .push 0) (plain : two ≠ .push 0) :
        (if state.xkb.control then one else two) ≠ .push 0 := by
      split
      · exact held
      · exact plain
    unfold keyEdit
    cases keysym with
    | kpEnter => exact submits written
    | «return» => exact submits written
    | delete => exact either nofun nofun
    | backSpace => exact either nofun nofun
    | other => exact types codepoint
    | m => exact either (submits written) (types codepoint)
    | d => exact either (submits written) (types codepoint)
    | j => exact either (submits written) (types codepoint)
    | c => exact either nofun (types codepoint)
    | u => exact either nofun (types codepoint)
    | _ => nofun
  cases event with
  | timer timer result =>
      change timerEdit state result.written _ ≠ _
      cases state.scene.eventloop.due state.scene.clock timer with
      | none => nofun
      | some callback =>
          cases callback with
          | keyboardRepeat seat =>
              change (match state.seats.cell seat with
                | some record => keyEdit state (.ofCode record.repeatSym) record.repeatCodepoint result.written
                | none => .keep) ≠ _
              cases state.seats.cell seat with
              | none => nofun
              | some record => exact keys _ _ _
          | _ => nofun
  | key seat pressed sym codepoint result =>
      change (if _ then keyEdit state (.ofCode sym) codepoint result.written else .keep) ≠ _
      split
      · exact keys _ _ _
      · nofun
  | _ => nofun

theorem TypingCore.edit_spells (core : TypingCore) {text : List UInt32} (spells : core.password.Spells text)
    {edit : Edit} (proper : edit ≠ .push 0) :
    (core.edit edit).password.Spells (edit.apply core.password.bufferLen text) ∧
      (core.edit edit).password.bufferLen = core.password.bufferLen ∧
      (core.edit edit).passwords = core.passwords ++ edit.hands text := by
  have cleared : core.password.clear.bufferLen = core.password.bufferLen := List.length_replicate
  cases edit with
  | keep => exact ⟨spells, rfl, (List.append_nil _).symm⟩
  | push ch =>
      obtain ⟨appended, kept⟩ := spells.appendCh (show ch ≠ 0 from fun zero => proper (congrArg Edit.push zero))
      refine ⟨?_, kept, (List.append_nil _).symm⟩
      rw [Edit.apply, utf8Encode_length, ← spells.len]
      exact appended
  | pop => exact ⟨spells.backspace.1, spells.backspace.2, (List.append_nil _).symm⟩
  | empty => exact ⟨spells.clear, cleared, (List.append_nil _).symm⟩
  | submit written =>
      refine ⟨spells.clear, cleared, ?_⟩
      cases written with
      | false => exact (List.append_nil _).symm
      | true =>
          change core.passwords ++ [core.password.buffer.take (core.password.len + 1)] = _
          rw [spells.handed]
          rfl

theorem spells_of_reachable {state : SwaylockState} {text : List UInt32}
    (reachable : (swaylock.machine.observed [] typedText).Reachable (state, text)) :
    state.password.Spells text ∧ state.password.bufferLen = 1024 := by
  refine reachable.invariant (fun pair => pair.1.password.Spells pair.2 ∧ pair.1.password.bufferLen = 1024) ?_ ?_
  · rintro ⟨state, text⟩ ⟨start, rfl⟩
    obtain ⟨len, size, head⟩ := start.password
    obtain ⟨rest, memory⟩ := List.head?_eq_some_iff.mp head
    refine ⟨⟨⟨rest, memory⟩, len, fun _ member => (nomatch member), ?_⟩, size⟩
    rw [len, size]
    decide
  · rintro ⟨state, text⟩ occurrence ⟨next, text'⟩ ⟨spells, size⟩ ⟨moved, rfl⟩
    have edited : next.password = (state.typingCore.edit (occurrence.event.edit state)).password :=
      congrArg TypingCore.password (typing_of_step moved)
    obtain ⟨after, kept, _⟩ := state.typingCore.edit_spells spells
      (occurrence.event.edit_push state)
    change next.password.Spells _ ∧ next.password.bufferLen = 1024
    rw [edited, kept]
    exact ⟨after, size⟩

/-- The buffer holds the typed text, refuses what does not fit, and a submission hands the text over. -/
theorem password_is_typed_text {state : SwaylockState} {text : List UInt32}
    (reachable : (swaylock.machine.observed [] typedText).Reachable (state, text)) :
    state.password.buffer.take state.password.len = encodeText text ∧
    state.password.buffer[state.password.len]? = some 0 ∧
    (∀ byte ∈ state.password.buffer.take state.password.len, byte ≠ 0) ∧
    state.password.len + 1 < state.password.bufferLen ∧
    (∀ ch, ch ≠ 0 → (state.password.appendCh ch = state.password ↔
      state.password.bufferLen ≤ state.password.len + (utf8Encode ch).length + 1)) ∧
    ∀ occurrence next, swaylock.machine.step state occurrence next →
      next.passwords = state.passwords ++ (occurrence.event.edit state).hands text := by
  obtain ⟨spells, _⟩ := spells_of_reachable reachable
  have held : state.password.buffer.take state.password.len = encodeText text := by
    obtain ⟨rest, memory⟩ := spells.memory
    rw [memory, spells.len, List.take_left]
  refine ⟨held, spells.terminated, ?_, spells.room, fun ch other => ?_, fun occurrence next moved => ?_⟩
  · rw [held]
    exact spells.bytes
  · rw [utf8Encode_length]
    exact spells.refused_iff other
  · have handed := congrArg TypingCore.passwords (typing_of_step moved)
    exact handed.trans (state.typingCore.edit_spells spells
      (occurrence.event.edit_push state)).2.2

/-- A user types a letter and a euro sign on a new keyboard. -/
def typingEvents : List Event :=
  [.start, .check true, .seatAdded, .seatCapabilities 0 true true, .keymap true,
    .key 0 true 0x61 0x61 ⟨0, true⟩, .key 0 true 0x20ac 0x20ac ⟨0, true⟩]

/-- After a letter and a euro sign the buffer holds the encoding of a text of four bytes. -/
theorem password_is_typed_text_euro : ∃ (state : SwaylockState) (text : List UInt32),
    state.password.len = 4 ∧ state.password.buffer.take 4 = encodeText text := by
  obtain ⟨state, run, passed⟩ := swaylock.play_runs (typingEvents.map Event.obliged)
    (fun state => state.password.len == 4) (by decide +kernel : (swaylock.play defaultState _).any _ = true)
  obtain ⟨text, path⟩ := run.observed [] typedText []
  have start : (swaylock.machine.observed [] typedText).initial (defaultState, []) :=
    ⟨startState_initial _ _ _, rfl⟩
  have reachable := Machine.Reachable.run (.initial start) path
  have len : state.password.len = 4 := by simpa using passed
  have held := (password_is_typed_text reachable).1
  rw [len] at held
  exact ⟨state, text, len, held⟩

end SwaylockPlugin
