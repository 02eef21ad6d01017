import SwaylockPlugin.Construction.Comm
import SwaylockPlugin.Proof.Typing

namespace SwaylockPlugin.Backend

open Library

section Requests

/-- The main process has these bytes to send unless it ended. -/
def MainPhase.Sends : MainPhase → List UInt8 → Prop
  | .writingSize transfer password, rest =>
      transfer.done = false ∧ password.len + 1 ≤ password.buffer.length ∧ rest = transfer.left ++ request password
  | .writingBuffer transfer, rest => transfer.done = false ∧ rest = transfer.left
  | .exited, _ => True
  | _, rest => rest = []

/-- The child is within the frames of the requests that it has not returned, and the rest of them comes. -/
def ChildPhase.Awaits : ChildPhase → List (List UInt8) → List UInt8 → Prop
  | .readingSize transfer, pending, rest =>
      transfer.done = false ∧ transfer.size = 8 ∧ transfer.moved ++ rest = sizeFraming.stream pending
  | .creating size, pending, rest =>
      ∃ message later, pending = message :: later ∧ size = message.length ∧ rest = message ++ sizeFraming.stream later
  | .readingBuffer transfer, pending, rest => transfer.done = false ∧
      ∃ message later, pending = message :: later ∧ transfer.size = message.length ∧
        transfer.moved ++ rest = message ++ sizeFraming.stream later
  | .exited, _, _ => True
  | _, pending, rest => rest = sizeFraming.stream pending

/-- The bytes in the pipe and in the two processes are the frames of the requests that are not returned yet. -/
def Framed (state : BackendState) : Prop :=
  ∃ pending rest, state.submitted.map request = state.returned ++ pending ∧ state.main.Sends rest ∧
    state.child.Awaits pending (state.requests ++ rest)

/-- Every submitted password is a text in its buffer. -/
def Terminated (state : BackendState) : Prop :=
  ∀ password ∈ state.submitted, (request password).length = password.len + 1 ∧
    (request password).getLast? = some 0 ∧ password.len + 1 < 2 ^ 64

theorem request_terminated {password : SwaylockPassword} (text : password.buffer[password.len]? = some 0) :
    (request password).length = password.len + 1 ∧ (request password).getLast? = some 0 := by
  obtain ⟨inside, last⟩ := List.getElem?_eq_some_iff.mp text
  have whole : request password = password.buffer.take password.len ++ [0] := by
    rw [request, List.take_add_one, text]
    rfl
  refine ⟨?_, ?_⟩
  · rw [request, List.length_take]
    omega
  · rw [whole, List.getLast?_concat]

variable {backend : PwBackend} {state : BackendState}

theorem Terminated.pending (terminated : Terminated state) {pending later : List (List UInt8)} {message : List UInt8}
    (listed : state.submitted.map request = state.returned ++ pending) (first : pending = message :: later) :
    0 < message.length ∧ message.length < 256 ^ 8 ∧ message.getLast? = some 0 := by
  have member : message ∈ state.submitted.map request := by
    rw [listed, first]
    exact List.mem_append_right _ List.mem_cons_self
  obtain ⟨password, submitted, rfl⟩ := List.mem_map.mp member
  obtain ⟨length, last, fits⟩ := terminated password submitted
  exact ⟨by omega, by omega, last⟩

theorem ChildPhase.Awaits.snoc {child : ChildPhase} {pending : List (List UInt8)} {rest : List UInt8}
    (awaits : child.Awaits pending rest) (message : List UInt8) :
    child.Awaits (pending ++ [message]) (rest ++ sizeFraming.frame message) := by
  cases child with
  | readingSize transfer =>
      obtain ⟨undone, size, got⟩ := awaits
      refine ⟨undone, size, ?_⟩
      rw [← List.append_assoc, got, Framing.stream_snoc]
  | creating size =>
      obtain ⟨first, later, rfl, same, got⟩ := awaits
      refine ⟨first, later ++ [message], rfl, same, ?_⟩
      rw [got, Framing.stream_snoc, List.append_assoc]
  | readingBuffer transfer =>
      obtain ⟨undone, first, later, rfl, size, got⟩ := awaits
      refine ⟨undone, first, later ++ [message], rfl, size, ?_⟩
      rw [← List.append_assoc, got, Framing.stream_snoc, List.append_assoc]
  | checking buffer =>
      have got : rest = sizeFraming.stream pending := awaits
      rw [got, ← Framing.stream_snoc]
      rfl
  | writingReply transfer success =>
      have got : rest = sizeFraming.stream pending := awaits
      rw [got, ← Framing.stream_snoc]
      rfl
  | exited => exact trivial

theorem mainWrites_framed (framed : Framed state) (count : Nat) :
    ∃ next, mainWrites state count = .ok next ∧ Framed next ∧ next.submitted = state.submitted := by
  obtain ⟨pending, rest, listed, sends, awaits⟩ := framed
  unfold mainWrites
  split
  · rename_i transfer password main
    rw [main] at sends
    obtain ⟨_, fits, rfl⟩ := sends
    have stream := transfer.send_stream state.requests count
    dsimp only
    split
    · rename_i done
      rw [Transfer.left_of_done done, List.append_nil] at stream
      refine ⟨_, rfl, ⟨pending, request password, listed, ⟨?_, rfl⟩, ?_⟩, rfl⟩
      · exact decide_eq_false (Nat.not_succ_le_zero password.len)
      · dsimp only
        rw [stream, List.append_assoc]
        exact awaits
    · rename_i undone
      refine ⟨_, rfl, ⟨pending, _, listed, ⟨(Bool.not_eq_true _).mp undone, fits, rfl⟩, ?_⟩, rfl⟩
      dsimp only
      rw [← List.append_assoc, stream, List.append_assoc]
      exact awaits
  · rename_i transfer main
    rw [main] at sends
    obtain ⟨_, rfl⟩ := sends
    have stream := transfer.send_stream state.requests count
    dsimp only
    split
    · rename_i done
      rw [Transfer.left_of_done done] at stream
      refine ⟨_, rfl, ⟨pending, [], listed, rfl, ?_⟩, rfl⟩
      dsimp only
      rw [stream]
      exact awaits
    · rename_i undone
      refine ⟨_, rfl, ⟨pending, _, listed, ⟨(Bool.not_eq_true _).mp undone, rfl⟩, ?_⟩, rfl⟩
      dsimp only
      rw [stream]
      exact awaits
  · exact ⟨state, rfl, ⟨pending, rest, listed, sends, awaits⟩, rfl⟩

theorem mainReads_framed (framed : Framed state) (count : Nat) :
    ∃ next, mainReads state count = .ok next ∧ Framed next ∧ next.submitted = state.submitted := by
  obtain ⟨pending, rest, listed, sends, awaits⟩ := framed
  unfold mainReads
  split
  · rename_i transfer main
    rw [main] at sends
    dsimp only
    split <;> exact ⟨_, rfl, ⟨pending, rest, listed, sends, awaits⟩, rfl⟩
  · exact ⟨state, rfl, ⟨pending, rest, listed, sends, awaits⟩, rfl⟩

theorem childReads_framed (framed : Framed state) (terminated : Terminated state) (count : Nat) :
    ∃ next, childReads state count = .ok next ∧ Framed next ∧ next.submitted = state.submitted := by
  obtain ⟨pending, rest, listed, sends, awaits⟩ := framed
  have ended : Framed { state with child := .exited } := ⟨pending, rest, listed, sends, trivial⟩
  have received (transfer : Transfer UInt8) : (transfer.receive state.requests count).1.moved ++
      ((transfer.receive state.requests count).2 ++ rest) = transfer.moved ++ (state.requests ++ rest) := by
    rw [← List.append_assoc, transfer.receive_stream, List.append_assoc]
  unfold childReads
  split
  · rename_i transfer child
    rw [child] at awaits
    obtain ⟨_, size, got⟩ := awaits
    split
    · exact ⟨_, rfl, ended, rfl⟩
    · have stream := (received transfer).trans got
      dsimp only
      split
      · rename_i done
        have full := Transfer.length_of_done done
        obtain ⟨message, later, first, header, body⟩ := Framing.of_header stream (full.trans size)
        obtain ⟨positive, fits, _⟩ := terminated.pending listed first
        have length : sizeFraming.lengthOf (transfer.receive state.requests count).1.payload = message.length := by
          rw [Transfer.payload_of_done done, header]
          exact sizeFraming.lengthOf_header message.length fits
        rw [length, decide_eq_true positive]
        exact ⟨_, rfl, ⟨pending, rest, listed, sends, message, later, first, rfl, body⟩, rfl⟩
      · rename_i undone
        exact ⟨_, rfl, ⟨pending, rest, listed, sends, (Bool.not_eq_true _).mp undone, size, stream⟩, rfl⟩
  · rename_i transfer child
    rw [child] at awaits
    obtain ⟨_, message, later, first, size, got⟩ := awaits
    split
    · exact ⟨_, rfl, ended, rfl⟩
    · have stream := (received transfer).trans got
      dsimp only
      split
      · rename_i done
        have full := Transfer.length_of_done done
        obtain ⟨whole, body⟩ := Framing.of_message stream (full.trans size)
        obtain ⟨_, _, last⟩ := terminated.pending listed first
        rw [Transfer.payload_of_done done, whole, last]
        refine ⟨_, rfl, ⟨later, rest, ?_, sends, body⟩, rfl⟩
        rw [List.append_assoc, List.singleton_append, ← first]
        exact listed
      · rename_i undone
        refine ⟨_, rfl, ⟨pending, rest, listed, sends, (Bool.not_eq_true _).mp undone, message, later, first, size, ?_⟩, rfl⟩
        exact stream
  · exact ⟨state, rfl, ⟨pending, rest, listed, sends, awaits⟩, rfl⟩

theorem childWrites_framed (framed : Framed state) (count : Nat) : Framed (childWrites backend state count) := by
  obtain ⟨pending, rest, listed, sends, awaits⟩ := framed
  unfold childWrites
  split
  · rename_i transfer success child
    rw [child] at awaits
    refine ⟨pending, rest, listed, sends, ?_⟩
    dsimp only
    split
    · split
      · exact trivial
      · refine ⟨?_, ?_, ?_⟩
        · decide
        · exact List.length_replicate
        · rw [Transfer.whole_moved, List.nil_append]
          exact awaits
    · exact awaits
  · exact ⟨pending, rest, listed, sends, awaits⟩

theorem handleBackend_framed (framed : Framed state) (terminated : Terminated state) {event : BackendEvent}
    (allowed : backendEnabled backend state event = true) :
    ∃ next, handleBackend backend state event = .ok next ∧ Framed next ∧ Terminated next := by
  have kept {computation : Handled BackendState}
      (goes : ∃ next, computation = .ok next ∧ Framed next ∧ next.submitted = state.submitted) :
      ∃ next, computation = .ok next ∧ Framed next ∧ Terminated next := by
    obtain ⟨next, computed, framed, same⟩ := goes
    exact ⟨next, computed, framed, by rw [Terminated, same]; exact terminated⟩
  have returned {next : BackendState} (framed : Framed next) (same : next.submitted = state.submitted) :
      ∃ last, (pure next : Handled BackendState) = .ok last ∧ Framed last ∧ Terminated last :=
    ⟨next, rfl, framed, by rw [Terminated, same]; exact terminated⟩
  obtain ⟨pending, rest, listed, sends, awaits⟩ := framed
  cases event with
  | submit password =>
      simp only [backendEnabled, Bool.and_eq_true, beq_iff_eq, decide_eq_true_eq] at allowed
      obtain ⟨⟨idle, text⟩, fits⟩ := allowed
      obtain ⟨length, last⟩ := request_terminated text
      rw [idle] at sends
      cases sends
      refine ⟨_, rfl, ⟨pending ++ [request password], sizeFraming.frame (request password), ?_, ⟨?_, ?_, ?_⟩, ?_⟩, ?_⟩
      · change (state.submitted ++ [password]).map request = _
        rw [List.map_append, listed, List.append_assoc]
        rfl
      · rfl
      · have inside := (List.getElem?_eq_some_iff.mp text).1
        omega
      · rw [Framing.frame, length, Transfer.whole_left]
      · have extended := awaits.snoc (request password)
        rw [List.append_nil] at extended
        exact extended
      · intro other member
        rcases List.mem_append.mp member with old | new
        · exact terminated other old
        · cases List.mem_singleton.mp new
          have inside := (List.getElem?_eq_some_iff.mp text).1
          exact ⟨length, last, Nat.lt_of_le_of_lt inside fits⟩
  | mainWrites count => exact kept (mainWrites_framed ⟨pending, rest, listed, sends, awaits⟩ count)
  | pollIn =>
      simp only [backendEnabled, Bool.and_eq_true, beq_iff_eq] at allowed
      rw [allowed.1] at sends
      exact returned ⟨pending, rest, listed, sends, awaits⟩ rfl
  | mainReads count => exact kept (mainReads_framed ⟨pending, rest, listed, sends, awaits⟩ count)
  | mainExits => exact returned ⟨pending, rest, listed, trivial, awaits⟩ rfl
  | childReads count => exact kept (childReads_framed ⟨pending, rest, listed, sends, awaits⟩ terminated count)
  | created buffer =>
      cases buffer with
      | none => exact returned ⟨pending, rest, listed, sends, trivial⟩ rfl
      | some buffer =>
          cases child : state.child with
          | creating size =>
              simp only [backendEnabled, child, Option.all_some, beq_iff_eq] at allowed
              rw [child] at awaits
              obtain ⟨message, later, first, rfl, got⟩ := awaits
              refine returned ⟨pending, rest, listed, sends, ?_, message, later, first, allowed, ?_⟩ rfl
              · have positive := (terminated.pending listed first).1
                exact decide_eq_false (by rw [Transfer.whole_size, allowed]; exact Nat.not_le_of_lt positive)
              · exact got
          | _ => simp [backendEnabled, child] at allowed
  | checked verdict =>
      cases verdict with
      | none => exact returned ⟨pending, rest, listed, sends, trivial⟩ rfl
      | some success =>
          cases child : state.child with
          | checking buffer =>
              rw [child] at awaits
              exact returned ⟨pending, rest, listed, sends, awaits⟩ rfl
          | _ => simp [backendEnabled, child] at allowed
  | childWrites count =>
      refine returned (childWrites_framed ⟨pending, rest, listed, sends, awaits⟩ count) ?_
      unfold childWrites
      split <;> rfl
  | interrupted => exact returned ⟨pending, rest, listed, sends, awaits⟩ rfl

end Requests

section Replies

/-- A verdict is one byte. -/
def replyByte (success : Bool) : UInt8 := if success then 1 else 0

/-- The child has this verdict to write. -/
def ChildPhase.reply : ChildPhase → List Bool
  | .writingReply _ success => [success]
  | _ => []

/-- The child decided about every request that it returned but the one that it checks. -/
def ChildPhase.Decides : ChildPhase → List (List UInt8) → Nat → Prop
  | .checking buffer, returned, decided => ∃ earlier, returned = earlier ++ [buffer] ∧ earlier.length = decided
  | .exited, returned, decided => returned.length = decided ∨ returned.length = decided + 1
  | _, returned, decided => returned.length = decided

/-- The verdicts stand in order in the main process, the pipe and the child, and an accepted password is the last one for
the PAM child. -/
structure Paired (backend : PwBackend) (state : BackendState) : Prop where
  waiting : ∃ waiting, state.verdicts = state.answers ++ waiting ++ state.child.reply ∧
    state.replies = waiting.map replyByte
  asking : ∀ transfer, state.main = .readingReply transfer → transfer = .whole [0] ∧ state.replies ≠ []
  writing : ∀ transfer success, state.child = .writingReply transfer success → transfer = .whole [replyByte success]
  decides : state.child.Decides state.returned state.verdicts.length
  rejected : backend = .pam → true ∉ state.verdicts.dropLast
  accepted : backend = .pam → true ∈ state.verdicts → state.returned.length = state.verdicts.length ∧
    (state.child = .exited ∨ ∃ transfer, state.child = .writingReply transfer true)

theorem not_mem_dropLast_concat {verdicts : List Bool} {success : Bool} (none_ : true ∉ verdicts) :
    true ∉ (verdicts ++ [success]).dropLast := by
  rw [List.dropLast_concat]
  exact none_

variable {backend : PwBackend} {state : BackendState}

theorem Paired.unaccepted (paired : Paired backend state) (pam : backend = .pam) (serving : state.child ≠ .exited)
    (silent : state.child.reply = []) : true ∉ state.verdicts := by
  intro accepted
  rcases (paired.accepted pam accepted).2 with elapsed | ⟨transfer, writing⟩
  · exact serving elapsed
  · rw [writing] at silent
    cases silent

/-- An event that leaves the verdicts and the pipe of replies alone and moves the child on keeps the pairs. -/
theorem Paired.quiet {next : BackendState} (paired : Paired backend state) (verdicts : next.verdicts = state.verdicts)
    (answers : next.answers = state.answers) (replies : next.replies = state.replies)
    (asking : ∀ transfer, next.main = .readingReply transfer → transfer = .whole [0] ∧ state.replies ≠ [])
    (reply : next.child.reply = state.child.reply)
    (writing : ∀ transfer success, next.child = .writingReply transfer success → next.child = state.child)
    (decides : next.child.Decides next.returned state.verdicts.length)
    (accepted : backend = .pam → true ∈ state.verdicts → next.child = state.child ∧ next.returned = state.returned) :
    Paired backend next := by
  refine ⟨?_, ?_, ?_, ?_, ?_, ?_⟩
  · rw [verdicts, answers, replies, reply]
    exact paired.waiting
  · rw [replies]
    exact asking
  · exact fun transfer success there => paired.writing transfer success ((writing transfer success there).symm.trans there)
  · rw [verdicts]
    exact decides
  · rw [verdicts]
    exact paired.rejected
  · intro pam member
    rw [verdicts] at member
    obtain ⟨same, returned⟩ := accepted pam member
    rw [returned, verdicts, same]
    exact paired.accepted pam member

theorem Paired.child {child : ChildPhase} {requests : List UInt8} {returned : List (List UInt8)}
    (paired : Paired backend state) (serving : state.child ≠ .exited) (silent : state.child.reply = [])
    (reply : child.reply = []) (decides : child.Decides returned state.verdicts.length) :
    Paired backend { state with requests := requests, child := child, returned := returned } := by
  refine paired.quiet rfl rfl rfl paired.asking (reply.trans silent.symm) (fun transfer success there => ?_) decides
    fun pam member => absurd member (paired.unaccepted pam serving silent)
  have writes : child = .writingReply transfer success := there
  rw [writes] at reply
  cases reply

theorem mainReads_paired (paired : Paired backend state) {count : Nat} {transfer : Transfer UInt8}
    (main : state.main = .readingReply transfer) (allowed : reads transfer state.replies false count = true) :
    Ensures (mainReads state count) (Paired backend) := by
  obtain ⟨rfl, full⟩ := paired.asking transfer main
  obtain ⟨waiting, verdicts, replies⟩ := paired.waiting
  cases waiting with
  | nil => exact absurd replies full
  | cons verdict waiting =>
      have one : count = 1 := by
        simp only [reads, transfers, Bool.false_and, Bool.or_false, Bool.and_eq_true, decide_eq_true_eq] at allowed
        have few : count ≤ 1 := allowed.1.2
        omega
      subst one
      have decoded : ([replyByte verdict] != [0]) = verdict := by cases verdict <;> rfl
      simp only [mainReads, main, replies]
      refine .pure ⟨⟨waiting, ?_, rfl⟩, nofun, paired.writing, paired.decides, paired.rejected, paired.accepted⟩
      change state.verdicts = state.answers ++ [[replyByte verdict] != [0]] ++ waiting ++ state.child.reply
      rw [decoded, verdicts]
      simp

theorem childWrites_paired (paired : Paired backend state) {count : Nat} {transfer : Transfer UInt8} {success : Bool}
    (child : state.child = .writingReply transfer success) (allowed : transfers transfer count = true) :
    Paired backend (childWrites backend state count) := by
  have same := paired.writing transfer success child
  subst same
  obtain ⟨waiting, verdicts, replies⟩ := paired.waiting
  have decides := paired.decides
  rw [child] at verdicts decides
  have one : count = 1 := by
    simp only [transfers, Bool.and_eq_true, decide_eq_true_eq] at allowed
    have few : count ≤ 1 := allowed.2
    omega
  subst one
  have written (next : ChildPhase) (reply : next.reply = []) (decided : next.Decides state.returned state.verdicts.length)
      (ends : backend = .pam → success = true → next = .exited) :
      Paired backend { state with replies := state.replies ++ [replyByte success], child := next } := by
    refine ⟨⟨waiting ++ [success], ?_, ?_⟩, fun transfer there => ?_, fun transfer success there => ?_, decided,
      paired.rejected, fun pam member => ?_⟩
    · rw [verdicts]
      dsimp only
      rw [reply, List.append_nil, List.append_assoc]
      rfl
    · rw [List.map_append, replies]
      rfl
    · exact ⟨(paired.asking transfer there).1, by simp⟩
    · have writes : next = .writingReply transfer success := there
      rw [writes] at reply
      cases reply
    · obtain ⟨returned, _⟩ := paired.accepted pam member
      refine ⟨returned, .inl (ends pam ?_)⟩
      rcases (paired.accepted pam member).2 with elapsed | ⟨_, writing⟩
      · cases child.symm.trans elapsed
      · cases child.symm.trans writing
        rfl
  unfold childWrites
  rw [child]
  change Paired backend { state with
    replies := state.replies ++ [replyByte success]
    child := if success && backend == .pam then .exited else .waiting }
  split
  · exact written .exited rfl (.inl decides) fun _ _ => rfl
  · rename_i serves
    refine written .waiting rfl decides fun pam accepted => ?_
    rw [pam, accepted] at serves
    exact absurd rfl serves

theorem childReads_paired (paired : Paired backend state) (count : Nat) :
    Ensures (childReads state count) (Paired backend) := by
  have decides := paired.decides
  unfold childReads
  split
  · rename_i transfer child
    rw [child] at decides
    have goes (next : ChildPhase) (requests : List UInt8) (reply : next.reply = [])
        (decided : next.Decides state.returned state.verdicts.length) :
        Paired backend { state with requests := requests, child := next } :=
      paired.child (by rw [child]; exact nofun) (by rw [child]; rfl) reply decided
    split
    · exact .pure (goes .exited _ rfl (.inl decides))
    · dsimp only
      split
      · exact .check fun _ => .pure (goes (.creating _) _ rfl decides)
      · exact .pure (goes (.readingSize _) _ rfl decides)
  · rename_i transfer child
    rw [child] at decides
    have goes (next : ChildPhase) (requests : List UInt8) (returned : List (List UInt8)) (reply : next.reply = [])
        (decided : next.Decides returned state.verdicts.length) :
        Paired backend { state with requests := requests, child := next, returned := returned } :=
      paired.child (by rw [child]; exact nofun) (by rw [child]; rfl) reply decided
    split
    · exact .pure (goes .exited _ _ rfl (.inl decides))
    · dsimp only
      split
      · exact .check fun _ => .pure (goes (.checking _) _ _ rfl ⟨state.returned, rfl, decides⟩)
      · exact .pure (goes (.readingBuffer _) _ _ rfl decides)
  · exact .pure paired

theorem handleBackend_paired (paired : Paired backend state) {event : BackendEvent}
    (allowed : backendEnabled backend state event = true) :
    Ensures (handleBackend backend state event) (Paired backend) := by
  have main (phase : MainPhase) (requests : List UInt8) (submitted : List SwaylockPassword)
      (asking : ∀ transfer, phase = .readingReply transfer → transfer = .whole [0] ∧ state.replies ≠ []) :
      Paired backend { state with main := phase, requests := requests, submitted := submitted } :=
    paired.quiet rfl rfl rfl asking rfl (fun _ _ _ => rfl) paired.decides fun _ _ => ⟨rfl, rfl⟩
  have decides := paired.decides
  cases event with
  | submit password => exact .pure (main (.writingSize _ _) _ _ nofun)
  | mainWrites count =>
      change Ensures (mainWrites state count) _
      unfold mainWrites
      split
      · dsimp only
        split
        · split
          · exact .pure (main (.writingBuffer _) _ _ nofun)
          · exact .throw
        · exact .pure (main (.writingSize _ _) _ _ nofun)
      · refine .pure (main _ _ _ fun transfer same => ?_)
        split at same <;> cases same
      · exact .pure paired
  | pollIn =>
      simp only [backendEnabled, Bool.and_eq_true, Bool.not_eq_true', List.isEmpty_eq_false_iff] at allowed
      refine .pure (main (.readingReply _) _ _ fun transfer same => ?_)
      cases same
      exact ⟨rfl, allowed.2⟩
  | mainReads count =>
      cases phase : state.main with
      | readingReply transfer =>
          simp only [backendEnabled, phase] at allowed
          exact mainReads_paired paired phase allowed
      | _ => simp [backendEnabled, phase] at allowed
  | mainExits => exact .pure (main .exited _ _ nofun)
  | childReads count => exact childReads_paired paired count
  | created buffer =>
      cases child : state.child with
      | creating size =>
          rw [child] at decides
          have serving : state.child ≠ .exited := by rw [child]; exact nofun
          have silent : state.child.reply = [] := by rw [child]; rfl
          cases buffer with
          | none => exact .pure (paired.child serving silent rfl (.inl decides))
          | some buffer => exact .pure (paired.child serving silent rfl decides)
      | _ => simp [backendEnabled, child] at allowed
  | checked verdict =>
      cases child : state.child with
      | checking buffer =>
          rw [child] at decides
          have serving : state.child ≠ .exited := by rw [child]; exact nofun
          have silent : state.child.reply = [] := by rw [child]; rfl
          obtain ⟨earlier, listed, length⟩ := decides
          have decided : state.returned.length = state.verdicts.length + 1 := by
            rw [listed, List.length_append, length]
            rfl
          cases verdict with
          | none => exact .pure (paired.child serving silent rfl (.inr decided))
          | some success =>
              obtain ⟨waiting, verdicts, replies⟩ := paired.waiting
              rw [silent, List.append_nil] at verdicts
              have counted : state.returned.length = (state.verdicts ++ [success]).length := by
                rw [List.length_append]
                exact decided
              refine .pure ⟨⟨waiting, ?_, replies⟩, paired.asking, ?_, counted, fun pam => ?_, fun pam member => ?_⟩
              · exact congrArg (· ++ [success]) verdicts
              · intro transfer other same
                cases same
                rfl
              · exact not_mem_dropLast_concat (paired.unaccepted pam serving silent)
              · rcases List.mem_append.mp member with old | new
                · exact absurd old (paired.unaccepted pam serving silent)
                · cases List.mem_singleton.mp new
                  exact ⟨counted, .inr ⟨_, rfl⟩⟩
      | _ => simp [backendEnabled, child] at allowed
  | childWrites count =>
      cases child : state.child with
      | writingReply transfer success =>
          simp only [backendEnabled, child] at allowed
          exact .pure (childWrites_paired paired child allowed)
      | _ => simp [backendEnabled, child] at allowed
  | interrupted => exact .pure paired

end Replies

section Runs

variable {backend : PwBackend} {state : BackendState}

/-- The processes work with these events, and the others come from outside. -/
def BackendEvent.works : BackendEvent → Bool
  | .submit _ | .mainExits | .interrupted => false
  | _ => true

/-- The main process has this much left to do. -/
def MainPhase.work : MainPhase → Nat
  | .idle => 1
  | .writingSize transfer password => 9 * (transfer.left.length + (request password).length) + 1
  | .writingBuffer transfer => 9 * transfer.left.length + 1
  | .readingReply _ => 0
  | .exited => 0

/-- The child has this much left to do with what it has read. -/
def ChildPhase.work : ChildPhase → Nat
  | .exited => 0
  | .readingSize _ | .readingBuffer _ => 1
  | .creating _ => 2
  | .writingReply _ _ => 5
  | .checking _ => 6

/-- A byte on its way is work for the process that reads it. -/
def BackendState.work (state : BackendState) : Nat :=
  state.main.work + 8 * state.requests.length + 3 * state.replies.length + state.child.work

/-- No event with which the processes work can occur. -/
def Rests (backend : PwBackend) (state : BackendState) : Prop :=
  ∀ event, event.works = true → backendEnabled backend state event = false

theorem transfers_of_undone {transfer : Transfer UInt8} (undone : transfer.done = false) : transfers transfer 1 = true := by
  have short : ¬ transfer.size ≤ transfer.offset := of_decide_eq_false undone
  simp only [transfers, Bool.and_eq_true, decide_eq_true_eq]
  omega

theorem reads_of_undone {transfer : Transfer UInt8} (undone : transfer.done = false) {pipe : List UInt8} (closed : Bool)
    (full : pipe ≠ []) : reads transfer pipe closed 1 = true := by
  have some_ : 1 ≤ pipe.length := List.length_pos_iff.mpr full
  rw [reads, transfers_of_undone undone, decide_eq_true some_]
  rfl

theorem Rests.idle (rests : Rests backend state) (framed : Framed state) (paired : Paired backend state)
    (serving : state.child ≠ .exited) : state.main = .idle ∧ state.requests = [] ∧ state.replies = [] ∧
      ∃ transfer, state.child = .readingSize transfer ∨ state.child = .readingBuffer transfer := by
  obtain ⟨pending, rest, _, sends, awaits⟩ := framed
  have reading {transfer : Transfer UInt8} (undone : transfer.done = false)
      (child : state.child = .readingSize transfer ∨ state.child = .readingBuffer transfer) :
      state.requests = [] ∧ state.main ≠ .exited := by
    have blocked (count : Nat) : reads transfer state.requests (state.main == .exited) count = false := by
      have never := rests (.childReads count) rfl
      rcases child with child | child <;> simpa only [backendEnabled, child] using never
    have empty : state.requests = [] := by
      by_contra full
      exact absurd (reads_of_undone undone _ full) (Bool.not_eq_true _ ▸ blocked 1)
    refine ⟨empty, fun elapsed => ?_⟩
    have never := blocked 0
    simp [reads, transfers, empty, elapsed] at never
  have waits : ∃ transfer, transfer.done = false ∧
      (state.child = .readingSize transfer ∨ state.child = .readingBuffer transfer) := by
    cases child : state.child with
    | readingSize transfer =>
        rw [child] at awaits
        exact ⟨transfer, awaits.1, .inl rfl⟩
    | readingBuffer transfer =>
        rw [child] at awaits
        exact ⟨transfer, awaits.1, .inr rfl⟩
    | creating size =>
        have never := rests (.created none) rfl
        simp [backendEnabled, child] at never
    | checking buffer =>
        have never := rests (.checked (some true)) rfl
        simp [backendEnabled, child] at never
    | writingReply transfer success =>
        have never := rests (.childWrites 1) rfl
        simp only [backendEnabled, child, paired.writing transfer success child] at never
        cases never
    | exited => exact absurd child serving
  obtain ⟨transfer, undone, child⟩ := waits
  obtain ⟨empty, open_⟩ := reading undone child
  have idle : state.main = .idle := by
    cases main : state.main with
    | idle => rfl
    | writingSize transfer password =>
        rw [main] at sends
        have never := rests (.mainWrites 1) rfl
        simp only [backendEnabled, main, transfers_of_undone sends.1] at never
        cases never
    | writingBuffer transfer =>
        rw [main] at sends
        have never := rests (.mainWrites 1) rfl
        simp only [backendEnabled, main, transfers_of_undone sends.1] at never
        cases never
    | readingReply transfer =>
        obtain ⟨rfl, full⟩ := paired.asking transfer main
        have never := rests (.mainReads 1) rfl
        simp only [backendEnabled, main] at never
        exact absurd (reads_of_undone rfl false full) (Bool.not_eq_true _ ▸ never)
    | exited => exact absurd main open_
  refine ⟨idle, empty, ?_, transfer, child⟩
  have never := rests .pollIn rfl
  simpa [backendEnabled, idle] using never

theorem Rests.transferred (rests : Rests backend state) (framed : Framed state) (paired : Paired backend state)
    (serving : state.child ≠ .exited) :
    state.returned = state.submitted.map request ∧ state.verdicts.length = state.returned.length ∧
      state.answers = state.verdicts := by
  obtain ⟨main, requests, replies, transfer, child⟩ := rests.idle framed paired serving
  obtain ⟨pending, rest, listed, sends, awaits⟩ := framed
  obtain ⟨waiting, verdicts, written⟩ := paired.waiting
  have decides := paired.decides
  rw [main] at sends
  cases sends
  rw [requests] at awaits
  have none_ : pending = [] := by
    rcases child with child | child
    · rw [child] at awaits
      obtain ⟨undone, size, got⟩ := awaits
      rw [List.append_nil, List.append_nil] at got
      cases pending with
      | nil => rfl
      | cons message later =>
          have length := congrArg List.length got
          rw [Transfer.length_moved, Framing.stream_cons, List.length_append, sizeFraming.length_header] at length
          have short : ¬ transfer.size ≤ transfer.offset := of_decide_eq_false undone
          have width : sizeFraming.width = 8 := rfl
          omega
    · rw [child] at awaits
      obtain ⟨undone, message, later, _, size, got⟩ := awaits
      rw [List.append_nil, List.append_nil] at got
      have length := congrArg List.length got
      rw [Transfer.length_moved, List.length_append] at length
      have short : ¬ transfer.size ≤ transfer.offset := of_decide_eq_false undone
      omega
  have nothing : waiting = [] := List.map_eq_nil_iff.mp (written.symm.trans replies)
  have silent : state.child.reply = [] ∧ state.returned.length = state.verdicts.length := by
    rcases child with child | child
    · rw [child] at decides ⊢
      exact ⟨rfl, decides⟩
    · rw [child] at decides ⊢
      exact ⟨rfl, decides⟩
  rw [none_, List.append_nil] at listed
  rw [nothing, silent.1, List.append_nil, List.append_nil] at verdicts
  exact ⟨listed.symm, silent.2.symm, verdicts.symm⟩

theorem handleBackend_work (paired : Paired backend state) {event : BackendEvent} (works : event.works = true)
    (allowed : backendEnabled backend state event = true) :
    Ensures (handleBackend backend state event) fun next => next.work < state.work := by
  have bounds {transfer : Transfer UInt8} {count : Nat} (moves : transfers transfer count = true) :
      0 < count ∧ count ≤ transfer.size - transfer.offset := by
    simpa only [transfers, Bool.and_eq_true, decide_eq_true_eq] using moves
  cases event with
  | mainWrites count =>
      change Ensures (mainWrites state count) _
      cases main : state.main with
      | writingSize transfer password =>
          simp only [backendEnabled, main] at allowed
          obtain ⟨positive, fits⟩ := bounds allowed
          obtain ⟨sent, left⟩ := transfer.send_length state.requests fits
          simp only [mainWrites, main]
          split
          · split
            · refine .pure ?_
              simp only [BackendState.work, MainPhase.work, main, Transfer.begin_left, request, sent]
              omega
            · exact .throw
          · refine .pure ?_
            simp only [BackendState.work, MainPhase.work, main, sent]
            omega
      | writingBuffer transfer =>
          simp only [backendEnabled, main] at allowed
          obtain ⟨positive, fits⟩ := bounds allowed
          obtain ⟨sent, left⟩ := transfer.send_length state.requests fits
          simp only [mainWrites, main]
          refine .pure ?_
          split
          · simp only [BackendState.work, MainPhase.work, main, sent]
            omega
          · simp only [BackendState.work, MainPhase.work, main, sent]
            omega
      | _ => simp [backendEnabled, main] at allowed
  | pollIn =>
      simp only [backendEnabled, Bool.and_eq_true, beq_iff_eq] at allowed
      refine .pure ?_
      simp only [BackendState.work, MainPhase.work, allowed.1]
      omega
  | mainReads count =>
      change Ensures (mainReads state count) _
      cases main : state.main with
      | readingReply transfer =>
          simp only [backendEnabled, main, reads, Bool.false_and, Bool.or_false, Bool.and_eq_true,
            decide_eq_true_eq] at allowed
          obtain ⟨positive, fits⟩ := bounds allowed.1
          have taken := Transfer.receive_length fits allowed.2
          simp only [mainReads, main]
          split
          · refine .pure ?_
            simp only [BackendState.work, MainPhase.work, main]
            omega
          · refine .pure ?_
            simp only [BackendState.work, MainPhase.work, main]
            omega
      | _ => simp [backendEnabled, main] at allowed
  | childReads count =>
      change Ensures (childReads state count) _
      have taken {transfer : Transfer UInt8} (some_ : count ≠ 0)
          (allowed : reads transfer state.requests (state.main == .exited) count = true) :
          (transfer.receive state.requests count).2.length + count = state.requests.length := by
        simp only [reads, Bool.or_eq_true, Bool.and_eq_true, decide_eq_true_eq, beq_iff_eq] at allowed
        rcases allowed with ⟨moves, there⟩ | ⟨_, none_⟩
        · exact Transfer.receive_length (bounds moves).2 there
        · exact absurd none_ some_
      cases child : state.child with
      | readingSize transfer =>
          simp only [backendEnabled, child] at allowed
          simp only [childReads, child]
          split
          · refine .pure ?_
            simp only [BackendState.work, ChildPhase.work, child]
            omega
          · rename_i some_
            have got := taken some_ allowed
            split
            · refine .check fun _ => .pure ?_
              simp only [BackendState.work, ChildPhase.work, child]
              omega
            · refine .pure ?_
              simp only [BackendState.work, ChildPhase.work, child]
              omega
      | readingBuffer transfer =>
          simp only [backendEnabled, child] at allowed
          simp only [childReads, child]
          split
          · refine .pure ?_
            simp only [BackendState.work, ChildPhase.work, child]
            omega
          · rename_i some_
            have got := taken some_ allowed
            split
            · refine .check fun _ => .pure ?_
              simp only [BackendState.work, ChildPhase.work, child]
              omega
            · refine .pure ?_
              simp only [BackendState.work, ChildPhase.work, child]
              omega
      | _ => simp [backendEnabled, child] at allowed
  | created buffer =>
      cases child : state.child with
      | creating size =>
          refine .pure ?_
          cases buffer <;> simp only [created, BackendState.work, ChildPhase.work, child] <;> omega
      | _ => simp [backendEnabled, child] at allowed
  | checked verdict =>
      cases child : state.child with
      | checking size =>
          refine .pure ?_
          cases verdict <;> simp only [checked, BackendState.work, ChildPhase.work, child] <;> omega
      | _ => simp [backendEnabled, child] at allowed
  | childWrites count =>
      cases child : state.child with
      | writingReply transfer success =>
          simp only [backendEnabled, child] at allowed
          obtain ⟨positive, fits⟩ := bounds allowed
          have one : count ≤ 1 := by
            rw [paired.writing transfer success child] at fits
            exact fits
          obtain ⟨sent, _⟩ := transfer.send_length state.replies fits
          have elapsed (phase : ChildPhase) (light : phase.work ≤ 1) : BackendState.work { state with
              replies := (transfer.send state.replies count).2, child := phase } < state.work := by
            have full : state.child.work = 5 := by
              rw [child]
              rfl
            simp only [BackendState.work, sent, full]
            omega
          have done : (transfer.send state.replies count).1.done = true := by
            obtain rfl : count = 1 := by omega
            rw [paired.writing transfer success child]
            rfl
          refine .pure ?_
          simp only [childWrites, child, done, if_true]
          split
          · exact elapsed .exited (Nat.zero_le _)
          · exact elapsed .waiting (Nat.le_refl _)
      | _ => simp [backendEnabled, child] at allowed
  | submit | mainExits | interrupted => cases works

theorem guards_of_reachable (reachable : (backendProcesses backend).machine.Reachable state) :
    Framed state ∧ Terminated state ∧ Paired backend state := by
  refine reachable.invariant (fun state => Framed state ∧ Terminated state ∧ Paired backend state) ?_ ?_
  · rintro _ rfl
    refine ⟨⟨[], [], rfl, rfl, ?_, ?_, rfl⟩, nofun, ⟨[], rfl, rfl⟩, nofun, nofun, rfl, fun _ => ?_, fun _ member => ?_⟩
    · decide
    · exact List.length_replicate
    · decide
    · cases member
  · intro state event next guards moved
    obtain ⟨framed, terminated, paired⟩ := guards
    obtain ⟨last, computed, after⟩ := handleBackend_framed framed terminated moved.1
    have same : last = next := Except.ok.inj (computed.symm.trans moved.2)
    exact ⟨same ▸ after.1, same ▸ after.2, handleBackend_paired paired moved.1 next moved.2⟩

/-- In every reachable state the requests that the child returned are the first passwords that were submitted, each with its
terminating byte, the child decides about them in order, the replies that the main process read are its first verdicts, and
no assertion fails. The PAM child returns nothing behind an accepted password, and otherwise everything arrives after
finitely many turns. -/
theorem passwords_reach_backend (reachable : (backendProcesses backend).machine.Reachable state) :
    state.returned <+: state.submitted.map request ∧
    (∀ password ∈ state.submitted, (request password).length = password.len + 1 ∧
      (request password).getLast? = some 0) ∧
    state.answers <+: state.verdicts ∧ state.verdicts.length ≤ state.returned.length ∧
    (∀ buffer, state.child = .checking buffer → state.returned[state.verdicts.length]? = some buffer) ∧
    (backend = .pam → true ∉ state.verdicts.dropLast ∧
      (true ∈ state.verdicts → state.returned.length = state.verdicts.length)) ∧
    (∀ event, backendEnabled backend state event = true → ∃ next, handleBackend backend state event = .ok next ∧
      (event.works = true → next.work < state.work)) ∧
    (Rests backend state → state.child ≠ .exited → state.returned = state.submitted.map request ∧
      state.verdicts.length = state.returned.length ∧ state.answers = state.verdicts) := by
  obtain ⟨framed, terminated, paired⟩ := guards_of_reachable reachable
  have decides := paired.decides
  refine ⟨?_, fun password submitted => ?_, ?_, ?_, fun buffer checking => ?_, fun pam => ?_, fun event allowed => ?_,
    fun rests serving => ?_⟩
  · obtain ⟨pending, _, listed, _⟩ := framed
    exact ⟨pending, listed.symm⟩
  · obtain ⟨length, last, _⟩ := terminated password submitted
    exact ⟨length, last⟩
  · obtain ⟨waiting, verdicts, _⟩ := paired.waiting
    exact ⟨waiting ++ state.child.reply, by rw [verdicts, List.append_assoc]⟩
  · cases child : state.child with
    | checking buffer =>
        rw [child] at decides
        obtain ⟨earlier, listed, length⟩ := decides
        rw [listed, List.length_append, length]
        exact Nat.le_add_right _ _
    | exited =>
        rw [child] at decides
        rcases decides with all | one
        · exact Nat.le_of_eq all.symm
        · exact Nat.le_of_lt (Nat.lt_of_lt_of_eq (Nat.lt_succ_self _) one.symm)
    | _ =>
        rw [child] at decides
        exact Nat.le_of_eq (Eq.symm decides)
  · rw [checking] at decides
    obtain ⟨earlier, listed, length⟩ := decides
    rw [listed, ← length, List.getElem?_concat_length]
  · exact ⟨paired.rejected pam, fun member => (paired.accepted pam member).1⟩
  · obtain ⟨next, computed, _⟩ := handleBackend_framed framed terminated allowed
    exact ⟨next, computed, fun works => handleBackend_work paired works allowed next computed⟩
  · exact rests.transferred framed paired serving

theorem password_submits {swaylockState : SwaylockState} (reachable : swaylock.machine.Reachable swaylockState)
    (idle : state.main = .idle) : backendEnabled backend state (.submit swaylockState.password) = true := by
  obtain ⟨text, observed⟩ := reachable.observed [] typedText
  obtain ⟨spells, size⟩ := spells_of_reachable observed
  simp only [backendEnabled, idle, spells.terminated, size]
  decide

/-- Two passwords are submitted and checked while transfers are cut short and interrupted. -/
def shortTransfers : List BackendEvent :=
  [.submit ⟨[0x61, 0, 0], 1⟩, .mainWrites 3, .childReads 2, .interrupted, .mainWrites 5, .mainWrites 1, .childReads 6,
    .created (some [7, 7]), .childReads 1, .mainWrites 1, .childReads 1, .checked (some false), .childWrites 1,
    .submit ⟨[0x62, 0x63, 0], 2⟩, .mainWrites 8, .childReads 8, .created (some [0, 1, 2]), .mainWrites 3, .childReads 2,
    .pollIn, .interrupted, .mainReads 1, .childReads 1]

/-- Two passwords that were cut short arrive one after the other. -/
theorem passwords_reach_backend_short : ∃ state : BackendState, state.returned = [[0x61, 0], [0x62, 0x63, 0]] ∧
    state.returned <+: state.submitted.map request ∧ state.answers = [false] ∧ state.answers <+: state.verdicts := by
  obtain ⟨state, reachable, passed⟩ := (backendProcesses .pam).play_reachable shortTransfers
    (fun state => state.returned == [[0x61, 0], [0x62, 0x63, 0]] && state.answers == [false])
    (rfl : (backendProcesses .pam).initial .spawned) (by decide +kernel : ((backendProcesses .pam).play _ _).any _ = true)
  simp only [Bool.and_eq_true, beq_iff_eq] at passed
  obtain ⟨returned, _, answers, _⟩ := passwords_reach_backend reachable
  exact ⟨state, passed.1, returned, passed.2, answers⟩

end Runs

end SwaylockPlugin.Backend
