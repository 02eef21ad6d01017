import SwaylockPlugin.Library.Refinement
import SwaylockPlugin.Construction.Authentication
import SwaylockPlugin.Proof.Comm
import SwaylockPlugin.Proof.Validation

namespace SwaylockPlugin.Backend

open Library

section Steps

variable {State Event : Type} {checker : Checker State Event} {session next : Session State}

/-- A step of a session does one of these things. -/
inductive SessionStep (checker : Checker State Event) (session : Session State) :
    SessionEvent Event → Session State → Prop
  | replied {env : Environment} {ui : SwaylockState} {byte : UInt8} {replies : List UInt8} :
      swaylock.machine.step session.ui ⟨.commReply (byte != 0), env⟩ ui → session.backend.main = .idle →
      session.backend.replies = byte :: replies →
      SessionStep checker session (.lock ⟨.commReply (byte != 0), env⟩) { session with
        ui
        backend := { session.backend with
          replies
          main := .idle
          answers := session.backend.answers ++ [byte != 0] } }
  | submitted {occurrence : Occurrence} {ui : SwaylockState} :
      swaylock.machine.step session.ui occurrence ui → session.backend.main = .idle →
      (∀ success, occurrence.event ≠ .commReply success) → ui.passwords ≠ session.ui.passwords →
      SessionStep checker session (.lock occurrence)
        { session with ui, backend := writeCommRequest session.backend session.ui.password }
  | handled {occurrence : Occurrence} {ui : SwaylockState} :
      swaylock.machine.step session.ui occurrence ui → (∀ success, occurrence.event ≠ .commReply success) →
      ui.passwords = session.ui.passwords → SessionStep checker session (.lock occurrence) { session with ui }
  | transferred {event : BackendEvent} {backend : BackendState} :
      event.between = true → (backendProcesses checker.backend).machine.step session.backend event backend →
      SessionStep checker session (.transfer event) { session with backend }
  | judged {event : Event} {buffer : List UInt8} :
      session.backend.child = .checking buffer → checker.enabled session.checker event = true →
      SessionStep checker session (.judge event) (judge checker session buffer event)

theorem mainReads_reply {backend : BackendState} {byte : UInt8} {replies : List UInt8}
    (waiting : backend.replies = byte :: replies) :
    mainReads { backend with main := .readingReply (.whole [0]) } 1 = .ok { backend with
      replies
      main := .idle
      answers := backend.answers ++ [byte != 0] } := by
  have decoded : ([byte] != [0]) = (byte != 0) := by simp [bne]
  simp only [mainReads, waiting]
  rw [← decoded]
  rfl

theorem exchange_other (backend : BackendState) (before after : SwaylockState) {event : SwaylockPlugin.Event}
    (other : ∀ success, event ≠ .commReply success) : exchange backend before after event =
      .ok (if after.passwords = before.passwords then backend else writeCommRequest backend before.password) := by
  cases event with
  | commReply success => exact absurd rfl (other success)
  | _ => rfl

theorem sessionStep_of_step {event : SessionEvent Event} (moved : (authentication checker).machine.step session event next) :
    SessionStep checker session event next := by
  obtain ⟨allowed, computed⟩ := moved
  change sessionEnabled checker session event = true at allowed
  change handleSession checker session event = .ok next at computed
  cases event with
  | lock occurrence =>
      simp only [sessionEnabled, Bool.and_eq_true, beq_iff_eq] at allowed
      obtain ⟨⟨enabled, idle⟩, exchanges⟩ := allowed
      obtain ⟨ui, handled, rest⟩ := bind_ok.mp computed
      obtain ⟨backend, exchanged, rest⟩ := bind_ok.mp rest
      cases rest
      have stepped : swaylock.machine.step session.ui occurrence ui := ⟨enabled, handled⟩
      by_cases reply : ∃ success, occurrence.event = .commReply success
      · obtain ⟨success, replies⟩ := reply
        obtain ⟨event, env⟩ := occurrence
        cases replies
        simp only [exchangeable, Bool.and_eq_true, Option.any_eq_true, beq_iff_eq] at exchanges
        obtain ⟨_, byte, first, rfl⟩ := exchanges
        obtain ⟨replies, waiting⟩ := List.head?_eq_some_iff.mp first
        cases (mainReads_reply waiting).symm.trans exchanged
        exact .replied stepped idle waiting
      · have other (success : Bool) : occurrence.event ≠ .commReply success := fun same => reply ⟨success, same⟩
        rw [exchange_other _ _ _ other] at exchanged
        split at exchanged
        · rename_i same
          cases exchanged
          exact .handled stepped other same
        · rename_i new
          cases exchanged
          exact .submitted stepped idle other new
  | transfer event =>
      simp only [sessionEnabled, Bool.and_eq_true] at allowed
      obtain ⟨backend, handled, rest⟩ := bind_ok.mp computed
      cases rest
      exact .transferred allowed.1 ⟨allowed.2, handled⟩
  | judge event =>
      simp only [sessionEnabled, handleSession] at allowed computed
      split at allowed
      · rename_i buffer child
        rw [child] at computed
        cases computed
        exact .judged child allowed
      · cases allowed

end Steps

section Refinement

variable {State Event : Type} (checker : Checker State Event)

theorem authentication_refines_swaylock :
    Refines (authentication checker).machine swaylock.machine Session.ui where
  initial _ start := start.1
  step session event next _ _ moved := by
    cases sessionStep_of_step moved with
    | replied stepped => exact ⟨_, .single stepped⟩
    | submitted stepped => exact ⟨_, .single stepped⟩
    | handled stepped => exact ⟨_, .single stepped⟩
    | transferred => exact ⟨[], .rest _⟩
    | judged => exact ⟨[], .rest _⟩

theorem authentication_refines_backend :
    Refines (authentication checker).machine (backendProcesses checker.backend).machine Session.backend where
  initial _ start := start.2.1
  step session event next reached _ moved := by
    have located := (authentication_refines_swaylock checker).reachable reached
    cases sessionStep_of_step moved with
    | replied _ idle waiting =>
        refine ⟨[.pollIn, .mainReads 1], .step ⟨?_, rfl⟩ (.single ⟨?_, ?_⟩)⟩
        · change backendEnabled _ _ _ = true
          simp [backendEnabled, idle, waiting]
        · change backendEnabled _ _ _ = true
          simp [backendEnabled, waiting, reads, transfers, Transfer.whole, Transfer.begin]
        · exact mainReads_reply waiting
    | submitted _ idle _ _ => exact ⟨_, .single ⟨password_submits located idle, rfl⟩⟩
    | handled => exact ⟨[], .rest _⟩
    | transferred _ stepped => exact ⟨_, .single stepped⟩
    | @judged event buffer child _ =>
        cases verdict : (checker.next session.checker buffer event).2 with
        | none =>
            refine ⟨[], ?_⟩
            simp only [judge, verdict]
            exact .rest _
        | some verdict' =>
            refine ⟨[.checked verdict'], ?_⟩
            simp only [judge, verdict]
            refine .single ⟨?_, rfl⟩
            change backendEnabled _ _ _ = true
            have settled := checker.decides
            cases kind : checker.backend with
            | shadow => simp [backendEnabled, child]
            | pam =>
                cases verdict' with
                | none => exact absurd verdict (settled kind _ _ _)
                | some success => simp [backendEnabled, child]

end Refinement

section Links

variable {State Event : Type} {checker : Checker State Event} {session next : Session State}

/-- The passwords that the screen locker handed over are the requests of the pipes, and it counts the replies. -/
structure Linked (session : Session State) : Prop where
  passwords : session.ui.passwords = session.backend.submitted.map request
  replies : session.ui.comm.replies = session.backend.answers.length

theorem replies_of_step {state next : SwaylockState} {occurrence : Occurrence}
    (moved : swaylock.machine.step state occurrence next) (other : ∀ success, occurrence.event ≠ .commReply success) :
    next.comm.replies = state.comm.replies := by
  have step := authStep_of_step moved
  change next.authCore.comm.replies = state.authCore.comm.replies
  generalize next.authCore = core at step ⊢
  obtain ⟨event, env⟩ := occurrence
  cases step with
  | key _ key =>
      cases key with
      | keeps => rfl
      | submitted => rfl
      | notWritten => rfl
  | idled => rfl
  | refused => exact absurd rfl (other false)
  | accepted => exact absurd rfl (other true)

theorem replies_of_reply {state next : SwaylockState} {success : Bool} {env : Environment}
    (moved : swaylock.machine.step state ⟨.commReply success, env⟩ next) :
    next.comm.replies = state.comm.replies + 1 := by
  cases success with
  | false =>
      cases moved.2
      rfl
  | true =>
      cases moved.2
      rfl

theorem passwords_of_step {state next : SwaylockState} {occurrence : Occurrence}
    (moved : swaylock.machine.step state occurrence next) :
    next.passwords = state.passwords ∨ next.passwords = state.passwords ++ [request state.password] := by
  have typed := congrArg TypingCore.passwords (typing_of_step moved)
  change next.passwords = _ at typed
  rw [typed]
  cases occurrence.event.edit state with
  | submit written =>
      cases written with
      | false => exact .inl rfl
      | true => exact .inr rfl
  | _ => exact .inl rfl

theorem handleBackend_between {backend : PwBackend} {state next : BackendState} {event : BackendEvent}
    (between : event.between = true) (handled : handleBackend backend state event = .ok next) :
    next.submitted = state.submitted ∧ next.answers = state.answers ∧ next.verdicts = state.verdicts ∧
      state.returned <+: next.returned := by
  revert handled
  suffices holds : Ensures (handleBackend backend state event) fun next => next.submitted = state.submitted ∧
      next.answers = state.answers ∧ next.verdicts = state.verdicts ∧ state.returned <+: next.returned from holds next
  have kept : state.returned <+: state.returned := List.prefix_refl _
  cases event with
  | mainWrites count =>
      change Ensures (mainWrites state count) _
      unfold mainWrites
      split
      · dsimp only
        split
        · split
          · exact .pure ⟨rfl, rfl, rfl, kept⟩
          · exact .throw
        · exact .pure ⟨rfl, rfl, rfl, kept⟩
      · exact .pure ⟨rfl, rfl, rfl, kept⟩
      · exact .pure ⟨rfl, rfl, rfl, kept⟩
  | mainExits => exact .pure ⟨rfl, rfl, rfl, kept⟩
  | childReads count =>
      change Ensures (childReads state count) _
      unfold childReads
      split
      · split
        · exact .pure ⟨rfl, rfl, rfl, kept⟩
        · dsimp only
          split
          · exact .check fun _ => .pure ⟨rfl, rfl, rfl, kept⟩
          · exact .pure ⟨rfl, rfl, rfl, kept⟩
      · split
        · exact .pure ⟨rfl, rfl, rfl, kept⟩
        · dsimp only
          split
          · exact .check fun _ => .pure ⟨rfl, rfl, rfl, List.prefix_append _ _⟩
          · exact .pure ⟨rfl, rfl, rfl, kept⟩
      · exact .pure ⟨rfl, rfl, rfl, kept⟩
  | created buffer => cases buffer <;> exact .pure ⟨rfl, rfl, rfl, kept⟩
  | childWrites count =>
      refine .pure ?_
      unfold childWrites
      split <;> exact ⟨rfl, rfl, rfl, kept⟩
  | interrupted => exact .pure ⟨rfl, rfl, rfl, kept⟩
  | submit | pollIn | mainReads | checked => cases between

theorem checked_backend (backend : BackendState) (verdict : Option (Option Bool)) :
    (verdict.elim backend (checked backend)).submitted = backend.submitted ∧
      (verdict.elim backend (checked backend)).answers = backend.answers ∧
      (verdict.elim backend (checked backend)).returned = backend.returned ∧
      (verdict.elim backend (checked backend)).verdicts = backend.verdicts ++ verdict.join.toList := by
  rcases verdict with _ | _ | success
  · exact ⟨rfl, rfl, rfl, (List.append_nil _).symm⟩
  · exact ⟨rfl, rfl, rfl, (List.append_nil _).symm⟩
  · exact ⟨rfl, rfl, rfl, rfl⟩

theorem Linked.step {event : SessionEvent Event} (linked : Linked session)
    (moved : SessionStep checker session event next) : Linked next := by
  obtain ⟨passwords, replies⟩ := linked
  cases moved with
  | @replied env ui byte rest stepped _ _ =>
      refine ⟨?_, ?_⟩
      · change ui.passwords = session.backend.submitted.map request
        rw [← passwords]
        cases stepped.2
        cases byte != 0 <;> rfl
      · change ui.comm.replies = (session.backend.answers ++ [byte != 0]).length
        rw [replies_of_reply stepped, replies, List.length_append]
        rfl
  | @submitted occurrence ui stepped _ other new =>
      refine ⟨?_, (replies_of_step stepped other).trans replies⟩
      rcases passwords_of_step stepped with same | handed
      · exact absurd same new
      · change ui.passwords = (session.backend.submitted ++ [session.ui.password]).map request
        rw [handed, passwords, List.map_append]
        rfl
  | handled stepped other same => exact ⟨same.trans passwords, (replies_of_step stepped other).trans replies⟩
  | transferred between stepped =>
      obtain ⟨submitted, answers, _⟩ := handleBackend_between between stepped.2
      exact ⟨passwords.trans (congrArg _ submitted.symm), replies.trans (congrArg _ answers.symm)⟩
  | @judged event buffer _ _ =>
      obtain ⟨submitted, answers, _⟩ :=
        checked_backend session.backend (checker.next session.checker buffer event).2
      exact ⟨passwords.trans (congrArg _ submitted.symm), replies.trans (congrArg _ answers.symm)⟩

/-- What the checker remembers are the verdicts about the first passwords that the child returned. -/
structure Remembered (checker : Checker State Event) (session : Session State) : Prop where
  verdicts : (checker.judged session.checker).map Prod.snd = session.backend.verdicts
  buffers : (checker.judged session.checker).map Prod.fst <+: session.backend.returned

theorem Remembered.step {event : SessionEvent Event} (remembered : Remembered checker session)
    (paired : Paired checker.backend session.backend) (moved : SessionStep checker session event next) :
    Remembered checker next := by
  obtain ⟨verdicts, buffers⟩ := remembered
  cases moved with
  | replied => exact ⟨verdicts, buffers⟩
  | submitted => exact ⟨verdicts, buffers⟩
  | handled => exact ⟨verdicts, buffers⟩
  | transferred between stepped =>
      obtain ⟨_, _, same, longer⟩ := handleBackend_between between stepped.2
      exact ⟨verdicts.trans same.symm, buffers.trans longer⟩
  | @judged event buffer child _ =>
      have kept := checker.remembers session.checker buffer event
      have decides := paired.decides
      rw [child] at decides
      obtain ⟨earlier, listed, length⟩ := decides
      have before : (checker.judged session.checker).map Prod.fst = earlier := by
        rw [listed] at buffers
        refine (List.prefix_of_prefix_length_le buffers (List.prefix_append earlier [buffer]) ?_).eq_of_length ?_
        · rw [length, ← verdicts, List.length_map, List.length_map]
        · rw [length, ← verdicts, List.length_map, List.length_map]
      obtain ⟨_, _, returned, noted⟩ :=
        checked_backend session.backend (checker.next session.checker buffer event).2
      refine ⟨?_, ?_⟩
      · change List.map Prod.snd (checker.judged (checker.next session.checker buffer event).1) =
          ((checker.next session.checker buffer event).2.elim session.backend (checked session.backend)).verdicts
        rw [noted, kept, List.map_append, verdicts]
        cases (checker.next session.checker buffer event).2.join <;> rfl
      · change List.map Prod.fst (checker.judged (checker.next session.checker buffer event).1) <+:
          ((checker.next session.checker buffer event).2.elim session.backend (checked session.backend)).returned
        rw [returned, kept, List.map_append, before, listed]
        cases (checker.next session.checker buffer event).2.join with
        | none => exact (List.append_nil earlier).symm ▸ List.prefix_append earlier [buffer]
        | some success => exact List.prefix_refl _

/-- In every reachable session the links hold together with the guards of the pipes. -/
theorem links_of_reachable (reachable : (authentication checker).machine.Reachable session) :
    Linked session ∧ Remembered checker session := by
  have guards {session : Session State} (reached : (authentication checker).machine.Reachable session) :
      Paired checker.backend session.backend :=
    (guards_of_reachable ((authentication_refines_backend checker).reachable reached)).2.2
  refine reachable.invariant_under (fun session => Paired checker.backend session.backend)
    (fun session => Linked session ∧ Remembered checker session) (fun _ reached => guards reached) ?_ ?_
  · rintro session ⟨start, spawned, fresh⟩
    refine ⟨⟨?_, ?_⟩, ?_, ?_⟩
    · rw [start.comm.2, spawned]
      rfl
    · rw [start.comm.1, spawned]
      rfl
    · rw [fresh, checker.fresh, spawned]
      rfl
    · rw [fresh, checker.fresh]
      exact List.nil_prefix
  · rintro session event next paired ⟨linked, remembered⟩ moved
    have step := sessionStep_of_step moved
    exact ⟨linked.step step, remembered.step paired step⟩

end Links

section Writings

variable {State Event : Type} {checker : Checker State Event} {session next : Session State}

/-- An observer keeps the typed text and the texts that were handed over before it. -/
structure Writing where
  text : List UInt32
  handed : List (List UInt32)

/-- A submission that was written gives the typed text away. -/
def gives (text : List UInt32) : Edit → List (List UInt32)
  | .submit true => [text]
  | _ => []

/-- The observer follows the edits of the screen locker. -/
def observeWriting (writing : Writing) (session : Session State) : SessionEvent Event → Writing
  | .lock occurrence =>
      ⟨typedText writing.text session.ui occurrence, writing.handed ++ gives writing.text (occurrence.event.edit session.ui)⟩
  | _ => writing

/-- A session is observed from an empty text on. -/
def observedAuthentication (checker : Checker State Event) : Machine (Session State × Writing) (SessionEvent Event) :=
  (authentication checker).machine.observed ⟨[], []⟩ observeWriting

/-- A text is sent with a terminating byte. -/
def sent (text : List UInt32) : List UInt8 := encodeText text ++ [0]

theorem hands_eq (text : List UInt32) (edit : Edit) : edit.hands text = (gives text edit).map sent := by
  cases edit with
  | submit written => cases written <;> rfl
  | _ => rfl

theorem textIn_sent {text : List UInt32} (nonzero : ∀ byte ∈ encodeText text, byte ≠ 0) :
    textIn (sent text) = encodeText text := by
  unfold textIn sent
  rw [List.takeWhile_append_of_pos fun byte member => by simpa using nonzero byte member]
  simp

/-- The buffer holds the typed text, and the passwords are the texts that were handed over. -/
structure Spelled (session : Session State) (writing : Writing) : Prop where
  buffer : session.ui.password.Spells writing.text
  passwords : session.ui.passwords = writing.handed.map sent
  nonzero : ∀ text ∈ writing.handed, ∀ byte ∈ encodeText text, byte ≠ 0

theorem SessionStep.locks {occurrence : Occurrence}
    (moved : SessionStep checker session (.lock occurrence) next) :
    swaylock.machine.step session.ui occurrence next.ui := by
  cases moved with
  | replied stepped => exact stepped
  | submitted stepped => exact stepped
  | handled stepped => exact stepped

theorem spelled_of_reachable {writing : Writing}
    (reachable : (observedAuthentication checker).Reachable (session, writing)) : Spelled session writing := by
  refine reachable.invariant (fun pair => Spelled pair.1 pair.2) ?_ ?_
  · rintro ⟨session, writing⟩ ⟨⟨start, _, _⟩, rfl⟩
    obtain ⟨text, observed⟩ := (Machine.Reachable.initial start : swaylock.machine.Reachable session.ui).observed
      [] typedText
    refine ⟨?_, start.comm.2, fun _ member => by cases member⟩
    exact (spells_of_reachable (Machine.Reachable.initial ⟨start, rfl⟩)).1
  · rintro ⟨session, writing⟩ event ⟨next, after⟩ ⟨buffer, passwords, nonzero⟩ ⟨moved, rfl⟩
    have step := sessionStep_of_step moved
    cases event with
    | lock occurrence =>
        have typed := typing_of_step step.locks
        obtain ⟨spells, _, handed⟩ := session.ui.typingCore.edit_spells buffer
          (occurrence.event.edit_push session.ui)
        rw [← typed] at spells handed
        refine ⟨spells, ?_, ?_⟩
        · change next.ui.passwords = (writing.handed ++ gives writing.text _).map sent
          rw [List.map_append, ← hands_eq, ← passwords]
          exact handed
        · intro text member
          rcases List.mem_append.mp member with old | new
          · exact nonzero text old
          · unfold gives at new
            split at new
            · cases List.mem_singleton.mp new
              exact buffer.bytes
            · cases new
    | transfer event =>
        cases step with
        | transferred => exact ⟨buffer, passwords, nonzero⟩
    | judge event =>
        cases step with
        | judged => exact ⟨buffer, passwords, nonzero⟩

theorem judged_is_handed {writing : Writing}
    (reachable : (observedAuthentication checker).Reachable (session, writing)) {position : Nat} {buffer : List UInt8}
    {success : Bool} (decided : (checker.judged session.checker)[position]? = some (buffer, success)) :
    ∃ text, writing.handed[position]? = some text ∧ buffer = sent text := by
  have reached := reachable.of_observed
  obtain ⟨linked, remembered⟩ := links_of_reachable reached
  obtain ⟨framed, _⟩ := guards_of_reachable ((authentication_refines_backend checker).reachable reached)
  obtain ⟨pending, _, listed, _⟩ := framed
  have returned : session.backend.returned <+: writing.handed.map sent := by
    rw [← (spelled_of_reachable reachable).passwords, linked.passwords, listed]
    exact List.prefix_append _ _
  have first : ((checker.judged session.checker).map Prod.fst)[position]? = some buffer := by
    rw [List.getElem?_map, decided]
    rfl
  obtain ⟨inside, rfl⟩ := List.getElem?_eq_some_iff.mp first
  have given := List.prefix_iff_getElem?.mp (remembered.buffers.trans returned) position inside
  rw [List.getElem?_map, Option.map_eq_some_iff] at given
  obtain ⟨text, there, same⟩ := given
  exact ⟨text, there, same.symm⟩

theorem verdict_is_judged {writing : Writing}
    (reachable : (observedAuthentication checker).Reachable (session, writing)) {position : Nat} {success : Bool}
    (decided : session.backend.verdicts[position]? = some success) :
    ∃ text, writing.handed[position]? = some text ∧
      (checker.judged session.checker)[position]? = some (sent text, success) := by
  obtain ⟨_, remembered⟩ := links_of_reachable reachable.of_observed
  rw [← remembered.verdicts, List.getElem?_map, Option.map_eq_some_iff] at decided
  obtain ⟨⟨buffer, decision⟩, there, rfl⟩ := decided
  obtain ⟨text, handed, rfl⟩ := judged_is_handed reachable there
  exact ⟨text, handed, there⟩

theorem reply_is_verdict (reachable : (authentication checker).machine.Reachable session) {success : Bool}
    {env : Environment} (moved : (authentication checker).machine.step session (.lock ⟨.commReply success, env⟩) next) :
    session.backend.verdicts[session.ui.comm.replies]? = some success := by
  obtain ⟨linked, _⟩ := links_of_reachable reachable
  obtain ⟨_, _, paired⟩ := guards_of_reachable ((authentication_refines_backend checker).reachable reachable)
  obtain ⟨waiting, verdicts, replies⟩ := paired.waiting
  cases sessionStep_of_step moved with
  | submitted _ _ other => exact absurd rfl (other success)
  | handled _ other => exact absurd rfl (other success)
  | @replied _ _ byte rest _ _ first =>
      rw [replies] at first
      obtain ⟨verdict, waiting, rfl, rfl, _⟩ := List.map_eq_cons_iff.mp first
      have decoded : (replyByte verdict != 0) = verdict := by cases verdict <;> rfl
      rw [verdicts, linked.replies, decoded, List.append_assoc, List.getElem?_append_right (Nat.le_refl _), Nat.sub_self]
      rfl

end Writings

end SwaylockPlugin.Backend
