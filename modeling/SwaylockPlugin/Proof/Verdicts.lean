import Mathlib.Data.List.ReduceOption
import SwaylockPlugin.Proof.Authentication

namespace SwaylockPlugin.Backend

open Library

section Unlock

variable {State Event : Type} {checker : Checker State Event} {session next : Session State} {writing : Writing}

/-- The main function is past its loop in these phases. -/
def Phase.leaves : Phase → Bool
  | .resume | .unlock | .roundtrip => true
  | _ => false

/-- An event does not end the lock unless it is a reply, and no flush of the main loop fails. -/
def sealedEvent (session : Session State) : SessionEvent Event → Bool
  | .lock occurrence =>
      match occurrence.event with
      | .check flushed => flushed || session.ui.phase == .waitCheck
      | .commReply _ => true
      | event => !event.unlocks session.ui
  | _ => true

/-- The lock ends after a password was accepted. -/
structure Sealed (core : LockCore) (accepted : Prop) : Prop where
  running : core.phase = .startup ∨ core.runDisplay = true ∨ accepted
  leaves : Phase.leaves core.phase = true → accepted
  unlocked : ∀ record ∈ core.deeds, record.deed = .unlocked → accepted

theorem Sealed.step {state : SwaylockState} {event : SwaylockPlugin.Event} {core : LockCore} {before after : Prop}
    (sealed : Sealed state.lockCore before) (kept : before → after) (unlocks : event.unlocks state = true → after)
    (resumes : ∀ flushed, event = .check flushed → core.phase = .resume → state.runDisplay = false)
    (step : LockStep state event core) : Sealed core after := by
  obtain ⟨running, leaves, unlocked⟩ := sealed
  have deeds (record : DeedRecord) (member : record ∈ state.deeds) (deed : record.deed = .unlocked) : after :=
    kept (unlocked record member deed)
  have stays : Sealed state.lockCore after := ⟨running.imp_right fun rest => rest.imp_right kept, kept ∘ leaves, deeds⟩
  have moves {phase other : Phase} (at_ : state.phase = phase) (begun : phase ≠ .startup) :
      other = .startup ∨ state.runDisplay = true ∨ after := by
    rcases running with start | runs
    · exact absurd (at_.symm.trans start) begun
    · exact .inr (runs.imp_right kept)
  have early {phase : Phase} (before : Phase.leaves phase = false) (late : Phase.leaves phase = true) : after := by
    cases before.symm.trans late
  have does (deed : Deed) (other : deed ≠ .unlocked) (record : DeedRecord)
      (member : record ∈ state.deeds ++ [⟨deed, state.locked⟩]) (same : record.deed = .unlocked) : after := by
    rcases List.mem_append.mp member with old | new
    · exact deeds record old same
    · cases List.mem_singleton.mp new
      exact absurd same other
  cases step with
  | keeps => exact stays
  | unlockedByInput input grace =>
      have accepted : after := unlocks (by rw [Event.unlocks, input, grace]; exact Bool.or_true _)
      exact ⟨.inr (.inr accepted), fun _ => accepted, deeds⟩
  | ended ends =>
      have accepted : after := unlocks (by rw [Event.unlocks, ends]; rfl)
      exact ⟨.inr (.inr accepted), fun _ => accepted, deeds⟩
  | graceOver => exact ⟨stays.running, stays.leaves, stays.unlocked⟩
  | locked => exact ⟨stays.running, stays.leaves, stays.unlocked⟩
  | swept polling =>
      have begun : state.phase ≠ .startup := by
        intro start
        simp [SwaylockState.polling, start] at polling
      refine ⟨moves rfl begun, fun late => ?_, deeds⟩
      dsimp only at late
      split at late <;> cases late
  | polled expiring =>
      have begun : state.phase ≠ .startup := by
        intro start
        simp [SwaylockState.expiring, start] at expiring
      refine ⟨moves rfl begun, fun late => ?_, deeds⟩
      dsimp only at late
      split at late <;> cases late
  | started => exact ⟨.inr (.inl rfl), early rfl, deeds⟩
  | waits at_ => exact ⟨moves at_ (by decide), early rfl, deeds⟩
  | waited at_ => exact ⟨moves at_ (by decide), early rfl, deeds⟩
  | runs at_ => exact ⟨moves at_ (by decide), early rfl, deeds⟩
  | ran at_ =>
      have stopped := resumes _ rfl rfl
      have accepted : after := by
        rcases running with start | runs | accepted
        · cases at_.symm.trans start
        · cases stopped.symm.trans runs
        · exact kept accepted
      exact ⟨.inr (.inr accepted), fun _ => accepted, deeds⟩
  | ready _ at_ => exact ⟨moves at_ (by decide), early rfl, does .readinessWritten (by decide)⟩
  | notReady _ at_ => exact ⟨moves at_ (by decide), early rfl, deeds⟩
  | released _ at_ => exact ⟨moves at_ (by decide), early rfl, does .parentReleased (by decide)⟩
  | foreground _ at_ => exact ⟨moves at_ (by decide), early rfl, deeds⟩
  | grace _ _ at_ => exact ⟨moves at_ (by decide), early rfl, does .graceStarted (by decide)⟩
  | noGrace _ at_ => exact ⟨moves at_ (by decide), early rfl, deeds⟩
  | armed at_ => exact ⟨moves at_ (by decide), early rfl, deeds⟩
  | resumed at_ =>
      have accepted : after := kept (leaves (by rw [show state.lockCore.phase = _ from at_]; rfl))
      exact ⟨.inr (.inr accepted), fun _ => accepted, deeds⟩
  | unlocked at_ =>
      have accepted : after := kept (leaves (by rw [show state.lockCore.phase = _ from at_]; rfl))
      exact ⟨.inr (.inr accepted), fun _ => accepted, fun _ _ _ => accepted⟩

theorem checkLoop_resumes {state next : SwaylockState} {flushed : Bool} {env : Environment}
    (moved : swaylock.machine.step state ⟨.check flushed, env⟩ next)
    (flushes : (flushed || state.phase == .waitCheck) = true) (resumes : next.phase = .resume) :
    state.runDisplay = false := by
  obtain ⟨_, handled⟩ := moved
  have checked : checkLoop state flushed = next := Except.ok.inj handled
  rw [← checked] at resumes
  unfold checkLoop at resumes
  split at resumes
  · split at resumes <;> cases resumes
  · rename_i other
    have flushed : flushed = true := by
      rcases Bool.or_eq_true_iff.mp flushes with yes | waits
      · exact yes
      · exact absurd (beq_iff_eq.mp waits) other
    split at resumes
    · cases resumes
    · rename_i stopped
      simpa [flushed] using stopped

theorem SessionStep.answers {event : SessionEvent Event} (moved : SessionStep checker session event next) :
    session.backend.answers <+: next.backend.answers := by
  cases moved with
  | replied => exact List.prefix_append _ _
  | submitted => exact List.prefix_refl _
  | handled => exact List.prefix_refl _
  | transferred between stepped =>
      have kept := (handleBackend_between between stepped.2).2.1
      simp only [kept, List.prefix_refl]
  | @judged event buffer _ _ =>
      have kept := (checked_backend session.backend (checker.next session.checker buffer event).2).2.1
      simp only [judge, kept, List.prefix_refl]

theorem SessionStep.noted {success : Bool} {env : Environment}
    (moved : SessionStep checker session (.lock ⟨.commReply success, env⟩) next) :
    next.backend.answers = session.backend.answers ++ [success] := by
  cases moved with
  | replied => rfl
  | submitted _ _ other => exact absurd rfl (other success)
  | handled _ other => exact absurd rfl (other success)

theorem sealed_step {event : SessionEvent Event} (sealed : Sealed session.ui.lockCore (true ∈ session.backend.answers))
    (meets : sealedEvent session event = true) (moved : SessionStep checker session event next) :
    Sealed next.ui.lockCore (true ∈ next.backend.answers) := by
  have kept (accepted : true ∈ session.backend.answers) : true ∈ next.backend.answers := moved.answers.subset accepted
  cases event with
  | transfer event =>
      cases moved with
      | transferred => exact ⟨sealed.running.imp_right fun rest => rest.imp_right kept, kept ∘ sealed.leaves,
          fun record member deed => kept (sealed.unlocked record member deed)⟩
  | judge event =>
      cases moved with
      | judged => exact ⟨sealed.running.imp_right fun rest => rest.imp_right kept, kept ∘ sealed.leaves,
          fun record member deed => kept (sealed.unlocked record member deed)⟩
  | lock occurrence =>
      refine sealed.step kept ?_ ?_ (lockStep_of_step moved.locks)
      · intro unlocks
        obtain ⟨event, env⟩ := occurrence
        cases event with
        | commReply success =>
            cases success with
            | false => cases unlocks
            | true =>
                rw [moved.noted]
                exact List.mem_append_right _ List.mem_cons_self
        | check flushed => cases unlocks
        | _ =>
            simp only [sealedEvent, Bool.not_eq_true'] at meets
            rw [meets] at unlocks
            cases unlocks
      · intro flushed same resumes
        obtain ⟨event, env⟩ := occurrence
        cases same
        exact checkLoop_resumes moved.locks meets resumes

theorem sealed_of_reachable
    (reachable : ((observedAuthentication checker).guarded fun pair event => sealedEvent pair.1 event).Reachable
      (session, writing)) : Sealed session.ui.lockCore (true ∈ session.backend.answers) := by
  refine reachable.invariant (fun pair => Sealed pair.1.ui.lockCore (true ∈ pair.1.backend.answers)) ?_ ?_
  · rintro ⟨session, writing⟩ ⟨⟨start, _⟩, _⟩
    refine ⟨.inl start.main.1, fun late => ?_, fun record member => ?_⟩
    · rw [show session.ui.lockCore.phase = _ from start.main.1] at late
      cases late
    · change record ∈ session.ui.deeds at member
      rw [start.main.2] at member
      cases member
  · rintro ⟨session, writing⟩ event ⟨next, after⟩ sealed ⟨⟨moved, _⟩, meets⟩
    exact sealed_step sealed meets (sessionStep_of_step moved)

/-- A session that no signal, no broken connection and no grace period unlocks is unlocked only after the checker accepted a
text that was typed and handed over. -/
theorem unlocked_by_password
    (reachable : ((observedAuthentication checker).guarded fun pair event => sealedEvent pair.1 event).Reachable
      (session, writing)) (unlocked : ∃ record ∈ session.ui.deeds, record.deed = .unlocked) :
    ∃ (position : Nat) (text : List UInt32), writing.handed[position]? = some text ∧
      (checker.judged session.checker)[position]? = some (sent text, true) := by
  obtain ⟨record, member, deed⟩ := unlocked
  have accepted := (sealed_of_reachable reachable).unlocked record member deed
  have observed := reachable.of_restrict
  obtain ⟨_, _, paired⟩ := guards_of_reachable ((authentication_refines_backend checker).reachable observed.of_observed)
  obtain ⟨waiting, verdicts, _⟩ := paired.waiting
  have decided : true ∈ session.backend.verdicts := by
    rw [verdicts, List.append_assoc]
    exact List.mem_append_left _ accepted
  obtain ⟨position, there⟩ := List.mem_iff_getElem?.mp decided
  obtain ⟨text, handed, judged⟩ := verdict_is_judged observed there
  exact ⟨position, text, handed, judged⟩

end Unlock

section Runs

/-- An event of the screen locker occurs in the obliging environment. -/
def occurs {Event : Type} (event : SwaylockPlugin.Event) : SessionEvent Event := .lock event.obliged

/-- A letter is typed and submitted, and its request arrives at the child. -/
def submissionEvents (Event : Type) : List (SessionEvent Event) :=
  [occurs .start, occurs (.check true), occurs .seatAdded, occurs (.seatCapabilities 0 true true), occurs (.keymap true),
    occurs (.key 0 true 0x61 0x61 ⟨0, true⟩), occurs (.key 0 true 0xff0d 0 ⟨0, true⟩), .transfer (.mainWrites 8),
    .transfer (.childReads 5), .transfer (.childReads 3), .transfer (.created (some [7, 7])), .transfer (.mainWrites 1),
    .transfer (.childReads 1), .transfer (.mainWrites 1), .transfer (.childReads 1)]

/-- PAM asks for the password twice and gets it once before it accepts it. -/
def acceptingEvents : List (SessionEvent PamEvent) :=
  submissionEvents PamEvent ++ [.judge .authenticate, .judge (.converse true [⟨.textInfo, true⟩, ⟨.promptEchoOff, true⟩]),
    .judge (.converse true [⟨.promptEchoOn, true⟩]), .judge (.returned .success), .transfer (.childWrites 1)]

/-- The main function leaves its loops after a reply and unlocks the session. -/
def leavingEvents (Event : Type) : List (SessionEvent Event) :=
  [occurs (.commReply true), occurs .sweep, occurs .pollDone, occurs (.check true), occurs (.readiness true),
    occurs (.daemonize true), occurs (.startGrace none), occurs .armHiddenCheck, occurs (.check true), occurs .resume, occurs .unlock]

/-- A session starts without options. -/
def defaultSession {State Event : Type} (checker : Checker State Event) : Session State :=
  ⟨defaultState, .spawned, checker.start⟩

theorem defaultSession_initial {State Event : Type} (checker : Checker State Event) :
    ((authentication checker).observed ⟨[], []⟩ observeWriting).initial (defaultSession checker, ⟨[], []⟩) :=
  ⟨⟨startState_initial _ _ _, rfl, rfl⟩, rfl⟩

/-- A session that PAM unlocks has a typed text that PAM accepted. -/
theorem unlocked_by_password_pam : ∃ (session : Session PamState) (writing : Writing), session.ui.deeds.length = 1 ∧
    ∃ (position : Nat) (text : List UInt32), writing.handed[position]? = some text ∧
      (pamChecker.judged session.checker)[position]? = some (sent text, true) := by
  obtain ⟨⟨session, writing⟩, reachable, passed⟩ :=
    ((authentication pamChecker).observed ⟨[], []⟩ observeWriting).play_guarded
      (fun pair event => sealedEvent pair.1 event) (acceptingEvents ++ leavingEvents PamEvent)
      (fun pair => decide (pair.1.ui.deeds.length = 1) && pair.1.ui.deeds.any fun record => record.deed == .unlocked)
      (defaultSession_initial pamChecker) (by decide +kernel)
  rw [Program.observed_machine] at reachable
  simp only [Bool.and_eq_true, decide_eq_true_eq, List.any_eq_true, beq_iff_eq] at passed
  exact ⟨session, writing, passed.1, unlocked_by_password reachable passed.2⟩

end Runs

section Pam

variable {session next : Session PamState} {writing : Writing}

theorem answerMessages_none (messages : List PamMessage) :
    (answerMessages ⟨none⟩ messages).1 = ⟨none⟩ ∧ (answerMessages ⟨none⟩ messages).2.1.reduceOption = [] := by
  have nothing (rest : List PamMessage) : (none :: rest.map fun _ => none : List (Option (List UInt8))).reduceOption = [] := by
    simp [List.reduceOption]
  induction messages with
  | nil => exact ⟨rfl, rfl⟩
  | cons message messages ih =>
      unfold answerMessages
      cases message.msgStyle with
      | promptEchoOff => exact ⟨rfl, nothing messages⟩
      | promptEchoOn => exact ⟨rfl, nothing messages⟩
      | errorMsg => exact ⟨ih.1, (List.reduceOption_cons_of_none _).trans ih.2⟩
      | textInfo => exact ⟨ih.1, (List.reduceOption_cons_of_none _).trans ih.2⟩
      | other => exact ⟨ih.1, (List.reduceOption_cons_of_none _).trans ih.2⟩

theorem answerMessages_some (password : List UInt8) (messages : List PamMessage) :
    let answered := answerMessages ⟨some password⟩ messages
    answered.1 = ⟨some password⟩ ∧ answered.2.1.reduceOption = [] ∨
      answered.1 = ⟨none⟩ ∧ answered.2.1.reduceOption = [textIn password] := by
  have prompt (copied : Bool) (messages : List PamMessage) :
      let answered := answerMessages ⟨some password⟩ (⟨.promptEchoOff, copied⟩ :: messages)
      answered.1 = ⟨some password⟩ ∧ answered.2.1.reduceOption = [] ∨
        answered.1 = ⟨none⟩ ∧ answered.2.1.reduceOption = [textIn password] := by
    cases copied with
    | false => exact .inl ⟨rfl, by simp [answerMessages, List.reduceOption]⟩
    | true =>
        obtain ⟨state, rest⟩ := answerMessages_none messages
        refine .inr ⟨state, ?_⟩
        change (some (textIn password) :: (answerMessages ⟨none⟩ messages).2.1).reduceOption = _
        rw [List.reduceOption_cons_of_some, rest]
  induction messages with
  | nil => exact .inl ⟨rfl, rfl⟩
  | cons message messages ih =>
      obtain ⟨style, copied⟩ := message
      cases style with
      | promptEchoOff => exact prompt copied messages
      | promptEchoOn => exact prompt copied messages
      | errorMsg => simpa [answerMessages, List.reduceOption_cons_of_none] using ih
      | textInfo => simpa [answerMessages, List.reduceOption_cons_of_none] using ih
      | other => simpa [answerMessages, List.reduceOption_cons_of_none] using ih

/-- A call got at most one copy, and the conversation points to a password only while the child checks it. -/
structure Asks (state : PamState) (child : ChildPhase) : Prop where
  calls : ∀ call ∈ state.calls, call.copies = [] ∨ call.copies = [textIn call.buffer]
  outside : state.current = none → state.conv = ⟨none⟩
  inside : ∀ copies, state.current = some copies → ∃ buffer, child = .checking buffer ∧
    (state.conv = ⟨some buffer⟩ ∧ copies = [] ∨ state.conv = ⟨none⟩ ∧ copies = [textIn buffer])

theorem handleConversation_asks {state : PamState} {buffer : List UInt8} {copies : List (List UInt8)} (allocated : Bool)
    (messages : List PamMessage)
    (held : state.conv = ⟨some buffer⟩ ∧ copies = [] ∨ state.conv = ⟨none⟩ ∧ copies = [textIn buffer]) :
    let answered := handleConversation state.conv allocated messages
    answered.1 = ⟨some buffer⟩ ∧ copies ++ answered.2.1.reduceOption = [] ∨
      answered.1 = ⟨none⟩ ∧ copies ++ answered.2.1.reduceOption = [textIn buffer] := by
  cases allocated with
  | false => simpa [handleConversation, List.reduceOption_nil] using held
  | true =>
      rcases held with ⟨conv, rfl⟩ | ⟨conv, rfl⟩
      · rw [conv]
        simpa [handleConversation] using answerMessages_some buffer messages
      · rw [conv]
        simpa [handleConversation] using answerMessages_none messages

theorem mainWrites_child (state : BackendState) (count : Nat) :
    Ensures (mainWrites state count) fun next => next.child = state.child := by
  unfold mainWrites
  split
  · dsimp only
    split
    · split
      · exact .pure rfl
      · exact .throw
    · exact .pure rfl
  · exact .pure rfl
  · exact .pure rfl

theorem Asks.step {event : SessionEvent PamEvent} (asks : Asks session.checker session.backend.child)
    (moved : SessionStep pamChecker session event next) : Asks next.checker next.backend.child := by
  obtain ⟨calls, outside, inside⟩ := asks
  cases moved with
  | replied => exact ⟨calls, outside, inside⟩
  | submitted => exact ⟨calls, outside, inside⟩
  | handled => exact ⟨calls, outside, inside⟩
  | @transferred event backend between stepped =>
      refine ⟨calls, outside, fun copies current => ?_⟩
      obtain ⟨buffer, child, held⟩ := inside copies current
      obtain ⟨allowed, handled⟩ := stepped
      change backendEnabled _ session.backend event = true at allowed
      refine ⟨buffer, ?_, held⟩
      cases event with
      | mainWrites count => exact (mainWrites_child session.backend count backend handled).trans child
      | mainExits => 
          cases handled
          exact child
      | interrupted =>
          cases handled
          exact child
      | childReads count => simp [backendEnabled, child] at allowed
      | created => simp [backendEnabled, child] at allowed
      | childWrites => simp [backendEnabled, child] at allowed
      | submit | pollIn | mainReads | checked => cases between
  | @judged event buffer child enabled =>
      cases event with
      | authenticate =>
          refine ⟨calls, fun current => (by cases current), fun copies current => ?_⟩
          cases current
          exact ⟨buffer, child, .inl ⟨rfl, rfl⟩⟩
      | converse allocated messages =>
          refine ⟨calls, fun current => ?_, fun copies current => ?_⟩
          · change session.checker.current.map _ = none at current
            change session.checker.current.isSome = true at enabled
            rw [Option.map_eq_none_iff.mp current] at enabled
            cases enabled
          · obtain ⟨before, asked, rfl⟩ := Option.map_eq_some_iff.mp current
            obtain ⟨same, checking, held⟩ := inside before asked
            cases child.symm.trans checking
            exact ⟨buffer, child, handleConversation_asks allocated messages held⟩
      | returned status =>
          refine ⟨fun call member => ?_, fun _ => rfl, fun copies current => (by cases current)⟩
          rcases List.mem_append.mp member with old | new
          · exact calls call old
          · cases List.mem_singleton.mp new
            obtain ⟨copies, current⟩ := Option.isSome_iff_exists.mp enabled
            obtain ⟨same, checking, held⟩ := inside copies current
            cases child.symm.trans checking
            rw [current]
            exact held.imp And.right And.right

theorem asks_of_reachable (reachable : (authentication pamChecker).machine.Reachable session) :
    Asks session.checker session.backend.child := by
  refine reachable.invariant (fun session => Asks session.checker session.backend.child) ?_ ?_
  · rintro session ⟨_, _, fresh⟩
    rw [fresh]
    exact ⟨fun _ member => (by cases member), fun _ => rfl, fun _ current => (by cases current)⟩
  · exact fun _ _ _ asks moved => asks.step (sessionStep_of_step moved)

/-- With PAM a reply tells whether the call of `pam_authenticate` about the text at its position succeeded, a call gets at
most one copy of its text, no call follows a successful one, and the conversation never points to a password that is gone. -/
theorem pam_replies (reachable : (observedAuthentication pamChecker).Reachable (session, writing)) :
    (∀ success env next, (authentication pamChecker).machine.step session (.lock ⟨.commReply success, env⟩) next →
      ∃ text call, writing.handed[session.ui.comm.replies]? = some text ∧
        session.checker.calls[session.ui.comm.replies]? = some call ∧ call.buffer = sent text ∧
        (success = true ↔ call.status = .success)) ∧
    (∀ (position : Nat) (call : PamCall), session.checker.calls[position]? = some call →
      ∃ text, writing.handed[position]? = some text ∧ call.buffer = sent text ∧
        (call.copies = [] ∨ call.copies = [encodeText text])) ∧
    (∀ call ∈ session.checker.calls.dropLast, call.status ≠ .success) ∧
    ∀ password, session.checker.conv.password = some password → session.backend.child = .checking password := by
  have reached := reachable.of_observed
  obtain ⟨calls, outside, inside⟩ := asks_of_reachable reached
  have spelled := spelled_of_reachable reachable
  have judged {position : Nat} {call : PamCall} (there : session.checker.calls[position]? = some call) :
      (pamChecker.judged session.checker)[position]? = some (call.buffer, call.status == .success) := by
    change (session.checker.calls.map _)[position]? = _
    rw [List.getElem?_map, there]
    rfl
  refine ⟨fun success env next moved => ?_, fun position call there => ?_, fun call member succeeded => ?_,
    fun password points => ?_⟩
  · obtain ⟨text, handed, decided⟩ := verdict_is_judged reachable (reply_is_verdict reached moved)
    change (session.checker.calls.map _)[_]? = _ at decided
    rw [List.getElem?_map, Option.map_eq_some_iff] at decided
    obtain ⟨call, there, same⟩ := decided
    obtain ⟨buffer, status⟩ := Prod.mk.inj same
    refine ⟨text, call, handed, there, buffer, ?_⟩
    rw [← status]
    exact beq_iff_eq
  · obtain ⟨text, handed, buffer⟩ := judged_is_handed reachable (judged there)
    refine ⟨text, handed, buffer, ?_⟩
    rw [← textIn_sent (spelled.nonzero text (List.mem_of_getElem? handed)), ← buffer]
    exact calls call (List.mem_of_getElem? there)
  · obtain ⟨_, remembered⟩ := links_of_reachable reached
    obtain ⟨_, _, paired⟩ := guards_of_reachable ((authentication_refines_backend pamChecker).reachable reached)
    refine paired.rejected rfl ?_
    have verdicts : session.checker.calls.map (fun call => call.status == .success) = session.backend.verdicts := by
      rw [← remembered.verdicts]
      change _ = (session.checker.calls.map fun call => (call.buffer, call.status == .success)).map Prod.snd
      rw [List.map_map]
      rfl
    rw [← verdicts, ← List.map_dropLast]
    exact List.mem_map.mpr ⟨call, member, beq_iff_eq.mpr succeeded⟩
  · cases current : session.checker.current with
    | none =>
        rw [outside current] at points
        cases points
    | some copies =>
        obtain ⟨buffer, child, ⟨conv, _⟩ | ⟨conv, _⟩⟩ := inside copies current
        · rw [conv] at points
          cases points
          exact child
        · rw [conv] at points
          cases points

/-- PAM accepted the typed letter after it got one copy of it. -/
theorem pam_replies_accepted : ∃ (session : Session PamState) (text : List UInt32) (call : PamCall),
    session.checker.calls = [⟨[0x61, 0], [[0x61]], .success⟩] ∧
      session.checker.calls[session.ui.comm.replies]? = some call ∧ call.buffer = sent text ∧ call.status = .success := by
  obtain ⟨⟨session, writing⟩, ⟨next, after⟩, reachable, moved, passed⟩ :=
    ((authentication pamChecker).observed ⟨[], []⟩ observeWriting).play_step acceptingEvents (occurs (.commReply true))
      (fun before _ => decide (before.1.checker.calls = [⟨[0x61, 0], [[0x61]], .success⟩]))
      (defaultSession_initial pamChecker) (by decide +kernel)
  rw [Program.observed_machine] at reachable moved
  obtain ⟨text, call, _, there, buffer, accepted⟩ := (pam_replies reachable).1 true .obliging next moved.1
  exact ⟨session, text, call, of_decide_eq_true passed, there, buffer, accepted.mp rfl⟩

end Pam

section Shadow

variable {crypt : List UInt8 → List UInt8 → Option (List UInt8)} {encpw : List UInt8}
  {session next : Session (List CryptCall)} {writing : Writing}

theorem encrypted_of_reachable (reachable : (authentication (shadowChecker crypt encpw)).machine.Reachable session) :
    ∀ call ∈ session.checker, call.encrypted = crypt (textIn call.buffer) encpw := by
  refine reachable.invariant (fun session => ∀ call ∈ session.checker, call.encrypted = crypt (textIn call.buffer) encpw)
    ?_ ?_
  · rintro session ⟨_, _, fresh⟩ call member
    rw [fresh] at member
    cases member
  · intro session event next encrypted moved
    cases sessionStep_of_step moved with
    | replied => exact encrypted
    | submitted => exact encrypted
    | handled => exact encrypted
    | transferred => exact encrypted
    | judged =>
        intro call member
        rcases List.mem_append.mp member with old | new
        · exact encrypted call old
        · cases List.mem_singleton.mp new
          rfl

/-- Without PAM a reply tells whether the text at its position is encrypted to the entry of the user. -/
theorem shadow_replies (reachable : (observedAuthentication (shadowChecker crypt encpw)).Reachable (session, writing))
    {success : Bool} {env : Environment}
    (moved : (authentication (shadowChecker crypt encpw)).machine.step session (.lock ⟨.commReply success, env⟩) next) :
    ∃ text encrypted, writing.handed[session.ui.comm.replies]? = some text ∧
      crypt (encodeText text) encpw = some encrypted ∧ (success = true ↔ encrypted = encpw) := by
  have reached := reachable.of_observed
  obtain ⟨text, handed, decided⟩ := verdict_is_judged reachable (reply_is_verdict reached moved)
  obtain ⟨call, member, noted⟩ := List.mem_flatMap.mp (List.mem_of_getElem? decided)
  obtain ⟨success', verdict, same⟩ := Option.map_eq_some_iff.mp (Option.mem_toList.mp noted)
  obtain ⟨buffer, rfl⟩ := Prod.mk.inj same
  obtain ⟨encrypted, found, rfl⟩ := Option.map_eq_some_iff.mp verdict
  refine ⟨text, encrypted, handed, ?_, beq_iff_eq⟩
  rw [← textIn_sent ((spelled_of_reachable reachable).nonzero text (List.mem_of_getElem? handed)), ← buffer, ← found]
  exact (encrypted_of_reachable reached call member).symm

/-- A password is encrypted to itself behind the entry. -/
def plainCrypt (text salt : List UInt8) : Option (List UInt8) := some (salt.take 1 ++ text)

/-- The typed letter is encrypted to the entry of the user. -/
theorem shadow_replies_accepted : ∃ text encrypted,
    plainCrypt (encodeText text) [0x24, 0x61] = some encrypted ∧ encrypted = [0x24, 0x61] := by
  obtain ⟨⟨session, writing⟩, ⟨next, after⟩, reachable, moved, _⟩ :=
    ((authentication (shadowChecker plainCrypt [0x24, 0x61])).observed ⟨[], []⟩ observeWriting).play_step
      (submissionEvents Unit ++ [.judge (), .transfer (.childWrites 1)]) (occurs (.commReply true)) (fun _ _ => true)
      (defaultSession_initial _) (by decide +kernel)
  rw [Program.observed_machine] at reachable moved
  obtain ⟨text, encrypted, _, found, accepted⟩ := shadow_replies reachable moved.1
  exact ⟨text, encrypted, found, accepted.mp rfl⟩

end Shadow

end SwaylockPlugin.Backend
