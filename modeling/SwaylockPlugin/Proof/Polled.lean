import SwaylockPlugin.Proof.Unlock
import Mathlib.Data.List.Nodup

namespace SwaylockPlugin

open Library

namespace Loop

section Entries

variable {FdCallback TimerCallback : Type} {fd other : Int} {fds : List Int} {events : List (LoopFdEvent FdCallback)}
  {event : LoopFdEvent FdCallback}

theorem markFd_length (fd : Int) (fds : List Int) (events : List (LoopFdEvent FdCallback)) :
    (markFd fd fds events).length = events.length := by
  induction fds generalizing events with
  | nil => cases events <;> rfl
  | cons candidate fds ih =>
      cases events with
      | nil => rfl
      | cons event events =>
          unfold markFd
          split
          · rfl
          · rw [List.length_cons, List.length_cons, ih]

theorem mem_markFd_other (apart : other ≠ fd) :
    (other, event) ∈ fds.zip (markFd fd fds events) ↔ (other, event) ∈ fds.zip events := by
  induction fds generalizing events with
  | nil => simp
  | cons candidate fds ih =>
      cases events with
      | nil => rfl
      | cons first events =>
          unfold markFd
          split
          · rename_i same
            simp [same, apart]
          · simp [ih]

/-- These descriptors have an event that was not removed. -/
def kept (fds : List Int) (events : List (LoopFdEvent FdCallback)) : List Int :=
  ((fds.zip events).filter fun entry => !entry.2.removed).map Prod.fst

theorem mem_kept : fd ∈ kept fds events ↔ ∃ event, (fd, event) ∈ fds.zip events ∧ event.removed = false := by
  simp [kept]

theorem registered_iff {loop : Loop FdCallback TimerCallback} :
    loop.registered fd = true ↔ fd ∈ kept loop.fds loop.fdEvents := by
  simp [registered, kept]

theorem kept_tail (candidate : Int) (first : LoopFdEvent FdCallback) :
    (kept fds events).Sublist (kept (candidate :: fds) (first :: events)) :=
  ((List.sublist_cons_self _ _).filter _).map _

theorem kept_markFd (fd : Int) (fds : List Int) (events : List (LoopFdEvent FdCallback)) :
    (kept fds (markFd fd fds events)).Sublist (kept fds events) := by
  induction fds generalizing events with
  | nil => cases events <;> exact List.Sublist.refl _
  | cons candidate fds ih =>
      cases events with
      | nil => exact List.Sublist.refl _
      | cons event events =>
          unfold markFd
          split
          · have marked : kept (candidate :: fds) ({ event with removed := true } :: events) = kept fds events := by
              simp [kept]
            rw [marked]
            exact kept_tail candidate event
          · have rest := ih events
            cases removed : event.removed with
            | true => simpa [kept, removed] using rest
            | false => simpa [kept, removed] using rest

theorem mem_kept_markFd (apart : other ≠ fd) : other ∈ kept fds (markFd fd fds events) ↔ other ∈ kept fds events := by
  simp only [mem_kept, mem_markFd_other apart]

theorem not_mem_kept_markFd (once : (kept fds events).Nodup) (marks : marksKept fd fds events = true) :
    fd ∉ kept fds (markFd fd fds events) := by
  induction fds generalizing events with
  | nil => simp [marksKept] at marks
  | cons candidate fds ih =>
      cases events with
      | nil => simp [marksKept] at marks
      | cons first events =>
          unfold marksKept at marks
          unfold markFd
          split
          · rename_i same
            rw [if_pos same, Bool.not_eq_true'] at marks
            have both : kept (candidate :: fds) (first :: events) = candidate :: kept fds events := by
              simp [kept, marks]
            have marked : kept (candidate :: fds) ({ first with removed := true } :: events) = kept fds events := by
              simp [kept]
            rw [both, same] at once
            rw [marked]
            exact (List.nodup_cons.mp once).1
          · rename_i apart
            rw [if_neg apart] at marks
            have rest := ih (once.sublist (kept_tail candidate first)) marks
            cases removed : first.removed with
            | true => simpa [kept, removed] using rest
            | false => simpa [kept, removed, Ne.symm apart] using rest

theorem kept_markFd_removed (marks : marksKept fd fds events = false) :
    kept fds (markFd fd fds events) = kept fds events := by
  induction fds generalizing events with
  | nil => cases events <;> rfl
  | cons candidate fds ih =>
      cases events with
      | nil => rfl
      | cons first events =>
          unfold marksKept at marks
          unfold markFd
          split
          · rename_i same
            rw [if_pos same, Bool.not_eq_false'] at marks
            simp [kept, marks]
          · rename_i apart
            rw [if_neg apart] at marks
            have rest := ih marks
            unfold kept at rest ⊢
            cases removed : first.removed with
            | true => simpa [removed] using rest
            | false => simpa [removed] using rest

theorem marksKept_markFd (apart : other ≠ fd) : marksKept other fds (markFd fd fds events) = marksKept other fds events := by
  induction fds generalizing events with
  | nil => cases events <;> rfl
  | cons candidate fds ih =>
      cases events with
      | nil => rfl
      | cons first events =>
          unfold markFd
          split
          · rename_i same
            simp [marksKept, same, apart.symm]
          · simp [marksKept, ih]

theorem marksKept_of_mem (member : fd ∈ kept fds events)
    (every : ∀ entry ∈ fds.zip events, entry.2.removed = false) : marksKept fd fds events = true := by
  induction fds generalizing events with
  | nil => simp [kept] at member
  | cons candidate fds ih =>
      cases events with
      | nil => simp [kept] at member
      | cons first events =>
          have live : first.removed = false := every (candidate, first) List.mem_cons_self
          unfold marksKept
          split
          · rw [live]
            rfl
          · rename_i apart
            refine ih ?_ fun entry there => every entry (List.mem_cons_of_mem _ there)
            simpa [kept, live, Ne.symm apart] using member

theorem zip_sweepFds (aligned : fds.length = events.length) :
    (sweepFds fds events).1.length = (sweepFds fds events).2.length ∧
      (sweepFds fds events).1.zip (sweepFds fds events).2 =
        (fds.zip events).filter (fun entry => !entry.2.removed) ∧
      (sweepFds fds events).1 = kept fds events := by
  induction fds generalizing events with
  | nil =>
      cases events with
      | nil => exact ⟨rfl, rfl, rfl⟩
      | cons => cases aligned
  | cons candidate fds ih =>
      cases events with
      | nil => cases aligned
      | cons first events =>
          obtain ⟨length, zip, fst⟩ := ih (Nat.succ.inj aligned)
          unfold sweepFds
          dsimp only
          split
          · rename_i removed
            exact ⟨length, by simp [zip, removed], by simp [fst, kept, removed]⟩
          · rename_i live
            exact ⟨congrArg Nat.succ length, by simp [zip, live], by simp [fst, kept, live]⟩

theorem sweepFds_sublist (fds : List Int) (events : List (LoopFdEvent FdCallback)) :
    (sweepFds fds events).1.Sublist fds := by
  fun_induction sweepFds fds events with
  | case1 fd fds event events rest removed ih => exact ih.cons fd
  | case2 fd fds event events rest live ih => exact ih.cons_cons fd
  | case3 => exact List.Sublist.refl _

theorem kept_sweepFds (aligned : fds.length = events.length) :
    kept (sweepFds fds events).1 (sweepFds fds events).2 = kept fds events := by
  unfold kept
  rw [(zip_sweepFds aligned).2.1, List.filter_filter]
  simp only [Bool.and_self]

theorem marksKept_sweepFds (aligned : fds.length = events.length) (member : fd ∈ kept fds events) :
    marksKept fd (sweepFds fds events).1 (sweepFds fds events).2 = true := by
  refine marksKept_of_mem (kept_sweepFds aligned ▸ member) fun entry there => ?_
  rw [(zip_sweepFds aligned).2.1, List.mem_filter] at there
  simpa using there.2

theorem watches_iff [DecidableEq FdCallback] {loop : Loop FdCallback TimerCallback} {callback : FdCallback} :
    loop.watches fd callback = true ↔
      ∃ event, (fd, event) ∈ loop.fds.zip loop.fdEvents ∧ event.callback = callback ∧ event.removed = false := by
  constructor
  · intro watched
    obtain ⟨⟨candidate, event⟩, member, holds⟩ := List.any_eq_true.mp watched
    simp only [Bool.and_eq_true, beq_iff_eq, Bool.not_eq_true'] at holds
    obtain ⟨⟨rfl, called⟩, kept⟩ := holds
    exact ⟨event, member, called, kept⟩
  · rintro ⟨event, member, called, kept⟩
    exact List.any_eq_true.mpr ⟨(fd, event), member, by simp [called, kept]⟩

variable [DecidableEq FdCallback] {loop : Loop FdCallback TimerCallback} {callback : FdCallback}

theorem watches_removeFd (apart : other ≠ fd) (watched : loop.watches other callback = true) :
    (loop.removeFd fd).watches other callback = true := by
  obtain ⟨event, member, called, kept⟩ := watches_iff.mp watched
  exact watches_iff.mpr ⟨event, (mem_markFd_other apart).mpr member, called, kept⟩

theorem watches_addFd {added : FdCallback} (aligned : loop.fds.length = loop.fdEvents.length)
    (watched : loop.watches other callback = true) : (loop.addFd fd added).watches other callback = true := by
  obtain ⟨event, member, called, kept⟩ := watches_iff.mp watched
  refine watches_iff.mpr ⟨event, ?_, called, kept⟩
  change _ ∈ (loop.fds ++ [fd]).zip (loop.fdEvents ++ [⟨added, false⟩])
  rw [List.zip_append aligned]
  exact List.mem_append_left _ member

theorem watches_sweep (aligned : loop.fds.length = loop.fdEvents.length)
    (watched : loop.watches fd callback = true) : loop.sweep.watches fd callback = true := by
  obtain ⟨event, member, called, kept⟩ := watches_iff.mp watched
  refine watches_iff.mpr ⟨event, ?_, called, kept⟩
  change _ ∈ (sweepFds _ _).1.zip (sweepFds _ _).2
  rw [(zip_sweepFds aligned).2.1, List.mem_filter]
  exact ⟨member, by simp [kept]⟩

end Entries

end Loop

/-- The observer notes the descriptors of the pipes that the start of the grace period opens. -/
def openedPipes (opened : List Int) (state : SwaylockState) (occurrence : Occurrence) : List Int :=
  match occurrence.event with
  | .startGrace (some pipes) => if 0 < state.scene.args.graceTime then [pipes.1, pipes.2] else opened
  | _ => opened

/-- The sleep watcher's notice is handled only after the grace period, and `lock_in` ends the grace period only where the
removal of its pipe finds the event of that pipe. -/
def removesItsPipe (state : SwaylockState) (occurrence : Occurrence) : Bool :=
  match occurrence.event with
  | .sleepNotice => state.graceTimer.isNone
  | .lockNow => state.graceTimer.isNone || state.scene.eventloop.removes state.sleepCommR
  | _ => true

/-- Some event of a descriptor was not removed. -/
def Polled (scene : Scene) (fd : Int) : Prop := fd ∈ Loop.kept scene.eventloop.fds scene.eventloop.fdEvents

/-- The events of the loop stand next to their descriptors, and no descriptor has two of them that were not removed. -/
structure Aligned (scene : Scene) : Prop where
  length : scene.eventloop.fds.length = scene.eventloop.fdEvents.length
  once : (Loop.kept scene.eventloop.fds scene.eventloop.fdEvents).Nodup

/-- The grace period polls the pipe that it opened, and after its end no pipe is polled. Once a poll swept what was removed,
only the event of the pipe is left for its number. -/
structure PollGuard (state : SwaylockState) (opened : List Int) : Prop where
  aligned : Aligned state.scene
  startup : state.phase = .startup → state.scene.eventloop.fds = [] ∧ opened = []
  nested : state.phase ≠ .startup → state.scene.display = true →
    Polled state.scene state.scene.descriptors.nested
  early : opened ≠ [] → state.phase.pastGrace = true
  valid : ∀ fd ∈ opened, 0 ≤ fd
  foreign : state.scene.display = true → ∀ fd ∈ opened, fd ≠ state.scene.descriptors.nested
  running : state.graceTimer.isSome = true → opened = [state.sleepCommR, state.sleepCommW] ∧
    state.scene.eventloop.watches state.sleepCommR .sleepIn = true ∧ ¬Polled state.scene state.sleepCommW
  swept : state.graceTimer.isSome = true → state.expiring = true →
    state.scene.eventloop.removes state.sleepCommR = true
  elapsed : state.graceTimer = none → (state.phase ≠ .startup → state.sleepCommR = -1 ∧ state.sleepCommW = -1) ∧
    ∀ fd ∈ opened, ¬Polled state.scene fd

namespace PollKept

variable {first second : Scene}

theorem fds (kept : PollKept first second) : second.eventloop.fds = first.eventloop.fds := by
  cases kept with
  | same fds => exact fds
  | closed fds => exact fds

theorem aligned (kept : PollKept first second) (aligned : Aligned first) : Aligned second := by
  refine ⟨?_, ?_⟩
  · rw [kept.fds]
    cases kept with
    | same _ events => rw [events, aligned.length]
    | closed _ events => rw [events, Loop.markFd_length, aligned.length]
  · rw [kept.fds]
    cases kept with
    | same _ events => exact events ▸ aligned.once
    | closed _ events => exact events ▸ aligned.once.sublist (Loop.kept_markFd _ _ _)

theorem up (kept : PollKept first second) (up : second.display = true) :
    first.display = true ∧ second.eventloop.fdEvents = first.eventloop.fdEvents := by
  cases kept with
  | same _ events display => exact ⟨display ▸ up, events⟩
  | closed _ _ _ down =>
      rw [down] at up
      cases up

theorem unpolled (kept : PollKept first second) {fd : Int} (unpolled : ¬Polled first fd) : ¬Polled second fd := by
  intro polled
  unfold Polled at polled
  rw [kept.fds] at polled
  cases kept with
  | same _ events =>
      rw [events] at polled
      exact unpolled polled
  | closed _ events =>
      rw [events] at polled
      exact unpolled ((Loop.kept_markFd _ _ _).subset polled)

theorem polled (kept : PollKept first second) {fd : Int} (foreign : first.display = true → fd ≠ first.descriptors.nested)
    (polled : Polled first fd) : Polled second fd := by
  unfold Polled
  rw [kept.fds]
  cases kept with
  | same _ events => rwa [events]
  | closed _ events up =>
      rw [events]
      exact (Loop.mem_kept_markFd (foreign up)).mpr polled

theorem removes (kept : PollKept first second) {fd : Int} (foreign : first.display = true → fd ≠ first.descriptors.nested) :
    second.eventloop.removes fd = first.eventloop.removes fd := by
  unfold Loop.removes
  rw [kept.fds]
  cases kept with
  | same _ events => rw [events]
  | closed _ events up =>
      rw [events]
      exact Loop.marksKept_markFd (foreign up)

theorem watches (kept : PollKept first second) {fd : Int} {callback : FdCallback}
    (foreign : first.display = true → fd ≠ first.descriptors.nested)
    (watched : first.eventloop.watches fd callback = true) : second.eventloop.watches fd callback = true := by
  obtain ⟨event, member, called, live⟩ := Loop.watches_iff.mp watched
  refine Loop.watches_iff.mpr ⟨event, ?_, called, live⟩
  rw [kept.fds]
  cases kept with
  | same _ events => rwa [events]
  | closed _ events up =>
      rw [events]
      exact (Loop.mem_markFd_other (foreign up)).mpr member

end PollKept

/-- A state leaves the descriptors, the grace period and the pipes of another alone, but its nested display may end. -/
structure Unwired (first second : SwaylockState) : Prop where
  scene : PollKept first.scene second.scene
  descriptors : second.scene.descriptors = first.scene.descriptors
  graceTimer : second.graceTimer = first.graceTimer
  pipes : second.sleepCommR = first.sleepCommR ∧ second.sleepCommW = first.sleepCommW

namespace Unwired

variable {first second third : SwaylockState}

theorem of_background (quiet : Background first second) : Unwired first second :=
  ⟨quiet.scene.polled, quiet.scene.descriptors, quiet.graceTimer, quiet.pipes⟩

theorem of_seats (scene : second.scene = first.scene) (timer : second.graceTimer = first.graceTimer)
    (pipes : second.sleepCommR = first.sleepCommR ∧ second.sleepCommW = first.sleepCommW) : Unwired first second :=
  ⟨.same (by rw [scene]) (by rw [scene]) (by rw [scene]), by rw [scene], timer, pipes⟩

theorem trans (one : Unwired first second) (two : Unwired second third) : Unwired first third where
  scene := one.scene.trans two.scene one.descriptors
  descriptors := two.descriptors.trans one.descriptors
  graceTimer := two.graceTimer.trans one.graceTimer
  pipes := ⟨two.pipes.1.trans one.pipes.1, two.pipes.2.trans one.pipes.2⟩

theorem armSeat (state : SwaylockState) (id : SeatId) (ms : Int) (change : SwaylockSeat → SwaylockSeat) :
    Unwired state (state.armSeat id ms change) := ⟨.same rfl rfl rfl, rfl, rfl, rfl, rfl⟩

theorem stopSeat (state : SwaylockState) (id : SeatId) (timer : Option TimerId) :
    Unwired state (state.stopSeat id timer) :=
  (of_background (.removeTimer? state timer)).trans (.of_seats rfl rfl ⟨rfl, rfl⟩)

end Unwired

/-- These events work on the polled descriptors. -/
def Event.wires : Event → Bool
  | .sleepNotice | .startGrace _ | .start | .sweep => true
  | _ => false

/-- A step leaves the descriptors alone, ends the grace period, or is one of the main function. -/
inductive WireStep (state : SwaylockState) : Event → SwaylockState → Prop
  | quiet {event : Event} {next : SwaylockState} (other : event.wires = false) (kept : Unwired state next) :
      WireStep state event next
  | graceOver {event : Event} {middle next : SwaylockState} (other : event.wires = false)
      (ends : state.expiring = true ∨ event = .lockNow) (before : Unwired state middle)
      (phase : middle.phase = state.phase)
      (after : Unwired (graceTimeout middle) next) : WireStep state event next
  | sleepNotice : WireStep state .sleepNotice (sleepIn state)
  | startGrace (watcher : Option (Int × Int)) (due : state.phase = .grace)
      (fresh : watcher.all (freshPipes state.scene.eventloop) = true) :
      WireStep state (.startGrace watcher) (startGracePeriod state watcher)
  | start {next : SwaylockState} (due : state.phase = .startup) (runs : next.phase = .waitCheck)
      (quiet : Unwired (addDescriptors { state with sleepCommR := -1, sleepCommW := -1 }) next) :
      WireStep state .start next
  | sweep (polling : state.polling = true) : WireStep state .sweep { state with
      scene := { state.scene with eventloop := state.scene.eventloop.sweep }
      phase := if state.phase = .waitPoll then .waitTimers else .runTimers }

theorem DeviceStep.wired {state next : SwaylockState} {event : Event} (step : DeviceStep state event next) :
    WireStep state event next := by
  have apart (other : event.direct = false) : event.wires = false := by
    cases event <;> first | rfl | cases other
  cases step with
  | background other quiet => exact .quiet (apart other) (.of_background quiet)
  | graceOver other ends before phase after =>
      exact .graceOver (apart other) ends (.of_background before) phase (.of_background after)
  | sleepNotice => exact .sleepNotice
  | startGrace watcher due fresh => exact .startGrace watcher due fresh
  | start due runs quiet => exact .start due runs (.of_background quiet)
  | sweep polling => exact .sweep polling
  | keyIgnored _ quiet => exact .quiet rfl (.of_background quiet)
  | @keyStopped id _ _ _ _ handled seat quiet =>
      exact .quiet rfl ((Unwired.of_background quiet).trans (.stopSeat handled id seat.repeatTimer))
  | @keyArmed id _ _ _ handled seat _ _ quiet =>
      have stopped := (Unwired.of_background quiet).trans (.stopSeat handled id seat.repeatTimer)
      exact .quiet rfl (stopped.trans (.armSeat _ id seat.repeatDelayMs _))
  | @keyboardLeave id seat => exact .quiet rfl (.stopSeat state id seat.repeatTimer)
  | @repeated timer _ id seat middle _ _ quiet =>
      have armed := (Unwired.armSeat state id seat.repeatPeriodMs fun seat => seat).trans (.of_background quiet)
      exact .quiet rfl (armed.trans (.of_background (.freeTimer middle timer)))
  | pointerEnter entered =>
      rw [wlPointerEnter_ok entered]
      exact .quiet rfl (.of_seats rfl rfl ⟨rfl, rfl⟩)
  | pointerMotion moved =>
      rw [wlPointerMotion_ok moved]
      exact .quiet rfl (.of_seats rfl rfl ⟨rfl, rfl⟩)
  | _ => exact .quiet rfl (.of_seats rfl rfl ⟨rfl, rfl⟩)

namespace PollGuard

variable {state next : SwaylockState} {opened : List Int}

theorem quiet (guard : PollGuard state opened) (kept : Unwired state next)
    (back : next.phase = .startup → state.phase = .startup)
    (later : state.phase.pastGrace = true → next.phase.pastGrace = true)
    (begun : next.phase ≠ .startup → state.phase ≠ .startup)
    (expires : next.expiring = true → state.expiring = true) : PollGuard next opened where
  aligned := kept.scene.aligned guard.aligned
  startup at_ := by
    rw [kept.scene.fds]
    exact guard.startup (back at_)
  nested away up := by
    obtain ⟨before, events⟩ := kept.scene.up up
    unfold Polled
    rw [kept.scene.fds, events, kept.descriptors]
    exact guard.nested (begun away) before
  early some_ := later (guard.early some_)
  valid := guard.valid
  foreign up := by
    rw [kept.descriptors]
    exact guard.foreign (kept.scene.up up).1
  running set_ := by
    rw [kept.graceTimer] at set_
    obtain ⟨pair, watched, unread⟩ := guard.running set_
    rw [kept.pipes.1, kept.pipes.2]
    refine ⟨pair, kept.scene.watches (fun up => guard.foreign up _ ?_) watched, kept.scene.unpolled unread⟩
    rw [pair]
    exact List.mem_cons_self
  swept set_ late := by
    rw [kept.graceTimer] at set_
    rw [kept.pipes.1, kept.scene.removes fun up => guard.foreign up _ ?_]
    · exact guard.swept set_ (expires late)
    · rw [(guard.running set_).1]
      exact List.mem_cons_self
  elapsed unset := by
    rw [kept.graceTimer] at unset
    obtain ⟨closed, unpolled⟩ := guard.elapsed unset
    refine ⟨fun away => ?_, fun fd member => kept.scene.unpolled (unpolled fd member)⟩
    rw [kept.pipes.1, kept.pipes.2]
    exact closed (begun away)

theorem removeFd (guard : PollGuard state opened) (fd : Int) : Aligned (state.removeFd fd).scene := by
  refine ⟨?_, guard.aligned.once.sublist (Loop.kept_markFd fd _ _)⟩
  change _ = (Loop.markFd fd _ _).length
  rw [Loop.markFd_length]
  exact guard.aligned.length

theorem pipe_foreign (guard : PollGuard state opened) (away : state.phase ≠ .startup)
    (up : state.scene.display = true) : state.scene.descriptors.nested ≠ state.sleepCommR := by
  cases timer : state.graceTimer with
  | none =>
      rw [((guard.elapsed timer).1 away).1]
      have valid := state.scene.descriptors.valid state.scene.descriptors.nested (by simp)
      omega
  | some running =>
      obtain ⟨pair, _⟩ := guard.running (by rw [timer]; rfl)
      exact (guard.foreign up _ (by rw [pair]; exact List.mem_cons_self)).symm

theorem graceTimeout (guard : PollGuard state opened)
    (removes : state.graceTimer.isSome = true → state.scene.eventloop.removes state.sleepCommR = true) :
    PollGuard (graceTimeout state) opened where
  aligned := guard.removeFd state.sleepCommR
  startup := guard.startup
  nested away up := (Loop.mem_kept_markFd (guard.pipe_foreign away up)).mpr (guard.nested away up)
  early := guard.early
  valid := guard.valid
  foreign := guard.foreign
  running set_ := nomatch set_
  swept set_ := nomatch set_
  elapsed _ := by
    refine ⟨fun _ => ⟨rfl, rfl⟩, fun fd member polled => ?_⟩
    change fd ∈ Loop.kept state.scene.eventloop.fds
      (Loop.markFd state.sleepCommR state.scene.eventloop.fds state.scene.eventloop.fdEvents) at polled
    cases timer : state.graceTimer with
    | none => exact (guard.elapsed timer).2 fd member ((Loop.kept_markFd _ _ _).subset polled)
    | some running =>
        obtain ⟨pair, _, unread⟩ := guard.running (by rw [timer]; rfl)
        rw [pair] at member
        rcases List.mem_cons.mp member with rfl | last
        · exact Loop.not_mem_kept_markFd guard.aligned.once (removes (by rw [timer]; rfl)) polled
        · rw [List.mem_singleton.mp last] at polled
          exact unread ((Loop.kept_markFd _ _ _).subset polled)

theorem sleepIn (guard : PollGuard state opened) (unset : state.graceTimer = none) :
    PollGuard (sleepIn state) opened := by
  have same : SwaylockPlugin.sleepIn state = state.removeFd state.sleepCommR := by
    unfold SwaylockPlugin.sleepIn
    rw [unset]
  have never {goal : Prop} (set_ : state.graceTimer.isSome = true) : goal := by
    rw [unset] at set_
    cases set_
  rw [same]
  refine ⟨guard.removeFd _, guard.startup, fun away up => ?_, guard.early, guard.valid, guard.foreign, fun set_ => never set_,
    fun set_ => never set_, fun _ => ⟨(guard.elapsed unset).1, fun fd member polled => ?_⟩⟩
  · exact (Loop.mem_kept_markFd (guard.pipe_foreign away up)).mpr (guard.nested away up)
  · exact (guard.elapsed unset).2 fd member ((Loop.kept_markFd _ _ _).subset polled)

theorem startGrace (guard : PollGuard state opened) (due : state.phase = .grace) (pipes : Int × Int)
    (fresh : freshPipes state.scene.eventloop pipes = true) (positive : 0 < state.scene.args.graceTime) :
    PollGuard (startGracePeriod state (some pipes)) [pipes.1, pipes.2] := by
  obtain ⟨r, w⟩ := pipes
  simp only [freshPipes, Bool.and_eq_true, decide_eq_true_eq, bne_iff_ne, Bool.not_eq_true',
    Bool.eq_false_iff, ne_eq, Loop.registered_iff] at fresh
  obtain ⟨⟨⟨⟨validR, validW⟩, apart⟩, freshR⟩, freshW⟩ := fresh
  have away : state.phase ≠ .startup := by
    rw [due]
    decide
  unfold startGracePeriod
  rw [if_pos positive]
  have zip : (state.scene.eventloop.fds ++ [r]).zip (state.scene.eventloop.fdEvents ++ [⟨.sleepIn, false⟩]) =
      state.scene.eventloop.fds.zip state.scene.eventloop.fdEvents ++ [(r, ⟨.sleepIn, false⟩)] := by
    rw [List.zip_append guard.aligned.length]
    rfl
  have kept : Loop.kept (state.scene.eventloop.fds ++ [r]) (state.scene.eventloop.fdEvents ++ [⟨.sleepIn, false⟩]) =
      Loop.kept state.scene.eventloop.fds state.scene.eventloop.fdEvents ++ [r] := by
    rw [Loop.kept, zip]
    simp [Loop.kept]
  refine ⟨⟨?_, ?_⟩, fun at_ => (by cases at_), fun _ up => ?_, fun _ => rfl, ?_, ?_, fun _ => ⟨rfl, ?_, ?_⟩,
    fun _ late => (by cases late), fun none_ => (by cases none_)⟩
  · change (state.scene.eventloop.fds ++ [r]).length = (state.scene.eventloop.fdEvents ++ [_]).length
    rw [List.length_append, List.length_append, guard.aligned.length]
    rfl
  · change (Loop.kept (state.scene.eventloop.fds ++ [r]) (state.scene.eventloop.fdEvents ++ [_])).Nodup
    rw [kept]
    exact List.Nodup.append guard.aligned.once (List.nodup_singleton r) (List.disjoint_singleton.mpr freshR)
  · change _ ∈ Loop.kept (state.scene.eventloop.fds ++ [r]) (state.scene.eventloop.fdEvents ++ [_])
    rw [kept]
    exact List.mem_append_left _ (guard.nested away up)
  · intro fd member
    rcases List.mem_cons.mp member with rfl | last
    · exact validR
    · rw [List.mem_singleton.mp last]
      exact validW
  · intro up fd member same
    have there := guard.nested away up
    change fd = state.scene.descriptors.nested at same
    rw [← same] at there
    rcases List.mem_cons.mp member with rfl | last
    · exact freshR there
    · rw [List.mem_singleton.mp last] at there
      exact freshW there
  · apply Loop.watches_iff.mpr
    refine ⟨⟨.sleepIn, false⟩, ?_, rfl, rfl⟩
    exact zip ▸ List.mem_append_right _ (List.mem_singleton_self _)
  · change w ∉ Loop.kept (state.scene.eventloop.fds ++ [r]) (state.scene.eventloop.fdEvents ++ [_])
    rw [kept, List.mem_append, List.mem_singleton]
    exact fun member => member.elim freshW fun same => apart same.symm

theorem start (guard : PollGuard state opened) (due : state.phase = .startup) (unset : state.graceTimer = none) :
    PollGuard { addDescriptors { state with sleepCommR := -1, sleepCommW := -1 } with phase := .waitCheck }
      opened := by
  obtain ⟨none_, nothing⟩ := guard.startup due
  subst nothing
  have events : state.scene.eventloop.fdEvents = [] := by
    have length := guard.aligned.length
    rw [none_] at length
    exact List.length_eq_zero_iff.mp length.symm
  have kept : Loop.kept (addDescriptors { state with sleepCommR := -1, sleepCommW := -1 }).scene.eventloop.fds
      (addDescriptors { state with sleepCommR := -1, sleepCommW := -1 }).scene.eventloop.fdEvents =
      [state.scene.descriptors.display, state.scene.descriptors.comm, state.scene.descriptors.nested,
        state.scene.descriptors.sigusr, state.scene.descriptors.sigusr2] := by
    simp [Loop.kept, addDescriptors, SwaylockState.addFd, Loop.addFd, none_, events]
  have never {goal : Prop} (set_ : state.graceTimer.isSome = true) : goal := by
    rw [unset] at set_
    cases set_
  refine ⟨⟨?_, ?_⟩, fun at_ => (nomatch at_), fun _ _ => ?_, fun some_ => absurd rfl some_, fun _ member => (nomatch member),
    fun _ _ member => (nomatch member), fun set_ => never set_, fun set_ => never set_,
    fun _ => ⟨fun _ => ⟨rfl, rfl⟩, fun _ member => (nomatch member)⟩⟩
  · simp [addDescriptors, SwaylockState.addFd, Loop.addFd, none_, events]
  · refine Eq.mpr (congrArg List.Nodup kept) ?_
    exact state.scene.descriptors.distinct
  · refine Eq.mpr (congrArg (_ ∈ ·) kept) ?_
    simp [addDescriptors, SwaylockState.addFd]

theorem sweep (guard : PollGuard state opened) (phase : Phase) (away : state.phase ≠ .startup)
    (later : state.phase.pastGrace = true → phase.pastGrace = true) (apart : phase ≠ .startup) :
    PollGuard { state with scene := { state.scene with eventloop := state.scene.eventloop.sweep }, phase := phase }
      opened := by
  have same : Loop.kept state.scene.eventloop.sweep.fds state.scene.eventloop.sweep.fdEvents =
      Loop.kept state.scene.eventloop.fds state.scene.eventloop.fdEvents := Loop.kept_sweepFds guard.aligned.length
  have polled (fd : Int) : Polled { state.scene with eventloop := state.scene.eventloop.sweep } fd ↔
      Polled state.scene fd := iff_of_eq (congrArg (fd ∈ ·) same)
  refine ⟨⟨(Loop.zip_sweepFds guard.aligned.length).1, ?_⟩, fun at_ => absurd at_ apart, fun _ up => ?_,
    fun some_ => later (guard.early some_), guard.valid, guard.foreign, fun set_ => ?_, fun set_ _ => ?_, fun unset => ?_⟩
  · exact Eq.mpr (congrArg List.Nodup same) guard.aligned.once
  · exact (polled _).mpr (guard.nested away up)
  · obtain ⟨pair, watched, unread⟩ := guard.running set_
    exact ⟨pair, Loop.watches_sweep guard.aligned.length watched, fun member => unread ((polled _).mp member)⟩
  · obtain ⟨event, member, _, live⟩ := Loop.watches_iff.mp (guard.running set_).2.1
    exact Loop.marksKept_sweepFds guard.aligned.length (Loop.mem_kept.mpr ⟨event, member, live⟩)
  · obtain ⟨closed, unpolled⟩ := guard.elapsed unset
    exact ⟨fun _ => closed away, fun fd member there => unpolled fd member ((polled fd).mp there)⟩

theorem step {occurrence : Occurrence} (guard : PollGuard state opened) (grace : GraceGuard state.lockCore)
    (lock : LockStep state occurrence.event next.lockCore) (wire : WireStep state occurrence.event next)
    (meets : removesItsPipe state occurrence = true) : PollGuard next (openedPipes opened state occurrence) := by
  obtain ⟨event, env⟩ := occurrence
  have unset {phase : Phase} (at_ : state.phase = phase) (before : phase.pastGrace = false) :
      state.graceTimer = none := by
    cases timer : state.graceTimer with
    | none => rfl
    | some running =>
        have past : state.phase.pastGrace = true := grace.past (by
          change state.graceTimer.isSome = true
          rw [timer]
          rfl)
        rw [at_, before] at past
        cases past
  have stays {middle : SwaylockState} (other : event.wires = false) (before : PollGuard middle opened)
      (phase : middle.phase = state.phase) (kept : Unwired middle next) : PollGuard next opened := by
    refine before.quiet kept ?_ ?_ ?_ ?_
    · rw [phase]
      exact lock.startup
    · rw [phase]
      exact lock.pastGrace
    · rw [phase]
      exact fun away at_ => away (lock.begun (by rintro rfl; cases other) at_)
    · intro late
      have expires := lock.expiring (by rintro rfl; cases other) (by
        simpa [SwaylockState.expiring, SwaylockState.lockCore] using late)
      simpa [SwaylockState.expiring, phase] using expires
  have noted (other : ∀ pipes, event ≠ .startGrace pipes) : openedPipes opened state ⟨event, env⟩ = opened := by
    unfold openedPipes
    split
    · rename_i pipes started
      exact absurd started (other _)
    · rfl
  cases wire with
  | quiet other kept =>
      rw [noted (by rintro _ rfl; cases other)]
      exact stays other guard rfl kept
  | @graceOver _ middle _ other ends before phase after =>
      rw [noted (by rintro _ rfl; cases other)]
      have first := guard.quiet before (by rw [phase]; exact id) (by rw [phase]; exact id) (by rw [phase]; exact id)
        (by simp [SwaylockState.expiring, phase])
      have removes (set_ : middle.graceTimer.isSome = true) :
          middle.scene.eventloop.removes middle.sleepCommR = true := by
        rcases ends with late | rfl
        · exact first.swept set_ (by simpa [SwaylockState.expiring, phase] using late)
        · rw [before.graceTimer] at set_
          rw [before.pipes.1, before.scene.removes fun up => guard.foreign up _ ?_]
          · simpa [removesItsPipe, ← Option.not_isSome, set_] using meets
          · rw [(guard.running set_).1]
            exact List.mem_cons_self
      exact stays other (first.graceTimeout removes) phase after
  | sleepNotice =>
      rw [noted (by rintro _ ⟨⟩)]
      exact guard.sleepIn (Option.isNone_iff_eq_none.mp meets)
  | startGrace watcher due fresh =>
      by_cases starts : 0 < state.scene.args.graceTime ∧ watcher.isSome = true
      · obtain ⟨positive, some_⟩ := starts
        obtain ⟨pipes, rfl⟩ := Option.isSome_iff_exists.mp some_
        have pair : openedPipes opened state ⟨.startGrace (some pipes), env⟩ = [pipes.1, pipes.2] := if_pos positive
        rw [pair]
        exact guard.startGrace due pipes fresh positive
      · have same : startGracePeriod state watcher = { state with phase := .hiddenCheck } := by
          unfold startGracePeriod
          cases watcher with
          | none => exact ite_self _
          | some pipes => exact if_neg fun positive => starts ⟨positive, rfl⟩
        have still : openedPipes opened state ⟨.startGrace watcher, env⟩ = opened := by
          cases watcher with
          | none => rfl
          | some pipes => exact if_neg fun positive => starts ⟨positive, rfl⟩
        rw [still, same]
        refine guard.quiet (.of_seats rfl rfl ⟨rfl, rfl⟩) (by rintro ⟨⟩) (fun _ => rfl) (fun _ at_ => ?_) (by rintro ⟨⟩)
        rw [due] at at_
        cases at_
  | @start next due runs kept =>
      rw [noted (by rintro _ ⟨⟩)]
      refine (guard.start due (unset due rfl)).quiet ⟨kept.scene, kept.descriptors, kept.graceTimer, kept.pipes⟩
        ?_ ?_ ?_ ?_
      · rw [runs]
        rintro ⟨⟩
      · rintro ⟨⟩
      · rintro _ ⟨⟩
      · rw [SwaylockState.expiring, runs]
        rintro ⟨⟩
  | sweep polling =>
      rw [noted (by rintro _ ⟨⟩)]
      refine guard.sweep _ (fun at_ => ?_) lock.pastGrace (fun back => ?_)
      · rw [SwaylockState.polling, at_] at polling
        cases polling
      · split at back <;> cases back

theorem of_reachable (reachable : ((swaylock.machine.guarded removesItsPipe).observed [] openedPipes).Reachable
    (state, opened)) : PollGuard state opened := by
  refine reachable.invariant_under (fun pair => GraceGuard pair.1.lockCore) (fun pair => PollGuard pair.1 pair.2)
    ?_ ?_ ?_
  · exact fun _ before => GraceGuard.of_reachable before.of_observed.of_restrict
  · rintro ⟨state, opened⟩ ⟨start, rfl⟩
    have loop : state.scene.eventloop = .create := start.eventloop.1
    have unset : state.graceTimer = none := start.grace
    have phase : state.phase = .startup := start.main.1
    refine ⟨⟨?_, ?_⟩, fun _ => ⟨?_, rfl⟩, fun away => absurd phase away, fun some_ => absurd rfl some_,
      fun _ member => (nomatch member), fun _ _ member => (nomatch member), fun set_ => ?_, fun _ late => ?_,
      fun _ => ⟨fun away => absurd phase away, fun _ member => (nomatch member)⟩⟩
    · rw [loop]
      rfl
    · rw [loop]
      exact List.nodup_nil
    · rw [loop]
      rfl
    · change state.graceTimer.isSome = true at set_
      rw [unset] at set_
      cases set_
    · simp [SwaylockState.expiring, phase] at late
  · rintro ⟨state, opened⟩ occurrence ⟨next, _⟩ grace guard ⟨⟨moved, meets⟩, rfl⟩
    exact guard.step grace (lockStep_of_step moved) (deviceStep_of_step moved).wired meets

end PollGuard

/-- After the decision about the grace period no step adds a descriptor to the loop. -/
theorem WireStep.fds {state next : SwaylockState} {event : Event} (wire : WireStep state event next)
    (past : state.phase.pastGrace = true) : next.scene.eventloop.fds ⊆ state.scene.eventloop.fds := by
  cases wire with
  | quiet _ kept => rw [kept.scene.fds]; exact List.Subset.refl _
  | @graceOver _ middle _ _ _ before _ after =>
      have removed : (graceTimeout middle).scene.eventloop.fds = middle.scene.eventloop.fds := rfl
      rw [after.scene.fds, removed, before.scene.fds]
      exact List.Subset.refl _
  | sleepNotice =>
      unfold sleepIn
      cases state.graceTimer <;> exact List.Subset.refl _
  | startGrace _ due =>
      rw [due] at past
      cases past
  | start due =>
      rw [due] at past
      cases past
  | sweep => exact (Loop.sweepFds_sublist _ _).subset

/-- A descriptor that is not polled after the decision about the grace period is never polled again. -/
theorem unpolled_of_run {state last : SwaylockState} {events : List Occurrence} {fd : Int}
    (run : swaylock.machine.Run state events last) (past : state.phase.pastGrace = true)
    (absent : fd ∉ state.scene.eventloop.fds) : fd ∉ last.scene.eventloop.fds := by
  refine (run.preserves (fun state => state.phase.pastGrace = true ∧ fd ∉ state.scene.eventloop.fds) ?_
    ⟨past, absent⟩).2
  rintro state occurrence next ⟨past, absent⟩ moved
  exact ⟨(lockStep_of_step moved).pastGrace past, fun there => absent ((deviceStep_of_step moved).wired.fds past there)⟩

/-- The grace period is over, and a descriptor that nothing removes any more is still polled. -/
structure Stranded (state : SwaylockState) (fd : Int) : Prop where
  length : state.scene.eventloop.fds.length = state.scene.eventloop.fdEvents.length
  past : state.phase.pastGrace = true
  unset : state.graceTimer = none
  closed : state.sleepCommR = -1
  valid : 0 ≤ fd
  foreign : state.scene.display = true → fd ≠ state.scene.descriptors.nested
  polled : Polled state.scene fd

namespace Stranded

variable {state next : SwaylockState} {fd : Int}

theorem removed (stranded : Stranded state fd) : Polled (state.removeFd state.sleepCommR).scene fd := by
  refine (Loop.mem_kept_markFd ?_).mpr stranded.polled
  rw [stranded.closed]
  have valid := stranded.valid
  omega

theorem quiet (stranded : Stranded state fd) (kept : Unwired state next) (past : next.phase.pastGrace = true) :
    Stranded next fd where
  length := by
    rw [kept.scene.fds, stranded.length]
    cases kept.scene with
    | same _ events => rw [events]
    | closed _ events => rw [events, Loop.markFd_length]
  past := past
  unset := kept.graceTimer.trans stranded.unset
  closed := kept.pipes.1.trans stranded.closed
  valid := stranded.valid
  foreign up := by
    rw [kept.descriptors]
    exact stranded.foreign (kept.scene.up up).1
  polled := kept.scene.polled stranded.foreign stranded.polled

theorem step {event : Event} (stranded : Stranded state fd) (lock : LockStep state event next.lockCore)
    (wire : WireStep state event next) : Stranded next fd := by
  have past := lock.pastGrace stranded.past
  cases wire with
  | quiet _ kept => exact stranded.quiet kept past
  | @graceOver _ middle _ _ _ before phase after =>
      have first := stranded.quiet before (by rw [phase]; exact stranded.past)
      have ended : Stranded (graceTimeout middle) fd :=
        ⟨first.length.trans (Loop.markFd_length _ _ _).symm, first.past, rfl, rfl, first.valid, first.foreign, first.removed⟩
      exact ended.quiet after past
  | sleepNotice =>
      have same : sleepIn state = state.removeFd state.sleepCommR := by
        unfold sleepIn
        rw [stranded.unset]
      rw [same]
      exact ⟨stranded.length.trans (Loop.markFd_length _ _ _).symm, stranded.past, stranded.unset, stranded.closed,
        stranded.valid, stranded.foreign, stranded.removed⟩
  | startGrace _ due =>
      have before := stranded.past
      rw [due] at before
      cases before
  | start due =>
      have before := stranded.past
      rw [due] at before
      cases before
  | sweep =>
      refine ⟨(Loop.zip_sweepFds stranded.length).1, past, stranded.unset, stranded.closed, stranded.valid,
        stranded.foreign, ?_⟩
      exact Eq.mpr (congrArg (fd ∈ ·) (Loop.kept_sweepFds stranded.length)) stranded.polled

theorem of_unmet {opened : List Int} {occurrence : Occurrence} (guard : PollGuard state opened)
    (moved : swaylock.machine.step state occurrence next) (unmet : removesItsPipe state occurrence = false) :
    state.sleepCommR ∈ opened ∧ Stranded next state.sleepCommR := by
  have set_ : state.graceTimer.isSome = true := by
    obtain ⟨event, env⟩ := occurrence
    cases event with
    | sleepNotice => simpa [removesItsPipe] using unmet
    | lockNow =>
        rw [removesItsPipe, Bool.or_eq_false_iff] at unmet
        simpa using unmet.1
    | _ => cases unmet
  obtain ⟨pair, watched, _⟩ := guard.running set_
  obtain ⟨timer, running⟩ := Option.isSome_iff_exists.mp set_
  have member : state.sleepCommR ∈ opened := by
    rw [pair]
    exact List.mem_cons_self
  have polled : Polled state.scene state.sleepCommR := by
    obtain ⟨event, there, _, live⟩ := Loop.watches_iff.mp watched
    exact Loop.mem_kept.mpr ⟨event, there, live⟩
  have valid := guard.valid _ member
  have past := guard.early (List.ne_nil_of_mem member)
  have length (fd : Int) : state.scene.eventloop.fds.length =
      (Loop.markFd fd state.scene.eventloop.fds state.scene.eventloop.fdEvents).length :=
    guard.aligned.length.trans (Loop.markFd_length fd _ _).symm
  obtain ⟨event, env⟩ := occurrence
  have handled : handleEvent state env event = .ok next := moved.2
  refine ⟨member, ?_⟩
  cases event with
  | sleepNotice =>
      cases handled
      -- The variable is reset first, so that the removal looks for a descriptor that is never open.
      have reset : sleepIn state = (closeSleepComm { state.removeTimer? (some timer) with graceTimer := none }).removeFd
          (-1) := by
        unfold sleepIn
        rw [running]
        rfl
      rw [reset]
      refine ⟨length (-1), past, rfl, rfl, valid, fun up => guard.foreign up _ member, ?_⟩
      exact (Loop.mem_kept_markFd (by omega)).mpr polled
  | lockNow =>
      cases handled
      rw [removesItsPipe, Bool.or_eq_false_iff] at unmet
      have ended : lockIn state = closeSleepComm
          (SwaylockState.removeFd { state.removeTimer? (some timer) with graceTimer := none } state.sleepCommR) := by
        unfold lockIn
        rw [running]
        rfl
      rw [ended]
      refine ⟨length state.sleepCommR, past, rfl, rfl, valid, fun up => guard.foreign up _ member, ?_⟩
      exact Eq.mpr (congrArg (_ ∈ ·) (Loop.kept_markFd_removed unmet.2)) polled
  | _ => cases unmet

theorem listed (stranded : Stranded state fd) : fd ∈ state.scene.eventloop.fds := by
  obtain ⟨event, there, _⟩ := Loop.mem_kept.mp stranded.polled
  exact (List.of_mem_zip there).1

theorem run {last : SwaylockState} {events : List Occurrence} (stranded : Stranded state fd)
    (run : swaylock.machine.Run state events last) : Stranded last fd :=
  run.preserves (fun state => Stranded state fd)
    (fun _ _ _ stranded moved => stranded.step (lockStep_of_step moved) (deviceStep_of_step moved).wired) stranded

end Stranded

/-- The grace period lasts as long as its pipes are open and polled, no pipe is polled once a poll swept after it, and the
first step that fails the test ends it and leaves its pipe in the poll set for good. -/
theorem grace_polls_its_pipes {state : SwaylockState} {opened : List Int}
    (reachable : ((swaylock.machine.guarded removesItsPipe).observed [] openedPipes).Reachable (state, opened))
    (started : state.phase ≠ .startup) :
    (state.graceTimer.isSome = true ↔ 0 ≤ state.sleepCommR ∧ 0 ≤ state.sleepCommW ∧
      state.scene.eventloop.watches state.sleepCommR .sleepIn = true) ∧
    (state.graceTimer = none → ∀ occurrence next, occurrence.event = .sweep →
      swaylock.machine.step state occurrence next → ∀ later last, swaylock.machine.Run next later last →
      ∀ fd ∈ opened, fd ∉ last.scene.eventloop.fds) ∧
    ∀ occurrence next, swaylock.machine.step state occurrence next → removesItsPipe state occurrence = false →
      state.sleepCommR ∈ opened ∧ ∀ later last, swaylock.machine.Run next later last →
        last.graceTimer = none ∧ state.sleepCommR ∈ last.scene.eventloop.fds := by
  have guard := PollGuard.of_reachable reachable
  refine ⟨⟨fun set_ => ?_, fun open_ => ?_⟩, fun unset occurrence next sweeps moved later last run fd member => ?_,
    fun occurrence next moved unmet => ?_⟩
  · obtain ⟨pair, watched, _⟩ := guard.running set_
    refine ⟨guard.valid _ ?_, guard.valid _ ?_, watched⟩
    · rw [pair]
      exact List.mem_cons_self
    · rw [pair]
      exact List.mem_cons_of_mem _ List.mem_cons_self
  · by_contra elapsed
    have unset : state.graceTimer = none := by simpa using elapsed
    have closed := ((guard.elapsed unset).1 started).1
    omega
  · have past := (lockStep_of_step moved).pastGrace (guard.early (List.ne_nil_of_mem member))
    refine unpolled_of_run run past fun polled => ?_
    have handled : handleEvent state occurrence.env occurrence.event = .ok next := moved.2
    rw [sweeps] at handled
    cases handled
    have kept := (Loop.zip_sweepFds guard.aligned.length).2.2
    exact (guard.elapsed unset).2 fd member (Eq.mp (congrArg (fd ∈ ·) kept) polled)
  · obtain ⟨member, stranded⟩ := Stranded.of_unmet guard moved unmet
    exact ⟨member, fun later last run => ⟨(stranded.run run).unset, (stranded.run run).listed⟩⟩

/-- The grace period of the example polls the first of its two pipes. -/
theorem grace_polls_its_pipes_started : ∃ state : SwaylockState,
    state.graceTimer.isSome = true ∧ state.scene.eventloop.watches state.sleepCommR .sleepIn = true := by
  obtain ⟨⟨state, opened⟩, reachable, passed⟩ := (swaylock.guarded removesItsPipe).play_observed [] openedPipes
    (graceEvents.map Event.obliged) (fun pair => pair.1.graceTimer.isSome && decide (pair.1.phase ≠ .startup))
    (startState_initial _ _ _)
    (by decide +kernel : (((swaylock.guarded _).observed _ _).play (graceState, _) _).any _ = true)
  rw [Program.guarded_machine] at reachable
  rw [Bool.and_eq_true, decide_eq_true_eq] at passed
  obtain ⟨set_, started⟩ := passed
  exact ⟨state, set_, ((grace_polls_its_pipes reachable started).1.mp set_).2.2⟩

/-- After these events the grace period is over and a sweep leaves this descriptor of its pipes in the poll set. -/
theorem polled_after_sweep (fd : Int) (state : SwaylockState) (events : List Occurrence) (start : InitialState state)
    (played : ((swaylock.observed [] openedPipes).play (state, []) events).any fun pair =>
      pair.1.graceTimer.isNone && decide (fd ∈ pair.2) &&
        (swaylock.play pair.1 [Event.obliged .sweep]).any fun next => decide (fd ∈ next.scene.eventloop.fds)) :
    ¬ ∀ (state : SwaylockState) (opened : List Int),
      (swaylock.machine.observed [] openedPipes).Reachable (state, opened) → state.graceTimer = none →
      ∀ occurrence next, occurrence.event = .sweep → swaylock.machine.step state occurrence next →
        ∀ fd ∈ opened, fd ∉ next.scene.eventloop.fds := by
  intro claim
  obtain ⟨⟨state, opened⟩, reachable, passed⟩ := swaylock.play_observed [] openedPipes events _
    start played
  simp only [Bool.and_eq_true, decide_eq_true_eq, Option.isNone_iff_eq_none] at passed
  obtain ⟨⟨unset, member⟩, played⟩ := passed
  obtain ⟨next, path, polled⟩ := swaylock.play_runs _ _ played
  obtain ⟨_, rest, moved⟩ := Machine.Run.last_step [] path
  cases rest
  exact claim state opened reachable unset _ next rfl moved fd member (by simpa using polled)

/-- The notice of the sleep watcher closes the pipes of the grace period and leaves one of them in the poll set. -/
theorem sleep_notice_leaves_pipe_polled : ¬ ∀ (state : SwaylockState) (opened : List Int),
    (swaylock.machine.observed [] openedPipes).Reachable (state, opened) → state.graceTimer = none →
    ∀ occurrence next, occurrence.event = .sweep → swaylock.machine.step state occurrence next →
      ∀ fd ∈ opened, fd ∉ next.scene.eventloop.fds :=
  polled_after_sweep 9 graceState ((graceEvents ++ [Event.sleepNotice]).map Event.obliged) (startState_initial _ _ _)
    (by decide +kernel)

/-- The session is locked early, no plugin starts, and `pipe` returns the number of the nested descriptor that the fall back
closed and no poll has swept. -/
def reusedEvents : List Occurrence :=
  [Event.locked.obliged, ⟨.start, ⟨fun _ => none, fun _ => true, fun _ => true, []⟩⟩] ++
    [Event.check true, .readiness true, .daemonize true, .startGrace (some (5, 9)), .armHiddenCheck, .check true].map
      Event.obliged

/-- The removal by `lock_in` finds the stale entry of the nested descriptor and leaves the closed pipe in the poll set. -/
theorem lock_in_leaves_reused_pipe_polled : ¬ ∀ (state : SwaylockState) (opened : List Int),
    (swaylock.machine.observed [] openedPipes).Reachable (state, opened) → state.graceTimer = none →
    ∀ occurrence next, occurrence.event = .sweep → swaylock.machine.step state occurrence next →
      ∀ fd ∈ opened, fd ∉ next.scene.eventloop.fds :=
  polled_after_sweep 5 graceState (reusedEvents ++ [Event.lockNow.obliged]) (startState_initial _ _ _)
    (by decide +kernel)

end SwaylockPlugin
