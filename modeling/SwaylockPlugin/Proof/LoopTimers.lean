import SwaylockPlugin.Proof.EventLoop

namespace SwaylockPlugin.EventLoop

open Library

variable {Callback Data : Type}

/-- The notes know when each timer expires, whose callbacks were called and which timers were removed. -/
structure TimerNotes where
  expiry : NodeId → Option Timespec
  called : List NodeId
  removed : List NodeId

namespace TimerNotes

/-- Nothing was noted. -/
def none : TimerNotes := ⟨fun _ => .none, [], []⟩

/-- A turn that leads to the callback of a timer is noted. -/
def call (notes : TimerNotes) (loop : LoopState Callback Data) : TimerNotes :=
  match loop.stage with
  | .ringing _ id _ => { notes with called := id :: notes.called }
  | _ => notes

/-- The notes follow the timers that are added, removed and called. -/
def follow (notes : TimerNotes) (loop : LoopState Callback Data) : LoopEvent Callback Data → TimerNotes
  | .addTimer ms _ _ => { notes with expiry := Function.update notes.expiry loop.next (some (loop.clock.after ms)) }
  | .removeTimer id => if loop.hasTimer id then { notes with removed := id :: notes.removed } else notes
  | .turn =>
      match loop.turn with
      | .ok after => notes.call after
      | .error _ => notes
  | _ => notes

end TimerNotes

/-- The names of the timers of a loop are in the order of the list. -/
def LoopState.names (loop : LoopState Callback Data) : List NodeId := loop.timers.map Timer.id

/-- A walk along the timers is at a timer that is there, read the clock before, and in a callback goes on with another
timer. -/
def Walks (loop : LoopState Callback Data) : Stage Callback Data → Prop
  | .expiring now timer => loop.clock.before now = false ∧ ∀ id, timer = some id → id ∈ loop.names
  | .ringing now id timer =>
      loop.clock.before now = false ∧ id ∈ loop.names ∧ ∀ next, timer = some next → next ∈ loop.names ∧ next ≠ id
  | _ => True

/-- A timer is being called. -/
def Stage.rings (id : NodeId) : Stage Callback Data → Bool
  | .ringing _ timer _ => timer == id
  | _ => false

/-- The timers are as they were noted, and one that was called is in the list only while its callback runs. -/
structure Noted (loop : LoopState Callback Data) (notes : TimerNotes) : Prop where
  distinct : loop.names.Nodup
  below : ∀ id ∈ loop.names, id < loop.next
  expiry : ∀ timer ∈ loop.timers, notes.expiry timer.id = some timer.expiry
  past : ∀ id, id ∈ notes.called ∨ id ∈ notes.removed → id < loop.next
  called : ∀ id ∈ notes.called, id ∈ loop.names → loop.stage.rings id = true
  removed : ∀ timer ∈ loop.timers, timer.id ∈ notes.removed → timer.removed = true
  walks : Walks loop loop.stage

section Steps

variable {loop after : LoopState Callback Data} {notes : TimerNotes}

theorem Walks.keep (walks : Walks loop loop.stage) (stage : after.stage = loop.stage) (clock : after.clock = loop.clock)
    (names : ∀ id ∈ loop.names, id ∈ after.names) : Walks after after.stage := by
  rw [stage]
  cases here : loop.stage with
  | expiring now timer =>
      rw [here] at walks
      exact ⟨clock ▸ walks.1, fun id same => names id (walks.2 id same)⟩
  | ringing now id timer =>
      rw [here] at walks
      obtain ⟨read, there, next⟩ := walks
      exact ⟨clock ▸ read, names id there, fun other same => ⟨names other (next other same).1, (next other same).2⟩⟩
  | outside | dispatching | calling => trivial

theorem Noted.same (noted : Noted loop notes) (same : SameTimers loop after) : Noted after notes := by
  have names : after.names = loop.names := congrArg (List.map Timer.id) same.timers
  refine ⟨names ▸ noted.distinct, ?_, same.timers ▸ noted.expiry, ?_, ?_, same.timers ▸ noted.removed, ?_⟩
  · intro id member
    exact Nat.lt_of_lt_of_le (noted.below id (names ▸ member)) same.next
  · intro id known
    exact Nat.lt_of_lt_of_le (noted.past id known) same.next
  · intro id known member
    rw [same.stage]
    exact noted.called id known (names ▸ member)
  · exact noted.walks.keep same.stage same.clock fun id member => names ▸ member

theorem Noted.move (noted : Noted loop notes) (stage : Stage Callback Data) (walks : Walks loop stage)
    (quiet : ∀ id ∈ notes.called, id ∉ loop.names) : Noted { loop with stage := stage } notes where
  distinct := noted.distinct
  below := noted.below
  expiry := noted.expiry
  past := noted.past
  called id known member := absurd member (quiet id known)
  removed := noted.removed
  walks := by
    cases stage with
    | expiring | ringing => exact walks
    | outside | dispatching | calling => trivial

theorem Noted.freed (noted : Noted loop notes) {id : NodeId} {now : Timespec} {timer : Option NodeId}
    (only : ∀ other ∈ notes.called, other ∈ loop.names → other = id) (read : loop.clock.before now = false)
    (next : ∀ other, timer = some other → other ∈ loop.names ∧ other ≠ id) :
    Noted { loop with timers := unlink Timer.id loop.timers id, stage := .expiring now timer } notes where
  distinct := noted.distinct.sublist ((unlink_sublist loop.timers id).map _)
  below other member := noted.below other (((unlink_sublist loop.timers id).map _).subset member)
  expiry timer member := noted.expiry timer ((unlink_sublist loop.timers id).subset member)
  past := noted.past
  called other known member := by
    have same := only other known (((unlink_sublist loop.timers id).map _).subset member)
    exact absurd (same ▸ member) (unlink_gone loop.timers id)
  removed timer member := noted.removed timer ((unlink_sublist loop.timers id).subset member)
  walks := ⟨read, fun other same => unlink_stays (next other same).1 (next other same).2⟩

theorem Noted.reached (noted : Noted loop notes) {id : NodeId} (there : id ∈ loop.names) :
    ∃ timer ∈ loop.timers, timer.id = id ∧ nodeAt Timer.id loop.timers id = some timer := by
  obtain ⟨front, timer, back, split, rfl⟩ := split_of_name there
  have distinct := noted.distinct
  unfold LoopState.names at distinct
  rw [split] at distinct ⊢
  exact ⟨timer, List.mem_append_right _ List.mem_cons_self, rfl, nodeAt_split distinct⟩

theorem Noted.freeTimer (noted : Noted loop notes) {id : NodeId} (there : id ∈ loop.names) :
    loop.freeTimer id = .ok { loop with timers := unlink Timer.id loop.timers id } := by
  obtain ⟨timer, _, _, found⟩ := noted.reached there
  rw [LoopState.freeTimer, found]
  rfl

theorem Noted.next_there (noted : Noted loop notes) {id other : NodeId} (there : id ∈ loop.names)
    (next : following Timer.id loop.timers id = some other) : other ∈ loop.names ∧ other ≠ id := by
  obtain ⟨front, timer, back, split, rfl⟩ := split_of_name there
  have distinct := noted.distinct
  unfold LoopState.names at distinct ⊢
  rw [split] at distinct next ⊢
  rw [following_split distinct, Option.map_eq_some_iff] at next
  obtain ⟨behind, first, rfl⟩ := next
  have member : behind ∈ back := List.mem_of_head? first
  rw [List.map_append, List.map_cons] at distinct
  refine ⟨List.mem_map_of_mem (List.mem_append_right _ (List.mem_cons_of_mem _ member)), ?_⟩
  intro same
  exact (List.nodup_cons.mp (List.nodup_append.mp distinct).2.1).1 (same ▸ List.mem_map_of_mem member)

/-- The callback of a timer is called when the timer was not called or removed before and its expiry has passed. -/
structure Rings (loop : LoopState Callback Data) (notes : TimerNotes) (id : NodeId) : Prop where
  once : id ∉ notes.called
  kept : id ∉ notes.removed
  expired : ∃ expiry, notes.expiry id = some expiry ∧ expiry.before loop.clock = true

theorem before_past {expiry now clock : Timespec} (early : expiry.before now = true) (past : clock.before now = false) :
    expiry.before clock = true := by
  simp only [Timespec.before, Bool.or_eq_true, Bool.or_eq_false_iff, Bool.and_eq_true, Bool.and_eq_false_iff,
    decide_eq_true_eq, decide_eq_false_iff_not, beq_iff_eq, beq_eq_false_iff_ne] at *
  omega

theorem Noted.expire (noted : Noted loop notes) {now : Timespec} {id : NodeId}
    (here : loop.stage = .expiring now (some id)) :
    ∃ after, loop.expire now id = .ok after ∧ Noted after (notes.call after) ∧
      ∀ other, after.stage.rings other = true → Rings loop notes other := by
  have walks := noted.walks
  rw [here] at walks
  obtain ⟨read, known⟩ := walks
  have there := known id rfl
  have next : ∀ other, following Timer.id loop.timers id = some other → other ∈ loop.names ∧ other ≠ id :=
    fun other same => noted.next_there there same
  have quiet : ∀ other ∈ notes.called, other ∉ loop.names := by
    intro other called member
    have ringing := noted.called other called member
    rw [here] at ringing
    cases ringing
  obtain ⟨timer, member, rfl, found⟩ := noted.reached there
  rw [LoopState.expire, found]
  by_cases removed : timer.removed = true
  · have computed := noted.freeTimer there
    refine ⟨{ loop with
      timers := unlink Timer.id loop.timers timer.id
      stage := .expiring now (following Timer.id loop.timers timer.id) }, ?_, ?_, nofun⟩
    · show (if timer.removed = true then loop.freeTimer timer.id >>= _ else _) = _
      rw [if_pos removed, computed]
      rfl
    · exact noted.freed (fun other called inside => absurd inside (quiet other called)) read next
  · by_cases expired : timer.expiry.before now = true
    · refine ⟨{ loop with stage := .ringing now timer.id (following Timer.id loop.timers timer.id) }, ?_, ?_, ?_⟩
      · show (if timer.removed = true then _ else if timer.expiry.before now = true then _ else _) = _
        rw [if_neg removed, if_pos expired]
        rfl
      · refine ⟨noted.distinct, noted.below, noted.expiry, ?_, ?_, noted.removed, read, there, next⟩
        · intro other known
          rcases known with called | gone
          · rcases List.mem_cons.mp called with rfl | earlier
            · exact noted.below _ there
            · exact noted.past other (.inl earlier)
          · exact noted.past other (.inr gone)
        · intro other called inside
          rcases List.mem_cons.mp called with rfl | earlier
          · exact beq_self_eq_true _
          · exact absurd inside (quiet other earlier)
      · intro other rings
        obtain rfl := eq_of_beq rings
        exact ⟨fun called => quiet _ called there, fun gone => removed (noted.removed timer member gone),
          timer.expiry, noted.expiry timer member, before_past expired read⟩
    · refine ⟨{ loop with stage := .expiring now (following Timer.id loop.timers timer.id) }, ?_, ?_, nofun⟩
      · show (if timer.removed = true then _ else if timer.expiry.before now = true then _ else _) = _
        rw [if_neg removed, if_neg expired]
        rfl
      · exact noted.move _ ⟨read, fun other same => (next other same).1⟩ quiet

theorem Noted.addTimer (noted : Noted loop notes) (ms : Int) (callback : Callback) (data : Data) :
    Noted (loop.addTimer ms callback data) (notes.follow loop (.addTimer ms callback data)) := by
  have fresh : loop.next ∉ loop.names := fun member => Nat.lt_irrefl _ (noted.below _ member)
  have stays : ∀ id ∈ loop.names, id ∈ (loop.addTimer ms callback data).names := fun id member =>
    List.mem_cons_of_mem _ member
  refine ⟨List.nodup_cons.mpr ⟨fresh, noted.distinct⟩, ?_, ?_, ?_, ?_, ?_, noted.walks.keep rfl rfl stays⟩
  · intro id member
    rcases List.mem_cons.mp member with rfl | old
    · exact Nat.lt_succ_self _
    · exact Nat.lt_succ_of_lt (noted.below id old)
  · intro timer member
    rcases List.mem_cons.mp member with rfl | old
    · exact Function.update_self ..
    · have other : timer.id ≠ loop.next := fun same => fresh (same ▸ List.mem_map_of_mem old)
      exact (Function.update_of_ne other _ _).trans (noted.expiry timer old)
  · intro id known
    exact Nat.lt_succ_of_lt (noted.past id known)
  · intro id called member
    rcases List.mem_cons.mp member with rfl | old
    · exact absurd (noted.past _ (.inl called)) (Nat.lt_irrefl _)
    · exact noted.called id called old
  · intro timer member gone
    rcases List.mem_cons.mp member with rfl | old
    · exact absurd (noted.past _ (.inr gone)) (Nat.lt_irrefl _)
    · exact noted.removed timer old gone

theorem mem_markTimer {timers : List (Timer Callback Data)} {id : NodeId} {timer : Timer Callback Data}
    (member : timer ∈ LoopState.markTimer id timers) : ∃ old ∈ timers, old.id = timer.id ∧ old.expiry = timer.expiry ∧
      (old.removed = true → timer.removed = true) := by
  induction timers with
  | nil => cases member
  | cons first timers ih =>
      unfold LoopState.markTimer at member
      split at member
      · rcases List.mem_cons.mp member with rfl | later
        · exact ⟨first, List.mem_cons_self, rfl, rfl, fun _ => rfl⟩
        · exact ⟨timer, List.mem_cons_of_mem _ later, rfl, rfl, fun marked => marked⟩
      · rcases List.mem_cons.mp member with rfl | later
        · exact ⟨timer, List.mem_cons_self, rfl, rfl, fun marked => marked⟩
        · obtain ⟨old, there, kept⟩ := ih later
          exact ⟨old, List.mem_cons_of_mem _ there, kept⟩

theorem names_markTimer (id : NodeId) (timers : List (Timer Callback Data)) :
    (LoopState.markTimer id timers).map Timer.id = timers.map Timer.id := by
  induction timers with
  | nil => rfl
  | cons timer timers ih =>
      unfold LoopState.markTimer
      split
      · rfl
      · rw [List.map_cons, List.map_cons, ih]

theorem markTimer_marks {timers : List (Timer Callback Data)} {id : NodeId} (distinct : (timers.map Timer.id).Nodup)
    {timer : Timer Callback Data} (member : timer ∈ LoopState.markTimer id timers) (named : timer.id = id) :
    timer.removed = true := by
  induction timers with
  | nil => cases member
  | cons first timers ih =>
      rw [List.map_cons, List.nodup_cons] at distinct
      unfold LoopState.markTimer at member
      split at member
      · rename_i same
        rcases List.mem_cons.mp member with rfl | later
        · rfl
        · exact absurd (same.trans named.symm ▸ List.mem_map_of_mem later) distinct.1
      · rename_i other
        rcases List.mem_cons.mp member with rfl | later
        · exact absurd named other
        · exact ih distinct.2 later

theorem Noted.removeTimer (noted : Noted loop notes) (id : NodeId) :
    Noted (loop.removeTimer id) (notes.follow loop (.removeTimer id)) := by
  have names : (loop.removeTimer id).names = loop.names := names_markTimer id loop.timers
  have stays : ∀ other ∈ loop.names, other ∈ (loop.removeTimer id).names := fun other member => names ▸ member
  have kept : Noted (loop.removeTimer id) notes := by
    refine ⟨names ▸ noted.distinct, names ▸ noted.below, ?_, noted.past, ?_, ?_, noted.walks.keep rfl rfl stays⟩
    · intro timer member
      obtain ⟨old, there, named, same, _⟩ := mem_markTimer member
      rw [← named, ← same]
      exact noted.expiry old there
    · intro other called member
      exact noted.called other called (names ▸ member)
    · intro timer member gone
      obtain ⟨old, there, named, _, marked⟩ := mem_markTimer member
      exact marked (noted.removed old there (named ▸ gone))
  unfold TimerNotes.follow
  by_cases has : loop.hasTimer id = true
  · simp only [if_pos has]
    refine ⟨kept.distinct, kept.below, kept.expiry, ?_, kept.called, ?_, kept.walks⟩
    · intro other known
      rcases known with called | gone
      · exact noted.past other (.inl called)
      · rcases List.mem_cons.mp gone with rfl | earlier
        · obtain ⟨timer, member, same⟩ := List.any_eq_true.mp has
          exact noted.below _ (eq_of_beq same ▸ List.mem_map_of_mem member)
        · exact noted.past other (.inr earlier)
    · intro timer member gone
      rcases List.mem_cons.mp gone with same | earlier
      · exact markTimer_marks noted.distinct member same
      · exact kept.removed timer member earlier
  · simp only [if_neg has]
    exact kept

theorem setSlot_delivers (loop : LoopState Callback Data) (index : Nat) (pollfd : Pollfd) :
    Delivers .timer (loop.setSlot index pollfd) (SameTimers loop) := by
  refine Delivers.check (by decide) fun _ => ?_
  exact ⟨rfl, rfl, rfl, Nat.le_refl _⟩

theorem addFd_delivers (loop : LoopState Callback Data) (fd : Int) (mask : BitVec 16) (callback : Callback)
    (data : Data) : Delivers .timer (loop.addFd fd mask callback data) (SameTimers loop) := by
  let begun : LoopState Callback Data := { loop with
    next := loop.next + 1
    fdEvents := loop.fdEvents ++ [⟨loop.next, callback, data, false⟩] }
  have start : SameTimers loop begun := ⟨rfl, rfl, rfl, Nat.le_succ _⟩
  refine (setSlot_delivers begun.grow begun.grow.fdLength ⟨fd, mask, 0⟩).bind fun after same => ?_
  have all := (start.trans (.grow begun)).trans same
  exact ⟨all.timers, all.stage, all.clock, all.next⟩

theorem markFd_delivers (loop : LoopState Callback Data) (fd : Int) (fdIndex : Nat)
    (events : List (FdEvent Callback Data)) :
    Delivers .timer (loop.markFd fd fdIndex events) fun _ => True := by
  induction events generalizing fdIndex with
  | nil => exact trivial
  | cons event events ih =>
      unfold LoopState.markFd LoopState.slot
      cases loop.fds[fdIndex]?.join with
      | none => exact (by decide : Fault.slot ≠ Fault.timer)
      | some pollfd =>
          show Delivers .timer (if pollfd.fd = fd then _ else loop.markFd fd (fdIndex + 1) events >>= _) _
          split
          · exact trivial
          · exact (ih (fdIndex + 1)).bind fun _ _ => trivial

theorem removeFd_delivers (loop : LoopState Callback Data) (fd : Int) :
    Delivers .timer (loop.removeFd fd) fun result => SameTimers loop result.1 :=
  (markFd_delivers loop fd 0 loop.fdEvents).bind fun _ _ => ⟨rfl, rfl, rfl, Nat.le_refl _⟩

theorem freeEvent_delivers (loop : LoopState Callback Data) (fdIndex : Nat) (id : NodeId) :
    Delivers .timer (loop.freeEvent fdIndex id) (SameTimers loop) := by
  unfold LoopState.freeEvent
  cases nodeAt FdEvent.id loop.fdEvents id with
  | none => exact (by decide : Fault.event ≠ Fault.timer)
  | some event =>
      refine Delivers.check (by decide) fun _ => Delivers.check (by decide) fun _ => ?_
      exact ⟨rfl, rfl, rfl, Nat.le_refl _⟩

theorem sweepFrom_delivers (loop : LoopState Callback Data) (fdIndex : Nat) (events : List (FdEvent Callback Data)) :
    Delivers .timer (sweepFrom loop fdIndex events) (SameTimers loop) := by
  induction events generalizing loop fdIndex with
  | nil => exact SameTimers.refl loop
  | cons event events ih =>
      unfold sweepFrom
      split
      · refine (freeEvent_delivers loop fdIndex event.id).bind fun middle first => ?_
        exact (ih middle fdIndex).weaken fun after rest => first.trans rest
      · exact ih loop (fdIndex + 1)

theorem dispatch_delivers (loop : LoopState Callback Data) (fdIndex : Nat) (id : NodeId) :
    Delivers .timer (loop.dispatch fdIndex id) fun after =>
      ∃ stage : Stage Callback Data, after = { loop with stage := stage } ∧ Walks loop stage ∧
        ∀ other, stage.rings other = false := by
  unfold LoopState.dispatch LoopState.slot
  cases nodeAt FdEvent.id loop.fdEvents id with
  | none => exact (by decide : Fault.event ≠ Fault.timer)
  | some event =>
      cases loop.fds[fdIndex]?.join with
      | none => exact (by decide : Fault.slot ≠ Fault.timer)
      | some pollfd =>
          show Delivers Fault.timer (if event.removed = true then _ else if LoopState.wanted pollfd = true then _ else _) _
          split
          · exact ⟨_, rfl, trivial, fun _ => rfl⟩
          · split
            · exact ⟨_, rfl, trivial, fun _ => rfl⟩
            · exact ⟨_, rfl, trivial, fun _ => rfl⟩

theorem Noted.quiet (noted : Noted loop notes) (silent : ∀ id, loop.stage.rings id = false) :
    ∀ id ∈ notes.called, id ∉ loop.names := by
  intro id called member
  have rings := noted.called id called member
  rw [silent id] at rings
  cases rings

theorem call_silent (notes : TimerNotes) {after : LoopState Callback Data} (silent : ∀ id, after.stage.rings id = false) :
    notes.call after = notes := by
  unfold TimerNotes.call
  cases here : after.stage with
  | ringing now id timer =>
      have rings := silent id
      rw [here] at rings
      exact absurd (beq_self_eq_true id) (Bool.eq_false_iff.mp rings)
  | outside | dispatching | calling | expiring => rfl

theorem follow_turn (delivers : Delivers .timer loop.turn fun after => Noted after (notes.call after)) :
    Delivers .timer loop.turn fun after => Noted after (notes.follow loop .turn) := by
  have same : ∀ after, loop.turn = .ok after → notes.follow loop .turn = notes.call after := by
    intro after computed
    unfold TimerNotes.follow
    simp only [computed]
  cases computed : loop.turn with
  | error fault =>
      rw [computed] at delivers
      exact delivers
  | ok after =>
      rw [computed] at delivers
      show Noted after (notes.follow loop .turn)
      rw [same after computed]
      exact delivers

theorem Noted.beginTimers (noted : Noted loop notes) (quiet : ∀ id ∈ notes.called, id ∉ loop.names) :
    Noted loop.beginTimers (notes.call loop.beginTimers) := by
  unfold LoopState.beginTimers
  cases empty : loop.timers.isEmpty with
  | true => exact noted.move _ trivial quiet
  | false =>
      refine noted.move (.expiring loop.clock (loop.timers.head?.map Timer.id)) ⟨?_, ?_⟩ quiet
      · simp [Timespec.before]
      · intro id first
        obtain ⟨timer, head, rfl⟩ := Option.map_eq_some_iff.mp first
        exact List.mem_map_of_mem (List.mem_of_head? head)

theorem Noted.turn (noted : Noted loop notes) (walking : loop.attended = false) :
    Delivers .timer loop.turn fun after => Noted after (notes.call after) := by
  unfold LoopState.turn
  unfold LoopState.attended at walking
  cases here : loop.stage with
  | dispatching fdIndex event =>
      have quiet := noted.quiet fun id => congrArg (Stage.rings id) here
      cases event with
      | some id =>
          refine (dispatch_delivers loop fdIndex id).weaken ?_
          rintro _ ⟨stage, rfl, walks, silent⟩
          rw [call_silent notes silent]
          exact noted.move stage walks quiet
      | none =>
          refine (sweepFrom_delivers loop 0 loop.fdEvents).bind fun swept same => ?_
          have names : swept.names = loop.names := congrArg (List.map Timer.id) same.timers
          exact (noted.same same).beginTimers (names ▸ quiet)
  | expiring now timer =>
      cases timer with
      | some id =>
          obtain ⟨after, computed, kept, _⟩ := noted.expire here
          show Delivers .timer (loop.expire now id) _
          rw [computed]
          exact kept
      | none => exact noted.move .outside trivial (noted.quiet fun id => congrArg (Stage.rings id) here)
  | outside | calling | ringing =>
      rw [here] at walking
      cases walking

theorem Noted.resume (noted : Noted loop notes) : Delivers .timer loop.resume fun after => Noted after notes := by
  unfold LoopState.resume
  cases here : loop.stage with
  | calling fdIndex event invocation =>
      exact noted.move _ trivial (noted.quiet fun id => congrArg (Stage.rings id) here)
  | ringing now id timer =>
      have walks := noted.walks
      rw [here] at walks
      obtain ⟨read, there, next⟩ := walks
      show Delivers .timer (loop.freeTimer id >>= _) _
      rw [noted.freeTimer there]
      refine noted.freed ?_ read next
      intro other called member
      have rings := noted.called other called member
      rw [here] at rings
      exact (eq_of_beq rings).symm
  | outside | dispatching | expiring => exact noted

theorem past_passes {clock later now : Timespec} (past : clock.before now = false) (passes : later.before clock = false) :
    later.before now = false := by
  simp only [Timespec.before, Bool.or_eq_false_iff, Bool.and_eq_false_iff, decide_eq_false_iff_not, beq_eq_false_iff_ne,
    ne_eq] at *
  omega

theorem Noted.passes (noted : Noted loop notes) {clock : Timespec} (passes : clock.before loop.clock = false) :
    Noted { loop with clock := clock } notes where
  distinct := noted.distinct
  below := noted.below
  expiry := noted.expiry
  past := noted.past
  called := noted.called
  removed := noted.removed
  walks := by
    have walks := noted.walks
    show Walks _ loop.stage
    cases here : loop.stage with
    | expiring now timer =>
        rw [here] at walks
        exact ⟨past_passes walks.1 passes, walks.2⟩
    | ringing now id timer =>
        rw [here] at walks
        exact ⟨past_passes walks.1 passes, walks.2⟩
    | outside | dispatching | calling => trivial

theorem Noted.step (noted : Noted loop notes) (event : LoopEvent Callback Data) (allowed : loopEnabled loop event = true) :
    Delivers .timer (handleLoop loop event) fun after => Noted after (notes.follow loop event) := by
  cases event with
  | passes clock => exact noted.passes ((Bool.not_eq_true' _).mp allowed)
  | addFd fd mask callback data =>
      exact (addFd_delivers loop fd mask callback data).weaken fun after same => noted.same same
  | removeFd fd => exact (removeFd_delivers loop fd).bind fun result same => noted.same same
  | addTimer ms callback data => exact noted.addTimer ms callback data
  | removeTimer id => exact noted.removeTimer id
  | poll ready =>
      have here : loop.stage = .outside := by
        unfold loopEnabled at allowed
        cases here : loop.stage with
        | outside => rfl
        | dispatching | calling | expiring | ringing =>
            rw [here] at allowed
            cases allowed
      have moved := noted.move (.dispatching 0 (loop.fdEvents.head?.map FdEvent.id)) trivial
        (noted.quiet fun id => congrArg (Stage.rings id) here)
      exact ⟨moved.distinct, moved.below, moved.expiry, moved.past, moved.called, moved.removed, trivial⟩
  | turn => exact follow_turn (noted.turn ((Bool.not_eq_true' _).mp allowed))
  | resume => exact noted.resume

theorem noted_create (clock : Timespec) : Noted (.create clock : LoopState Callback Data) .none where
  distinct := List.nodup_nil
  below := nofun
  expiry := nofun
  past _ known := by
    rcases known with called | gone
    · cases called
    · cases gone
  called := nofun
  removed := nofun
  walks := trivial

theorem noted_of_reachable
    (reachable : ((polling Callback Data).machine.observed TimerNotes.none TimerNotes.follow).Reachable (loop, notes)) :
    Noted loop notes := by
  refine reachable.invariant (fun pair => Noted pair.1 pair.2) ?_ ?_
  · rintro ⟨loop, notes⟩ ⟨⟨clock, rfl⟩, rfl⟩
    exact noted_create clock
  · rintro ⟨loop, notes⟩ event ⟨after, later⟩ noted ⟨⟨allowed, computed⟩, rfl⟩
    exact (noted.step event allowed).ensures after computed

theorem Noted.rings (noted : Noted loop notes) (walking : loop.attended = false) (turned : loop.turn = .ok after)
    {id : NodeId} (called : after.stage.rings id = true) : Rings loop notes id := by
  unfold LoopState.turn at turned
  unfold LoopState.attended at walking
  cases here : loop.stage with
  | dispatching fdIndex event =>
      rw [here] at turned
      cases event with
      | some other =>
          obtain ⟨stage, rfl, _, silent⟩ := (dispatch_delivers loop fdIndex other).ensures after turned
          exact absurd called (Bool.eq_false_iff.mp (silent id))
      | none =>
          obtain ⟨swept, _, ⟨⟩⟩ := bind_ok.mp turned
          dsimp only [LoopState.beginTimers] at called
          split at called <;> cases called
  | expiring now timer =>
      rw [here] at turned
      cases timer with
      | some other =>
          obtain ⟨last, computed, _, rings⟩ := noted.expire here
          cases computed.symm.trans turned
          exact rings id called
      | none =>
          cases turned
          cases called
  | outside | calling | ringing =>
      rw [here] at walking
      cases walking

/-- In every run the loop calls a timer back at most once, after its expiry and not after it was removed, and it uses no
timer that was freed. -/
theorem rings_once
    (reachable : ((polling Callback Data).machine.observed TimerNotes.none TimerNotes.follow).Reachable (loop, notes)) :
    (∀ after id, loop.attended = false → handleLoop loop .turn = .ok after → after.stage.rings id = true →
      Rings loop notes id) ∧
    ∀ event, loopEnabled loop event = true → handleLoop loop event ≠ .error .timer := by
  have noted := noted_of_reachable reachable
  constructor
  · intro after id walking turned called
    exact noted.rings walking turned called
  · intro event allowed
    exact (noted.step event allowed).safe

end Steps

end SwaylockPlugin.EventLoop
