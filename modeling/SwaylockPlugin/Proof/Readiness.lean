import SwaylockPlugin.Proof.EventLoop

namespace SwaylockPlugin.EventLoop

open Library

variable {Callback Data : Type}

/-- A poll that returns tells which revents it stores, and an interrupted one tells nothing. -/
abbrev Readiness := Option (Int → BitVec 16 → BitVec 16)

/-- The last poll tells its readiness. -/
def lastPoll (note : Readiness) (_ : LoopState Callback Data) : LoopEvent Callback Data → Readiness
  | .poll ready => ready
  | _ => note

/-- An event that is not removed has revents for which its callback is wanted. -/
def LoopState.reports (loop : LoopState Callback Data) : Bool :=
  (loop.fdEvents.zip loop.fds).any fun pair => !pair.1.removed && pair.2.any LoopState.wanted

/-- A poll is interrupted only while no event has revents of an earlier poll. -/
def quietInterrupt (loop : LoopState Callback Data) : LoopEvent Callback Data → Bool
  | .poll none => !loop.reports
  | _ => true

/-- The loop tracks its entries, which have different names, when its walk is at the place of one of them. -/
structure Tracks (loop : LoopState Callback Data) (entries : List (Entry Callback Data)) : Prop where
  holds : Holds loop entries
  distinct : (entries.map fun entry => entry.1.id).Nodup
  below : ∀ entry ∈ entries, entry.1.id < loop.next
  placed : Placed entries loop.stage

/-- The program is at an event of the loop. -/
def Stage.amongEvents : Stage Callback Data → Bool
  | .dispatching _ _ | .calling _ _ _ => true
  | _ => false

/-- During a walk the entries that ask to be called back have the revents of the last poll. -/
def Told (note : Readiness) (loop : LoopState Callback Data) (entries : List (Entry Callback Data)) : Prop :=
  loop.stage.amongEvents = true → ∀ entry ∈ entries, entry.asks = true →
    ∃ ready, note = some ready ∧ entry.1.revents = ready entry.1.fd entry.1.mask

section Entries

variable {loop after : LoopState Callback Data} {entries front back : List (Entry Callback Data)}

theorem Holds.reports (holds : Holds loop entries) : loop.reports = entries.any Entry.asks := by
  obtain ⟨spare, slots⟩ := holds.slots
  have zipped : loop.fdEvents.zip loop.fds =
      entries.map fun entry => (entry.1.event entry.2, some entry.1.pollfd) := by
    rw [holds.events, slots, ← List.append_nil (entries.map fun entry => entry.1.event entry.2),
      List.zip_append (by rw [List.length_map, List.length_map]), List.zip_nil_left, List.append_nil, List.zip_map']
  rw [LoopState.reports, zipped, List.any_map]
  rfl

/-- Entries are marked further when each keeps its registration and none loses its mark. -/
def Marked (entries after : List (Entry Callback Data)) : Prop :=
  List.Forall₂ (fun old new => new.1 = old.1 ∧ (new.2 = false → old.2 = false)) entries after

theorem Marked.refl (entries : List (Entry Callback Data)) : Marked entries entries :=
  List.forall₂_same.mpr fun _ _ => ⟨rfl, id⟩

theorem marked_first (fd : Int) (entries : List (Entry Callback Data)) : Marked entries (markFirst fd entries) := by
  induction entries with
  | nil => exact .nil
  | cons entry entries ih =>
      unfold markFirst
      split
      · exact .cons ⟨rfl, fun marked => Bool.noConfusion marked⟩ (Marked.refl entries)
      · exact .cons ⟨rfl, id⟩ ih

theorem Marked.old {marked : List (Entry Callback Data)} (same : Marked entries marked) {entry : Entry Callback Data}
    (member : entry ∈ marked) : ∃ old ∈ entries, entry.1 = old.1 ∧ (entry.2 = false → old.2 = false) := by
  induction same with
  | nil => cases member
  | cons head _ ih =>
      rcases List.mem_cons.mp member with rfl | member
      · exact ⟨_, List.mem_cons_self, head⟩
      · obtain ⟨old, there, kept⟩ := ih member
        exact ⟨old, List.mem_cons_of_mem _ there, kept⟩

theorem Placed.marked {stage : Stage Callback Data} (placed : Placed entries stage) (fd : Int) :
    Placed (markFirst fd entries) stage := by
  have names (index : Nat) :
      (markFirst fd entries)[index]?.map (fun entry => entry.1.id) = entries[index]?.map fun entry => entry.1.id := by
    have registered :=
      congrArg (fun registrations => (registrations[index]?).map Registration.id) (markFirst_registrations fd entries)
    rw [List.getElem?_map, List.getElem?_map, Option.map_map, Option.map_map] at registered
    exact registered
  cases stage with
  | dispatching fdIndex event | calling fdIndex event _ =>
      intro id next
      rw [names]
      exact placed id next
  | outside | expiring | ringing => trivial

end Entries

section Steps

variable {loop after : LoopState Callback Data} {note : Readiness} {entries : List (Entry Callback Data)}

theorem Tracks.move (tracks : Tracks loop entries) (same : SameFds loop after) (placed : Placed entries after.stage) :
    Tracks after entries where
  holds := ⟨same.events.trans tracks.holds.events, same.slots ▸ tracks.holds.slots,
    same.length.trans tracks.holds.length, by rw [same.slots, same.capacity, tracks.holds.capacity]⟩
  distinct := tracks.distinct
  below entry member := Nat.lt_of_lt_of_le (tracks.below entry member) same.next
  placed := placed

theorem Entry.asks_new (id : NodeId) (fd : Int) (mask : BitVec 16) (callback : Callback) (data : Data) :
    Entry.asks (⟨id, fd, mask, callback, data, 0⟩, false) = false := by
  have silent : LoopState.wanted ⟨fd, mask, 0⟩ = false := by
    rw [LoopState.wanted]
    simp
  rw [Entry.asks]
  exact Bool.and_eq_false_iff.mpr (.inr silent)

theorem Tracks.adds (tracks : Tracks loop entries) (fd : Int) (mask : BitVec 16) (callback : Callback) (data : Data) :
    ∃ after, loop.addFd fd mask callback data = .ok after ∧
      Tracks after (entries ++ [(⟨loop.next, fd, mask, callback, data, 0⟩, false)]) ∧ SameTimers loop after := by
  obtain ⟨after, computed, holds, same, next⟩ := tracks.holds.addFd fd mask callback data
  refine ⟨after, computed, ⟨holds, ?_, ?_, ?_⟩, same⟩
  · exact nodup_concat tracks.distinct fun entry member => Nat.ne_of_lt (tracks.below entry member)
  · intro entry member
    rw [next]
    rcases List.mem_append.mp member with old | new
    · exact Nat.lt_succ_of_lt (tracks.below entry old)
    · rw [List.mem_singleton.mp new]
      exact Nat.lt_succ_self _
  · rw [same.stage]
    exact tracks.placed.append _

theorem Tracks.removes (tracks : Tracks loop entries) (fd : Int) :
    ∃ after found, loop.removeFd fd = .ok (after, found) ∧ Tracks after (markFirst fd entries) ∧
      SameTimers loop after := by
  obtain ⟨after, found, computed, holds, same, next⟩ := tracks.holds.removeFd fd
  refine ⟨after, found, computed, ⟨holds, ?_, ?_, ?_⟩, same⟩
  · have names := congrArg (List.map Registration.id) (markFirst_registrations fd entries)
    rw [List.map_map, List.map_map] at names
    exact (show (markFirst fd entries).map (fun entry => entry.1.id) = _ from names) ▸ tracks.distinct
  · intro entry member
    obtain ⟨old, there, registration, _⟩ := (marked_first fd entries).old member
    rw [next, registration]
    exact tracks.below old there
  · rw [same.stage]
    exact tracks.placed.marked fd

theorem Tracks.addFd (tracks : Tracks loop entries) (told : Told note loop entries) (fd : Int) (mask : BitVec 16)
    (callback : Callback) (data : Data) : Ensures (loop.addFd fd mask callback data) fun after =>
      ∃ entries, Tracks after entries ∧ Told note after entries := by
  obtain ⟨after, computed, kept, same⟩ := tracks.adds fd mask callback data
  rw [computed]
  refine .pure ⟨_, kept, fun among entry member asks => ?_⟩
  rw [same.stage] at among
  rcases List.mem_append.mp member with old | new
  · exact told among entry old asks
  · rw [List.mem_singleton.mp new, Entry.asks_new] at asks
    cases asks

theorem Tracks.removeFd (tracks : Tracks loop entries) (told : Told note loop entries) (fd : Int) :
    Ensures (loop.removeFd fd) fun result => ∃ entries, Tracks result.1 entries ∧ Told note result.1 entries := by
  obtain ⟨after, found, computed, kept, same⟩ := tracks.removes fd
  rw [computed]
  refine .pure ⟨markFirst fd entries, kept, fun among entry member asks => ?_⟩
  rw [same.stage] at among
  obtain ⟨old, there, registration, kept⟩ := (marked_first fd entries).old member
  obtain ⟨unmarked, wanted⟩ := Bool.and_eq_true_iff.mp asks
  have asks : old.asks = true := by
    rw [Entry.asks, kept ((Bool.not_eq_true' _).mp unmarked), ← registration]
    exact wanted
  rw [registration]
  exact told among old there asks

theorem Tracks.begins (tracks : Tracks loop entries) :
    Placed entries (.dispatching 0 (loop.fdEvents.head?.map FdEvent.id)) := by
  have first : loop.fdEvents.head?.map FdEvent.id = entries.head?.map fun entry => entry.1.id := by
    rw [← List.head?_map, tracks.holds.names, List.head?_map]
  rw [first]
  exact placed_first entries

theorem Tracks.polls (tracks : Tracks loop entries) (ready : Readiness) :
    Tracks (loop.poll ready) ((ready.map fun ready => entries.map (Entry.store ready)).getD entries) := by
  cases ready with
  | none => exact tracks.move ⟨rfl, rfl, rfl, rfl, Nat.le_refl _⟩ tracks.begins
  | some ready =>
      refine ⟨tracks.holds.poll ready, ?_, ?_, ?_⟩
      · rw [Option.map_some, Option.getD_some, List.map_map]
        exact tracks.distinct
      · intro entry member
        obtain ⟨old, there, rfl⟩ := List.mem_map.mp member
        exact tracks.below old there
      · exact tracks.begins.map fun _ => rfl

theorem Tracks.poll (tracks : Tracks loop entries) (ready : Readiness)
    (quiet : quietInterrupt loop (.poll ready) = true) :
    ∃ entries, Tracks (loop.poll ready) entries ∧ Told ready (loop.poll ready) entries := by
  refine ⟨_, tracks.polls ready, fun _ entry member asks => ?_⟩
  cases ready with
  | none =>
      have quiet : (!loop.reports) = true := quiet
      rw [tracks.holds.reports, Bool.not_eq_true', List.any_eq_false] at quiet
      exact absurd asks (quiet entry member)
  | some ready =>
      obtain ⟨old, _, rfl⟩ := List.mem_map.mp member
      exact ⟨ready, rfl, rfl⟩

theorem Tracks.dispatch (tracks : Tracks loop entries) {fdIndex : Nat} {id : NodeId}
    (here : loop.stage = .dispatching fdIndex (some id)) : ∃ entry, entries[fdIndex]? = some entry ∧
      loop.turn = .ok { loop with
        stage := entry.dispatched (fdIndex + 1) (entries[fdIndex + 1]?.map fun entry => entry.1.id) } := by
  have placed := tracks.placed
  rw [here] at placed
  obtain ⟨entry, found, rfl⟩ := Option.map_eq_some_iff.mp (placed id rfl)
  refine ⟨entry, found, ?_⟩
  unfold LoopState.turn
  rw [here]
  exact tracks.holds.dispatch tracks.distinct found

theorem placed_dispatched (entry : Entry Callback Data) (index : Nat) :
    Placed entries (entry.dispatched index (entries[index]?.map fun entry => entry.1.id)) := by
  unfold Entry.dispatched
  split <;> exact fun _ same => same

theorem Tracks.sweep (tracks : Tracks loop entries) {fdIndex : Nat} (here : loop.stage = .dispatching fdIndex none) :
    ∃ after, loop.turn = .ok after ∧ Tracks after (entries.filter Entry.kept) ∧ after.stage.amongEvents = false ∧
      after.timers = loop.timers ∧ after.next = loop.next := by
  obtain ⟨swept, computed, holds, same, next⟩ := tracks.holds.sweep tracks.distinct
  have left : swept.beginTimers.stage.amongEvents = false ∧
      Placed (entries.filter Entry.kept) swept.beginTimers.stage := by
    unfold LoopState.beginTimers
    cases swept.timers.isEmpty <;> exact ⟨rfl, trivial⟩
  refine ⟨swept.beginTimers, ?_, ⟨⟨holds.events, holds.slots, holds.length, holds.capacity⟩, ?_, ?_, left.2⟩, left.1,
    same.timers, next⟩
  · unfold LoopState.turn
    rw [here]
    show (loop.sweep >>= fun loop => pure loop.beginTimers) = _
    rw [computed]
    rfl
  · exact tracks.distinct.sublist (List.filter_sublist.map _)
  · intro entry member
    show _ < swept.next
    rw [next]
    exact tracks.below entry (List.mem_filter.mp member).1

theorem Tracks.turn (tracks : Tracks loop entries) (told : Told note loop entries) (walking : loop.attended = false) :
    Ensures loop.turn fun after => ∃ entries, Tracks after entries ∧ Told note after entries ∧
      ∀ fdIndex event invocation, after.stage = .calling fdIndex event invocation →
        ∃ entry ∈ entries, entry.asks = true ∧ invocation = entry.1.invocation := by
  intro after computed
  unfold LoopState.attended at walking
  cases here : loop.stage with
  | dispatching fdIndex event =>
      cases event with
      | some id =>
          obtain ⟨entry, found, turned⟩ := tracks.dispatch here
          cases turned.symm.trans computed
          have among : loop.stage.amongEvents = true := by rw [here]; rfl
          have same (stage : Stage Callback Data) : SameFds loop { loop with stage := stage } :=
            ⟨rfl, rfl, rfl, rfl, Nat.le_refl _⟩
          refine ⟨entries, tracks.move (same _) ?_, fun _ => told among, fun index event invocation called => ?_⟩
          · exact placed_dispatched entry (fdIndex + 1)
          · have called : entry.dispatched (fdIndex + 1) _ = .calling index event invocation := called
            unfold Entry.dispatched at called
            split at called
            · rename_i asks
              cases called
              exact ⟨entry, List.mem_of_getElem? found, asks, rfl⟩
            · cases called
      | none =>
          obtain ⟨swept, turned, kept, left, _⟩ := tracks.sweep here
          cases turned.symm.trans computed
          refine ⟨_, kept, fun among => ?_, fun index event invocation called => ?_⟩
          · rw [left] at among
            cases among
          · rw [called] at left
            cases left
  | expiring now timer =>
      have moved : SameFds loop after ∧ after.stage.amongEvents = false ∧ Placed entries after.stage := by
        unfold LoopState.turn at computed
        rw [here] at computed
        cases timer with
        | some id =>
            obtain ⟨same, timers⟩ :=
              (expire_delivers (by decide : Fault.slot ≠ .timer) loop now id).ensures after computed
            refine ⟨same, ?_, placed_amongTimers timers entries⟩
            cases stage : after.stage with
            | dispatching | calling =>
                rw [stage] at timers
                cases timers
            | _ => rfl
        | none =>
            cases computed
            exact ⟨⟨rfl, rfl, rfl, rfl, Nat.le_refl _⟩, rfl, trivial⟩
      obtain ⟨same, left, placed⟩ := moved
      refine ⟨entries, tracks.move same placed, fun among => ?_, fun index event invocation called => ?_⟩
      · rw [left] at among
        cases among
      · rw [called] at left
        cases left
  | outside | calling | ringing =>
      rw [here] at walking
      cases walking

theorem Tracks.resume (tracks : Tracks loop entries) (told : Told note loop entries) :
    Ensures loop.resume fun after => Tracks after entries ∧ Told note after entries := by
  unfold LoopState.resume
  cases here : loop.stage with
  | calling fdIndex event invocation =>
      have placed := tracks.placed
      rw [here] at placed
      refine .pure ⟨tracks.move ⟨rfl, rfl, rfl, rfl, Nat.le_refl _⟩ placed, fun _ => told ?_⟩
      rw [here]
      rfl
  | ringing now id timer =>
      have freed := (freeTimer_delivers (by decide : Fault.slot ≠ .timer) loop id).ensures
      refine freed.bind fun after same => .pure ⟨tracks.move ?_ trivial, nofun⟩
      exact ⟨same.events, same.slots, same.length, same.capacity, same.next⟩
  | outside | dispatching | expiring => exact .pure ⟨tracks, told⟩

theorem Tracks.step (tracks : Tracks loop entries) (told : Told note loop entries) {event : LoopEvent Callback Data}
    (allowed : loopEnabled loop event = true) (quiet : quietInterrupt loop event = true) :
    Ensures (handleLoop loop event) fun after =>
      ∃ entries, Tracks after entries ∧ Told (lastPoll note loop event) after entries := by
  have still {after : LoopState Callback Data} (same : SameFds loop after) (stage : after.stage = loop.stage) :
      ∃ entries, Tracks after entries ∧ Told note after entries :=
    ⟨entries, tracks.move same (stage ▸ tracks.placed), fun among => told (stage ▸ among)⟩
  cases event with
  | addFd fd mask callback data => exact tracks.addFd told fd mask callback data
  | removeFd fd => exact (tracks.removeFd told fd).bind fun _ kept => .pure kept
  | poll ready => exact .pure (tracks.poll ready quiet)
  | turn =>
      refine (tracks.turn told ((Bool.not_eq_true' _).mp allowed)).weaken fun after kept => ?_
      obtain ⟨later, walked, heard, _⟩ := kept
      exact ⟨later, walked, heard⟩
  | resume => exact (tracks.resume told).weaken fun after kept => ⟨entries, kept⟩
  | passes clock => exact .pure (still ⟨rfl, rfl, rfl, rfl, Nat.le_refl _⟩ rfl)
  | addTimer ms callback data => exact .pure (still ⟨rfl, rfl, rfl, rfl, Nat.le_succ _⟩ rfl)
  | removeTimer id => exact .pure (still ⟨rfl, rfl, rfl, rfl, Nat.le_refl _⟩ rfl)

/-- In every run with quiet interrupted polls the walk was told what its entries ask for by the last poll. -/
theorem told_of_reachable
    (reachable : (((polling Callback Data).machine.guarded quietInterrupt).observed none lastPoll).Reachable
      (loop, note)) :
    ∃ entries, Tracks loop entries ∧ Told note loop entries := by
  refine reachable.invariant (fun pair => ∃ entries, Tracks pair.1 entries ∧ Told pair.2 pair.1 entries) ?_ ?_
  · rintro ⟨loop, note⟩ ⟨⟨clock, rfl⟩, rfl⟩
    exact ⟨[], ⟨⟨rfl, ⟨List.replicate 10 none, rfl⟩, rfl, rfl⟩, List.nodup_nil, nofun, trivial⟩, nofun⟩
  · rintro ⟨loop, note⟩ event ⟨after, later⟩ ⟨entries, tracks, told⟩ ⟨⟨⟨allowed, computed⟩, quiet⟩, rfl⟩
    exact tracks.step told allowed quiet after computed

/-- The program is in a callback of an event. -/
def Stage.callsEvent : Stage Callback Data → Bool
  | .calling _ _ _ => true
  | _ => false

theorem Tracks.silent (tracks : Tracks loop entries) (told : Told none loop entries) {turns : Nat}
    (run : (polling Callback Data).machine.Run loop (List.replicate turns .turn) after)
    (start : loop.stage.callsEvent = false) : after.stage.callsEvent = false := by
  induction turns generalizing loop entries with
  | zero =>
      cases run
      exact start
  | succ turns ih =>
      cases run with
      | step moved run =>
          obtain ⟨allowed, computed⟩ := moved
          obtain ⟨later, walked, heard, calls⟩ := tracks.turn told ((Bool.not_eq_true' _).mp allowed) _ computed
          refine ih walked heard run ?_
          cases stage : Stage.callsEvent _ with
          | false => rfl
          | true =>
              unfold Stage.callsEvent at stage
              split at stage
              · rename_i here
                obtain ⟨entry, member, asks, _⟩ := calls _ _ _ here
                obtain ⟨ready, same, _⟩ := heard (by rw [here]; rfl) entry member asks
                cases same
              · cases stage

theorem Tracks.calls (tracks : Tracks loop entries) {ahead fdIndex : Nat} {entry : Entry Callback Data}
    (here : loop.stage = .dispatching fdIndex (entries[fdIndex]?.map fun entry => entry.1.id))
    (found : entries[fdIndex + ahead]? = some entry) (asks : entry.asks = true) :
    ∃ turns after, (polling Callback Data).machine.Run loop (List.replicate turns .turn) after ∧
      after.stage.callsEvent = true := by
  have turnable : loopEnabled loop (.turn : LoopEvent Callback Data) = true := by
    unfold loopEnabled LoopState.attended
    rw [here]
    rfl
  induction ahead generalizing loop fdIndex with
  | zero =>
      rw [Nat.add_zero] at found
      have named : loop.stage = .dispatching fdIndex (some entry.1.id) := by
        rw [here, found]
        rfl
      obtain ⟨current, there, turned⟩ := tracks.dispatch named
      cases found.symm.trans there
      refine ⟨1, _, .single ⟨turnable, turned⟩, ?_⟩
      show (entry.dispatched _ _).callsEvent = true
      unfold Entry.dispatched
      rw [if_pos asks]
      rfl
  | succ ahead ih =>
      have inside : fdIndex < entries.length := by
        have last := (List.getElem?_eq_some_iff.mp found).1
        omega
      have named : loop.stage = .dispatching fdIndex (some entries[fdIndex].1.id) := by
        rw [here, List.getElem?_eq_getElem inside]
        rfl
      obtain ⟨current, there, turned⟩ := tracks.dispatch named
      by_cases now : current.asks = true
      · refine ⟨1, _, .single ⟨turnable, turned⟩, ?_⟩
        show (current.dispatched _ _).callsEvent = true
        unfold Entry.dispatched
        rw [if_pos now]
        rfl
      · have onward : current.dispatched (fdIndex + 1) (entries[fdIndex + 1]?.map fun entry => entry.1.id) =
            .dispatching (fdIndex + 1) (entries[fdIndex + 1]?.map fun entry => entry.1.id) := by
          unfold Entry.dispatched
          rw [if_neg now]
        rw [onward] at turned
        have same (stage : Stage Callback Data) : SameFds loop { loop with stage := stage } :=
          ⟨rfl, rfl, rfl, rfl, Nat.le_refl _⟩
        have walked := tracks.move (same (.dispatching (fdIndex + 1)
          (entries[fdIndex + 1]?.map fun entry => entry.1.id))) fun _ same => same
        rw [← Nat.add_assoc, Nat.add_right_comm] at found
        obtain ⟨turns, after, run, called⟩ := ih walked rfl found rfl
        refine ⟨turns + 1, after, ?_, called⟩
        rw [List.replicate_succ]
        exact .step ⟨turnable, turned⟩ run

end Steps

/-- In every run in which each interrupted poll finds no revents of an earlier poll, a callback runs only for revents
that the poll of its own iteration reported for its descriptor, and an interrupted poll leads to callbacks without
another poll exactly where it finds such revents. -/
theorem callbacks_reported {loop : LoopState Callback Data} {note : Readiness}
    (reachable : (((polling Callback Data).machine.guarded quietInterrupt).observed none lastPoll).Reachable
      (loop, note)) :
    (∀ after fdIndex event invocation, loop.attended = false → handleLoop loop .turn = .ok after →
      after.stage = .calling fdIndex event invocation → ∃ ready mask, note = some ready ∧
        invocation.revents = ready invocation.fd mask ∧
          LoopState.wanted ⟨invocation.fd, mask, invocation.revents⟩ = true) ∧
    (loop.reports = true ↔ ∃ turns after,
      (polling Callback Data).machine.Run (loop.poll none) (List.replicate turns .turn) after ∧
        after.stage.callsEvent = true) := by
  obtain ⟨entries, tracks, told⟩ := told_of_reachable reachable
  constructor
  · intro after fdIndex event invocation walking turned called
    obtain ⟨later, walked, heard, calls⟩ := tracks.turn told walking after turned
    obtain ⟨entry, member, asks, rfl⟩ := calls fdIndex event invocation called
    obtain ⟨ready, same, revents⟩ := heard (by rw [called]; rfl) entry member asks
    exact ⟨ready, entry.1.mask, same, revents, (Bool.and_eq_true_iff.mp asks).2⟩
  · constructor
    · intro reports
      rw [tracks.holds.reports, List.any_eq_true] at reports
      obtain ⟨entry, member, asks⟩ := reports
      obtain ⟨index, found⟩ := List.mem_iff_getElem?.mp member
      have walked : Tracks (loop.poll none) entries := tracks.move ⟨rfl, rfl, rfl, rfl, Nat.le_refl _⟩ tracks.begins
      have here : (loop.poll none).stage = .dispatching 0 (entries[0]?.map fun entry => entry.1.id) := by
        have names := tracks.holds.names
        show Stage.dispatching 0 (loop.fdEvents.head?.map FdEvent.id) = _
        rw [← List.head?_map, names, List.head?_map, List.head?_eq_getElem?]
      exact walked.calls here ((Nat.zero_add index).symm ▸ found) asks
    · rintro ⟨turns, after, run, called⟩
      by_contra silent
      have quiet : quietInterrupt loop (.poll none) = true := by
        show (!loop.reports) = true
        simpa using silent
      obtain ⟨later, walked, heard⟩ := tracks.poll none quiet
      rw [walked.silent heard run rfl] at called
      cases called

/-- The loop is about to turn to a callback. -/
def turnsToCallback (loop : LoopState Unit Nat) : Bool :=
  !loop.attended && match loop.turn with
    | .ok after => after.stage.callsEvent
    | .error _ => false

theorem turnsToCallback_turn {loop : LoopState Unit Nat} (turns : turnsToCallback loop = true) :
    loop.attended = false ∧ ∃ after fdIndex event invocation, handleLoop loop .turn = .ok after ∧
      after.stage = .calling fdIndex event invocation := by
  obtain ⟨walking, called⟩ := Bool.and_eq_true_iff.mp turns
  refine ⟨(Bool.not_eq_true' _).mp walking, ?_⟩
  split at called
  · rename_i after turned
    cases here : after.stage with
    | calling fdIndex event invocation => exact ⟨after, fdIndex, event, invocation, turned, here⟩
    | _ =>
        rw [here] at called
        cases called
  · cases called

/-- A poll is interrupted while its descriptor is quiet, and the next one reports the descriptor. -/
def reportedEvents : List (LoopEvent Unit Nat) :=
  [.addFd 3 1 () 30, .poll none, .turn, .turn, .poll (some fun _ _ => 1)]

/-- After an interrupted poll a callback runs for what its own poll reported. -/
theorem callbacks_reported_once : ∃ (note : Readiness) (invocation : Invocation Unit Nat)
    (ready : Int → BitVec 16 → BitVec 16) (mask : BitVec 16), note = some ready ∧
      invocation.revents = ready invocation.fd mask := by
  obtain ⟨⟨loop, note⟩, reachable, passed⟩ :=
    (polling Unit Nat).play_guarded_observed quietInterrupt none lastPoll reportedEvents
      (fun pair => turnsToCallback pair.1) (⟨⟨0, 0⟩, rfl⟩ : (polling Unit Nat).initial (.create ⟨0, 0⟩))
      (by decide +kernel : ((((polling Unit Nat).guarded quietInterrupt).observed _ _).play _ _).any _ = true)
  obtain ⟨walking, after, fdIndex, event, invocation, turned, called⟩ := turnsToCallback_turn passed
  obtain ⟨ready, mask, same, revents, _⟩ :=
    (callbacks_reported reachable).1 after fdIndex event invocation walking turned called
  exact ⟨note, invocation, ready, mask, same, revents⟩

/-- After an interrupted poll the callback of the earlier poll runs again. -/
theorem interrupted_poll_calls_back : ¬ ∀ (loop : LoopState Unit Nat) (note : Readiness),
    ((polling Unit Nat).machine.observed none lastPoll).Reachable (loop, note) →
      ∀ after fdIndex event invocation, loop.attended = false → handleLoop loop .turn = .ok after →
        after.stage = .calling fdIndex event invocation → ∃ ready mask, note = some ready ∧
          invocation.revents = ready invocation.fd mask ∧
            LoopState.wanted ⟨invocation.fd, mask, invocation.revents⟩ = true := by
  intro claim
  obtain ⟨⟨loop, note⟩, reachable, passed⟩ := (polling Unit Nat).play_observed none lastPoll
    (reportedEvents ++ [.turn, .resume, .turn, .poll none]) (fun pair => turnsToCallback pair.1 && pair.2.isNone)
    (⟨⟨0, 0⟩, rfl⟩ : (polling Unit Nat).initial (.create ⟨0, 0⟩))
    (by decide +kernel : (((polling Unit Nat).observed _ _).play _ _).any _ = true)
  obtain ⟨turns, silent⟩ := Bool.and_eq_true_iff.mp passed
  obtain ⟨walking, after, fdIndex, event, invocation, turned, called⟩ := turnsToCallback_turn turns
  obtain ⟨ready, _, same, _⟩ := claim loop note reachable after fdIndex event invocation walking turned called
  rw [same] at silent
  cases silent

end SwaylockPlugin.EventLoop
