import SwaylockPlugin.Construction.EventLoop

namespace SwaylockPlugin.EventLoop

open Library

variable {Callback Data : Type}

/-- A registration is what `loop_add_fd` was called with, together with the revents that the last poll stored for it. -/
structure Registration (Callback Data : Type) where
  id : NodeId
  fd : Int
  mask : BitVec 16
  callback : Callback
  data : Data
  revents : BitVec 16

namespace Registration

/-- The event of a registration may be removed before it is freed. -/
def event (registration : Registration Callback Data) (removed : Bool) : FdEvent Callback Data :=
  ⟨registration.id, registration.callback, registration.data, removed⟩

/-- The slot of a registration has its revents. -/
def pollfd (registration : Registration Callback Data) : Pollfd :=
  ⟨registration.fd, registration.mask, registration.revents⟩

/-- The callback of a registration is invoked with what belongs to the registration. -/
def invocation (registration : Registration Callback Data) : Invocation Callback Data :=
  ⟨registration.id, registration.callback, registration.fd, registration.revents, registration.data⟩

end Registration

/-- The registry knows the registrations that were added and those of them that were not removed, in the order in which
they were added. -/
structure Registry (Callback Data : Type) where
  added : List (Registration Callback Data)
  current : List (Registration Callback Data)

/-- A new registration is the last one. -/
def Registry.add (registry : Registry Callback Data) (registration : Registration Callback Data) :
    Registry Callback Data :=
  ⟨registry.added ++ [registration], registry.current ++ [registration]⟩

/-- A poll tells each registration what is ready for it. -/
def Registration.store (ready : Int → BitVec 16 → BitVec 16) (registration : Registration Callback Data) :
    Registration Callback Data :=
  { registration with revents := ready registration.fd registration.mask }

/-- The registry follows what is asked of the loop and what the polls find. -/
def register (registry : Registry Callback Data) (loop : LoopState Callback Data) :
    LoopEvent Callback Data → Registry Callback Data
  | .addFd fd mask callback data => registry.add ⟨loop.next, fd, mask, callback, data, 0⟩
  | .removeFd fd => { registry with current := registry.current.filter fun registration => registration.fd != fd }
  | .poll (some ready) =>
      ⟨registry.added.map (Registration.store ready), registry.current.map (Registration.store ready)⟩
  | _ => registry

/-- Some slot in use has a descriptor until its entry was swept. -/
def LoopState.unswept (loop : LoopState Callback Data) (fd : Int) : Bool :=
  (loop.fds.take loop.fdLength).any fun slot => slot.any fun pollfd => pollfd.fd == fd

/-- A descriptor is registered only while there is no entry for it. -/
def newDescriptor (loop : LoopState Callback Data) : LoopEvent Callback Data → Bool
  | .addFd fd _ _ _ => !loop.unswept fd
  | _ => true

/-- The events and the slots in use are parallel when they describe the same registrations of the given ones. -/
structure Parallel (loop : LoopState Callback Data) (added : List (Registration Callback Data)) : Prop where
  length : loop.fdEvents.length = loop.fdLength
  same : ∀ (index : Nat) (event : FdEvent Callback Data), loop.fdEvents[index]? = some event →
    ∃ registration ∈ added, event = registration.event event.removed ∧ loop.fds[index]? = some (some registration.pollfd)

/-- An entry is a registration together with the mark of its event. -/
abbrev Entry (Callback Data : Type) := Registration Callback Data × Bool

/-- An entry that is not marked is kept. -/
def Entry.kept (entry : Entry Callback Data) : Bool := !entry.2

/-- The loop holds entries when its events and its slots in use are the ones of the entries. -/
structure Holds (loop : LoopState Callback Data) (entries : List (Entry Callback Data)) : Prop where
  events : loop.fdEvents = entries.map fun entry => entry.1.event entry.2
  slots : ∃ spare, loop.fds = entries.map (fun entry => some entry.1.pollfd) ++ spare
  length : loop.fdLength = entries.length
  capacity : loop.fds.length = loop.fdCapacity

/-- Two loops have the same timers and are at the same place. -/
structure SameTimers (loop after : LoopState Callback Data) : Prop where
  timers : after.timers = loop.timers
  stage : after.stage = loop.stage
  clock : after.clock = loop.clock
  next : loop.next ≤ after.next

namespace SameTimers

theorem refl (loop : LoopState Callback Data) : SameTimers loop loop := ⟨rfl, rfl, rfl, Nat.le_refl _⟩

theorem trans {one two three : LoopState Callback Data} (first : SameTimers one two) (second : SameTimers two three) :
    SameTimers one three :=
  ⟨second.timers.trans first.timers, second.stage.trans first.stage, second.clock.trans first.clock,
    Nat.le_trans first.next second.next⟩

end SameTimers

section Entries

variable {loop : LoopState Callback Data} {entries front back : List (Entry Callback Data)}
  {entry : Entry Callback Data}

theorem Holds.slot (holds : Holds loop entries) {index : Nat} (found : entries[index]? = some entry) :
    loop.fds[index]? = some (some entry.1.pollfd) := by
  obtain ⟨spare, slots⟩ := holds.slots
  have inside : index < entries.length := (List.getElem?_eq_some_iff.mp found).1
  rw [slots, List.getElem?_append_left (by simpa using inside), List.getElem?_map, found]
  rfl

theorem Holds.slot_ok (holds : Holds loop entries) {index : Nat} (found : entries[index]? = some entry) :
    loop.slot index = .ok entry.1.pollfd := by
  rw [LoopState.slot, holds.slot found]
  rfl

theorem Holds.used (holds : Holds loop entries) :
    loop.fds.take loop.fdLength = entries.map fun entry => some entry.1.pollfd := by
  obtain ⟨spare, slots⟩ := holds.slots
  rw [slots, holds.length]
  exact List.take_left' (List.length_map _)

theorem Holds.parallel {added : List (Registration Callback Data)} (holds : Holds loop entries)
    (known : ∀ entry ∈ entries, entry.1 ∈ added) : Parallel loop added := by
  constructor
  · rw [holds.events, holds.length, List.length_map]
  · intro index event found
    rw [holds.events, List.getElem?_map, Option.map_eq_some_iff] at found
    obtain ⟨entry, placed, rfl⟩ := found
    exact ⟨entry.1, known entry (List.mem_of_getElem? placed), rfl, holds.slot placed⟩

theorem Holds.unswept (holds : Holds loop entries) (fd : Int) :
    loop.unswept fd = entries.any fun entry => entry.1.fd == fd := by
  rw [LoopState.unswept, holds.used, List.any_map]
  rfl

theorem Holds.grow (holds : Holds loop entries) : Holds loop.grow entries ∧ loop.grow.fdLength < loop.grow.fds.length := by
  obtain ⟨spare, slots⟩ := holds.slots
  have room := holds.capacity
  have used : loop.fdLength ≤ loop.fds.length := by
    rw [slots, List.length_append, List.length_map, holds.length]
    omega
  unfold LoopState.grow
  by_cases full : loop.fdLength = loop.fdCapacity
  · rw [if_pos full]
    refine ⟨⟨holds.events, ⟨spare ++ List.replicate 10 none, ?_⟩, holds.length, ?_⟩, ?_⟩
    · show loop.fds ++ _ = _
      rw [slots, List.append_assoc]
    · show (loop.fds ++ List.replicate 10 none).length = loop.fdCapacity + 10
      rw [List.length_append, List.length_replicate, room]
    · show loop.fdLength < (loop.fds ++ List.replicate 10 none).length
      rw [List.length_append, List.length_replicate]
      omega
  · rw [if_neg full]
    exact ⟨holds, by omega⟩

theorem SameTimers.grow (loop : LoopState Callback Data) : SameTimers loop loop.grow := by
  unfold LoopState.grow
  split
  · exact ⟨rfl, rfl, rfl, Nat.le_refl _⟩
  · exact .refl loop

theorem LoopState.grow_event (next : NodeId) (fdEvents : List (FdEvent Callback Data)) :
    { loop with next := next, fdEvents := fdEvents }.grow = { loop.grow with next := next, fdEvents := fdEvents } := by
  unfold LoopState.grow
  split <;> rfl

theorem set_behind {used spare : List (Option Pollfd)} (slot : Option Pollfd) (room : used.length < (used ++ spare).length) :
    ∃ rest, (used ++ spare).set used.length slot = used ++ [slot] ++ rest := by
  cases spare with
  | nil => simp at room
  | cons first rest =>
      refine ⟨rest, ?_⟩
      rw [List.set_append_right _ _ (Nat.le_refl _), Nat.sub_self, List.set_cons_zero, List.append_assoc]
      rfl

theorem Holds.addFd (holds : Holds loop entries) (fd : Int) (mask : BitVec 16) (callback : Callback) (data : Data) :
    ∃ after, loop.addFd fd mask callback data = .ok after ∧
      Holds after (entries ++ [(⟨loop.next, fd, mask, callback, data, 0⟩, false)]) ∧ SameTimers loop after ∧
      after.next = loop.next + 1 := by
  obtain ⟨grown, room⟩ := holds.grow
  have same := SameTimers.grow loop
  have computed : loop.addFd fd mask callback data = .ok
      { loop.grow with
        next := loop.next + 1
        fdEvents := loop.fdEvents ++ [⟨loop.next, callback, data, false⟩]
        fds := loop.grow.fds.set loop.grow.fdLength (some ⟨fd, mask, 0⟩)
        fdLength := loop.grow.fdLength + 1 } := by
    rw [LoopState.addFd, LoopState.grow_event, LoopState.setSlot]
    dsimp only
    rw [decide_eq_true room]
    rfl
  refine ⟨_, computed, ⟨?_, ?_, ?_, ?_⟩, ⟨same.timers, same.stage, same.clock, Nat.le_succ _⟩, rfl⟩
  · rw [List.map_append, ← holds.events]
    rfl
  · obtain ⟨spare, slots⟩ := grown.slots
    rw [slots] at room
    rw [grown.length, ← List.length_map (fun entry : Entry Callback Data => some entry.1.pollfd)] at room
    obtain ⟨rest, written⟩ := set_behind (some ⟨fd, mask, 0⟩) room
    refine ⟨rest, ?_⟩
    show loop.grow.fds.set loop.grow.fdLength _ = _
    rw [slots, grown.length, ← List.length_map (fun entry : Entry Callback Data => some entry.1.pollfd), written,
      List.map_append]
    rfl
  · rw [List.length_append, ← grown.length]
    rfl
  · show (loop.grow.fds.set _ _).length = loop.grow.fdCapacity
    rw [List.length_set, grown.capacity]

/-- An entry with a descriptor is marked, and the others stay as they are. -/
def Entry.mark (fd : Int) (entry : Entry Callback Data) : Entry Callback Data :=
  (entry.1, entry.2 || entry.1.fd == fd)

theorem Entry.mark_other {fd : Int} (other : entry.1.fd ≠ fd) : entry.mark fd = entry := by
  rw [Entry.mark, beq_false_of_ne other, Bool.or_false]

/-- The first entry with a descriptor is marked, and the others stay as they are. -/
def markFirst (fd : Int) : List (Entry Callback Data) → List (Entry Callback Data)
  | [] => []
  | entry :: entries => if entry.1.fd = fd then (entry.1, true) :: entries else entry :: markFirst fd entries

theorem markFirst_registrations (fd : Int) (entries : List (Entry Callback Data)) :
    (markFirst fd entries).map Prod.fst = entries.map Prod.fst := by
  induction entries with
  | nil => rfl
  | cons entry entries ih =>
      unfold markFirst
      split
      · rfl
      · rw [List.map_cons, List.map_cons, ih]

theorem markFirst_distinct (fd : Int) (distinct : (entries.map fun entry => entry.1.fd).Nodup) :
    markFirst fd entries = entries.map (Entry.mark fd) := by
  induction entries with
  | nil => rfl
  | cons entry entries ih =>
      rw [List.map_cons, List.nodup_cons] at distinct
      unfold markFirst
      split
      · rename_i here
        -- The walk stops here, and the entries behind have other descriptors.
        have others : entries.map (Entry.mark fd) = entries := by
          rw [List.map_congr_left (g := id), List.map_id]
          intro other member
          apply Entry.mark_other
          rintro rfl
          exact distinct.1 (here ▸ List.mem_map_of_mem member)
        rw [List.map_cons, others, Entry.mark, here, beq_self_eq_true, Bool.or_true]
      · rename_i other
        rw [List.map_cons, Entry.mark_other other, ih distinct.2]

theorem Holds.markFd (holds : Holds loop (front ++ back)) (fd : Int) :
    ∃ found, loop.markFd fd front.length (back.map fun entry => entry.1.event entry.2) =
      .ok ((markFirst fd back).map fun entry => entry.1.event entry.2, found) := by
  induction back generalizing front with
  | nil => exact ⟨false, rfl⟩
  | cons entry back ih =>
      have placed : (front ++ entry :: back)[front.length]? = some entry := by simp
      rw [List.map_cons, LoopState.markFd, holds.slot_ok placed]
      unfold markFirst
      by_cases here : entry.1.fd = fd
      · refine ⟨true, ?_⟩
        show (if entry.1.fd = fd then _ else _) = _
        rw [if_pos here, if_pos here]
        rfl
      · rw [List.append_cons] at holds
        obtain ⟨found, walked⟩ := ih holds
        rw [List.length_append, List.length_singleton] at walked
        refine ⟨found, ?_⟩
        show (if entry.1.fd = fd then _ else LoopState.markFd loop fd (front.length + 1) _ >>= _) = _
        rw [if_neg here, walked, if_neg here]
        rfl

theorem Holds.removeFd (holds : Holds loop entries) (fd : Int) :
    ∃ after found, loop.removeFd fd = .ok (after, found) ∧ Holds after (markFirst fd entries) ∧
      SameTimers loop after ∧ after.next = loop.next := by
  have all : Holds loop ([] ++ entries) := holds
  obtain ⟨found, walked⟩ := all.markFd fd
  have computed : loop.removeFd fd =
      .ok ({ loop with fdEvents := (markFirst fd entries).map fun entry => entry.1.event entry.2 }, found) := by
    rw [LoopState.removeFd, holds.events]
    rw [show LoopState.markFd loop fd 0 _ = _ from walked]
    rfl
  have same := markFirst_registrations fd entries
  refine ⟨_, found, computed, ⟨rfl, ?_, ?_, holds.capacity⟩, ⟨rfl, rfl, rfl, Nat.le_refl _⟩, rfl⟩
  · obtain ⟨spare, slots⟩ := holds.slots
    have pollfds := congrArg (List.map fun registration => some registration.pollfd) same
    rw [List.map_map, List.map_map] at pollfds
    refine ⟨spare, ?_⟩
    show loop.fds = _
    rw [slots, show (markFirst fd entries).map (fun entry => some entry.1.pollfd) = _ from pollfds]
    rfl
  · have lengths := congrArg List.length same
    rw [List.length_map, List.length_map] at lengths
    rw [lengths]
    exact holds.length

/-- An entry keeps its mark when its revents are stored. -/
def Entry.store (ready : Int → BitVec 16 → BitVec 16) (entry : Entry Callback Data) : Entry Callback Data :=
  (entry.1.store ready, entry.2)

theorem Holds.poll (holds : Holds loop entries) (ready : Int → BitVec 16 → BitVec 16) :
    Holds (loop.poll (some ready)) (entries.map (Entry.store ready)) := by
  obtain ⟨spare, slots⟩ := holds.slots
  have used : loop.fdLength = (entries.map fun entry => some entry.1.pollfd).length := by
    rw [List.length_map, holds.length]
  refine ⟨?_, ⟨spare, ?_⟩, ?_, ?_⟩
  · show loop.fdEvents = _
    rw [holds.events, List.map_map]
    rfl
  · show loop.storeRevents (some ready) = _
    rw [LoopState.storeRevents, holds.used, List.map_map, List.map_map, slots, List.drop_left' used.symm]
    rfl
  · rw [List.length_map]
    exact holds.length
  · show (loop.storeRevents (some ready)).length = loop.fdCapacity
    rw [← holds.capacity, LoopState.storeRevents, List.length_append, List.length_map, ← List.length_append, List.take_append_drop]

theorem moveSlots_closes (loop : LoopState Callback Data) {used behind spare : List (Option Pollfd)}
    {gap : Option Pollfd} (slots : loop.fds = used ++ gap :: (behind ++ spare)) :
    ∃ rest, loop.moveSlots used.length behind.length = .ok { loop with fds := used ++ behind ++ rest } ∧
      (used ++ behind ++ rest).length = loop.fds.length := by
  have inside : used.length + 1 + behind.length ≤ loop.fds.length := by
    rw [slots, List.length_append, List.length_cons, List.length_append]
    omega
  have kept : loop.fds.take used.length = used := by rw [slots, List.take_left' rfl]
  have moved : (loop.fds.drop (used.length + 1)).take behind.length = behind := by
    rw [slots, List.append_cons, List.drop_left' (by simp), List.take_left' rfl]
  refine ⟨loop.fds.drop (used.length + behind.length), ?_, ?_⟩
  · rw [LoopState.moveSlots, decide_eq_true inside, kept, moved]
    rfl
  · rw [List.length_append, List.length_append, List.length_drop]
    omega

theorem Holds.freeEvent (holds : Holds loop (front ++ entry :: back))
    (distinct : (loop.fdEvents.map FdEvent.id).Nodup) :
    ∃ after, loop.freeEvent front.length entry.1.id = .ok after ∧ Holds after (front ++ back) ∧
      SameTimers loop after ∧ after.next = loop.next := by
  obtain ⟨spare, slots⟩ := holds.slots
  have events := holds.events
  rw [List.map_append, List.map_cons] at events slots
  have counted : loop.fdLength = front.length + back.length + 1 := by
    rw [holds.length, List.length_append, List.length_cons]
    omega
  rw [events] at distinct
  have found : nodeAt FdEvent.id loop.fdEvents entry.1.id = some (entry.1.event entry.2) := by
    rw [events]
    exact nodeAt_split distinct
  have unlinked : unlink FdEvent.id loop.fdEvents entry.1.id =
      (front ++ back).map fun entry => entry.1.event entry.2 := by
    rw [events, List.map_append]
    exact unlink_split distinct
  have inside : decide (front.length < loop.fdLength) = true := decide_eq_true (by omega)
  have count : loop.fdLength - 1 - front.length = back.length := by omega
  let begun := { loop with fdEvents := unlink FdEvent.id loop.fdEvents entry.1.id, fdLength := loop.fdLength - 1 }
  rw [List.append_assoc, List.cons_append] at slots
  obtain ⟨rest, moved, room⟩ := moveSlots_closes begun slots
  rw [List.length_map, List.length_map] at moved
  have computed : loop.freeEvent front.length entry.1.id = begun.moveSlots front.length back.length := by
    rw [LoopState.freeEvent, found, inside, ← count]
    rfl
  refine ⟨_, computed.trans moved, ⟨unlinked, ⟨rest, ?_⟩, ?_, room.trans holds.capacity⟩,
    ⟨rfl, rfl, rfl, Nat.le_refl _⟩, rfl⟩
  · rw [List.map_append]
  · show loop.fdLength - 1 = (front ++ back).length
    rw [List.length_append]
    omega

theorem Holds.names (holds : Holds loop entries) :
    loop.fdEvents.map FdEvent.id = entries.map fun entry => entry.1.id := by
  rw [holds.events, List.map_map]
  rfl

theorem Holds.sweepFrom (holds : Holds loop (front ++ back))
    (distinct : ((front ++ back).map fun entry => entry.1.id).Nodup) :
    ∃ after, EventLoop.sweepFrom loop front.length (back.map fun entry => entry.1.event entry.2) = .ok after ∧
      Holds after (front ++ back.filter Entry.kept) ∧ SameTimers loop after ∧ after.next = loop.next := by
  induction back generalizing loop front with
  | nil => exact ⟨loop, rfl, holds, .refl loop, rfl⟩
  | cons entry back ih =>
      obtain ⟨registration, mark⟩ := entry
      cases mark with
      | true =>
          rw [← holds.names] at distinct
          obtain ⟨middle, freed, less, same, named⟩ := holds.freeEvent distinct
          have fewer : ((front ++ back).map fun entry => entry.1.id).Nodup := by
            rw [holds.names] at distinct
            refine distinct.sublist (List.Sublist.map _ ?_)
            exact List.Sublist.append_left (List.sublist_cons_self _ _) _
          obtain ⟨after, swept, rest, others, last⟩ := ih less fewer
          refine ⟨after, ?_, rest, same.trans others, last.trans named⟩
          show (loop.freeEvent front.length registration.id >>= _) = _
          rw [show loop.freeEvent front.length registration.id = _ from freed]
          exact swept
      | false =>
          rw [List.append_cons] at holds distinct
          obtain ⟨after, swept, rest, others, last⟩ := ih holds distinct
          rw [List.length_append, List.length_singleton] at swept
          rw [← List.append_cons] at rest
          exact ⟨after, swept, rest, others, last⟩

theorem Holds.sweep (holds : Holds loop entries) (distinct : (entries.map fun entry => entry.1.id).Nodup) :
    ∃ after, loop.sweep = .ok after ∧ Holds after (entries.filter Entry.kept) ∧ SameTimers loop after ∧
      after.next = loop.next := by
  rw [LoopState.sweep, holds.events]
  have all : Holds loop ([] ++ entries) := holds
  exact all.sweepFrom distinct

/-- An entry that asks to be called back is not marked and has wanted revents. -/
def Entry.asks (entry : Entry Callback Data) : Bool := !entry.2 && LoopState.wanted entry.1.pollfd

/-- An entry is called back where it asks for it, and then the walk goes on to the next place. -/
def Entry.dispatched (entry : Entry Callback Data) (fdIndex : Nat) (next : Option NodeId) : Stage Callback Data :=
  if entry.asks then .calling fdIndex next entry.1.invocation else .dispatching fdIndex next

theorem Holds.dispatch (holds : Holds loop entries) (distinct : (entries.map fun entry => entry.1.id).Nodup)
    {index : Nat} (found : entries[index]? = some entry) :
    loop.dispatch index entry.1.id = .ok { loop with
      stage := entry.dispatched (index + 1) (entries[index + 1]?.map fun entry => entry.1.id) } := by
  obtain ⟨front, back, rfl, rfl⟩ := split_of_index found
  have events := holds.events
  have names := holds.names
  rw [← names, events] at distinct
  rw [List.map_append, List.map_cons] at events distinct
  have next : following FdEvent.id loop.fdEvents entry.1.id =
      (front ++ entry :: back)[front.length + 1]?.map fun entry => entry.1.id := by
    rw [events, show following FdEvent.id _ entry.1.id = _ from following_split distinct, List.head?_map,
      List.getElem?_append_right (Nat.le_add_right _ 1), Nat.add_sub_cancel_left, List.getElem?_cons_succ,
      ← List.head?_eq_getElem?, Option.map_map]
    rfl
  have reached : nodeAt FdEvent.id loop.fdEvents entry.1.id = some (entry.1.event entry.2) := by
    rw [events]
    exact nodeAt_split distinct
  rw [LoopState.dispatch, reached, holds.slot_ok found, next]
  unfold Entry.dispatched
  obtain ⟨registration, mark⟩ := entry
  cases mark with
  | true => rfl
  | false =>
      show (if LoopState.wanted registration.pollfd = true then _ else _) = _
      by_cases asked : LoopState.wanted registration.pollfd = true
      · have asks : Entry.asks (registration, false) = true := asked
        rw [if_pos asked, if_pos asks]
        rfl
      · have silent : ¬Entry.asks (registration, false) = true := asked
        rw [if_neg asked, if_neg silent]
        rfl

theorem kept_mark (fd : Int) (entries : List (Entry Callback Data)) :
    ((entries.map (Entry.mark fd)).filter Entry.kept).map Prod.fst =
      ((entries.filter Entry.kept).map Prod.fst).filter fun registration => registration.fd != fd := by
  induction entries with
  | nil => rfl
  | cons entry entries ih =>
      obtain ⟨registration, mark⟩ := entry
      cases mark with
      | true => exact ih
      | false =>
          by_cases here : registration.fd = fd
          · simpa [Entry.mark, Entry.kept, here] using ih
          · have other : (registration.fd != fd) = true := bne_iff_ne.mpr here
            rw [List.map_cons, Entry.mark_other here]
            show registration :: _ = List.filter _ (registration :: _)
            rw [ih, List.filter_cons, if_pos other]

theorem kept_store (ready : Int → BitVec 16 → BitVec 16) (entries : List (Entry Callback Data)) :
    ((entries.map (Entry.store ready)).filter Entry.kept).map Prod.fst =
      ((entries.filter Entry.kept).map Prod.fst).map (Registration.store ready) := by
  rw [List.filter_map, List.map_map, List.map_map]
  rfl

end Entries

/-- A walk along the events is at the place of the entry that comes next. -/
def Placed (entries : List (Entry Callback Data)) : Stage Callback Data → Prop
  | .dispatching fdIndex event | .calling fdIndex event _ =>
      ∀ id, event = some id → entries[fdIndex]?.map (fun entry => entry.1.id) = some id
  | _ => True

/-- The loop follows the registry when it holds entries with different names and descriptors for registrations that were
added, of which the ones that are not marked are the current ones. -/
structure Follows (loop : LoopState Callback Data) (registry : Registry Callback Data)
    (entries : List (Entry Callback Data)) : Prop where
  holds : Holds loop entries
  names : (registry.added.map Registration.id).Nodup
  below : ∀ registration ∈ registry.added, registration.id < loop.next
  distinct : (entries.map fun entry => entry.1.id).Nodup
  descriptors : (entries.map fun entry => entry.1.fd).Nodup
  known : ∀ entry ∈ entries, entry.1 ∈ registry.added
  current : registry.current = (entries.filter Entry.kept).map Prod.fst
  placed : Placed entries loop.stage

/-- Two loops have the same events and the same slots. -/
structure SameFds (loop after : LoopState Callback Data) : Prop where
  events : after.fdEvents = loop.fdEvents
  slots : after.fds = loop.fds
  length : after.fdLength = loop.fdLength
  capacity : after.fdCapacity = loop.fdCapacity
  next : loop.next ≤ after.next

/-- The loop lists registrations when its events and its slots in use are theirs in the same order. -/
structure Lists (loop : LoopState Callback Data) (registrations : List (Registration Callback Data)) : Prop where
  events : loop.fdEvents = registrations.map fun registration => registration.event false
  slots : loop.fds.take loop.fdLength = registrations.map fun registration => some registration.pollfd

section Steps

variable {loop after : LoopState Callback Data} {registry : Registry Callback Data}
  {entries : List (Entry Callback Data)}

theorem Placed.append {stage : Stage Callback Data} (placed : Placed entries stage) (more : List (Entry Callback Data)) :
    Placed (entries ++ more) stage := by
  cases stage with
  | dispatching fdIndex event | calling fdIndex event _ =>
      intro id same
      have found := placed id same
      obtain ⟨entry, there, _⟩ := Option.map_eq_some_iff.mp found
      rwa [List.getElem?_append_left (List.getElem?_eq_some_iff.mp there).1]
  | outside | expiring | ringing => trivial

theorem Placed.map {stage : Stage Callback Data} (placed : Placed entries stage)
    {change : Entry Callback Data → Entry Callback Data} (same : ∀ entry, (change entry).1.id = entry.1.id) :
    Placed (entries.map change) stage := by
  cases stage with
  | dispatching fdIndex event | calling fdIndex event _ =>
      intro id next
      rw [List.getElem?_map, Option.map_map]
      rw [← placed id next]
      exact congrArg (fun name => Option.map name entries[fdIndex]?) (funext same)
  | outside | expiring | ringing => trivial

theorem Follows.move (follows : Follows loop registry entries) (same : SameFds loop after)
    (placed : Placed entries after.stage) : Follows after registry entries where
  holds := ⟨same.events.trans follows.holds.events, same.slots ▸ follows.holds.slots,
    same.length.trans follows.holds.length, by rw [same.slots, same.capacity, follows.holds.capacity]⟩
  names := follows.names
  below registration member := Nat.lt_of_lt_of_le (follows.below registration member) same.next
  distinct := follows.distinct
  descriptors := follows.descriptors
  known := follows.known
  current := follows.current
  placed := placed

theorem freeTimer_delivers {fault : Fault} (other : fault ≠ .timer) (loop : LoopState Callback Data) (id : NodeId) :
    Delivers fault (loop.freeTimer id) (SameFds loop) := by
  unfold LoopState.freeTimer
  cases nodeAt Timer.id loop.timers id with
  | none => exact Ne.symm other
  | some timer => exact ⟨rfl, rfl, rfl, rfl, Nat.le_refl _⟩

/-- The loop is at its walk along the timers. -/
def Stage.amongTimers : Stage Callback Data → Bool
  | .expiring _ _ | .ringing _ _ _ => true
  | _ => false

theorem placed_amongTimers {stage : Stage Callback Data} (timers : stage.amongTimers = true)
    (entries : List (Entry Callback Data)) : Placed entries stage := by
  cases stage with
  | expiring | ringing => trivial
  | outside | dispatching | calling => cases timers

theorem expire_delivers {fault : Fault} (other : fault ≠ .timer) (loop : LoopState Callback Data) (now : Timespec)
    (id : NodeId) :
    Delivers fault (loop.expire now id) fun after => SameFds loop after ∧ after.stage.amongTimers = true := by
  unfold LoopState.expire
  cases nodeAt Timer.id loop.timers id with
  | none => exact Ne.symm other
  | some timer =>
      show Delivers fault (if timer.removed = true then _ else if timer.expiry.before now = true then _ else _) _
      split
      · exact (freeTimer_delivers other loop id).bind fun _ same =>
          ⟨⟨same.events, same.slots, same.length, same.capacity, same.next⟩, rfl⟩
      · split
        · exact ⟨⟨rfl, rfl, rfl, rfl, Nat.le_refl _⟩, rfl⟩
        · exact ⟨⟨rfl, rfl, rfl, rfl, Nat.le_refl _⟩, rfl⟩

theorem Follows.dispatch (follows : Follows loop registry entries) {fdIndex : Nat} {id : NodeId}
    (here : loop.stage = .dispatching fdIndex (some id)) :
    ∃ stage, loop.dispatch fdIndex id = .ok { loop with stage := stage } ∧ Placed entries stage ∧
      ∀ index next invocation, stage = .calling index next invocation →
        ∃ registration ∈ registry.current, invocation = registration.invocation := by
  have placed := follows.placed
  rw [here] at placed
  obtain ⟨entry, found, rfl⟩ := Option.map_eq_some_iff.mp (placed id rfl)
  refine ⟨_, follows.holds.dispatch follows.distinct found, ?_⟩
  unfold Entry.dispatched
  split
  · rename_i asks
    refine ⟨fun _ same => same, ?_⟩
    rintro _ _ _ ⟨⟩
    refine ⟨entry.1, ?_, rfl⟩
    rw [follows.current]
    exact List.mem_map_of_mem (List.mem_filter.mpr ⟨List.mem_of_getElem? found, (Bool.and_eq_true_iff.mp asks).1⟩)
  · exact ⟨fun _ same => same, nofun⟩

theorem Follows.sweep (follows : Follows loop registry entries) :
    ∃ swept, loop.sweep = .ok swept ∧ Lists swept registry.current ∧ swept.next = loop.next ∧
      Holds swept (entries.filter Entry.kept) := by
  obtain ⟨swept, computed, holds, _, next⟩ := follows.holds.sweep follows.distinct
  have unmarked : ∀ entry ∈ entries.filter Entry.kept, entry.2 = false := by
    intro entry member
    exact (Bool.not_eq_true' _).mp (List.mem_filter.mp member).2
  refine ⟨swept, computed, ⟨?_, ?_⟩, next, holds⟩
  · rw [holds.events, follows.current, List.map_map]
    exact List.map_congr_left fun entry member => congrArg entry.1.event (unmarked entry member)
  · rw [holds.used, follows.current, List.map_map]
    rfl

theorem Follows.swept (follows : Follows loop registry entries) (holds : Holds after (entries.filter Entry.kept))
    (next : after.next = loop.next) {stage : Stage Callback Data} (placed : Placed (entries.filter Entry.kept) stage) :
    Follows { after with stage := stage } registry (entries.filter Entry.kept) where
  holds := ⟨holds.events, holds.slots, holds.length, holds.capacity⟩
  names := follows.names
  below registration member := next ▸ follows.below registration member
  distinct := follows.distinct.sublist (List.filter_sublist.map _)
  descriptors := follows.descriptors.sublist (List.filter_sublist.map _)
  known entry member := follows.known entry (List.mem_filter.mp member).1
  current := by rw [List.filter_filter, follows.current]; simp only [Bool.and_self]
  placed := placed

theorem Follows.addFd (follows : Follows loop registry entries) {fd : Int} (fresh : loop.unswept fd = false)
    (mask : BitVec 16) (callback : Callback) (data : Data) :
    ∃ after, loop.addFd fd mask callback data = .ok after ∧
      Follows after (registry.add ⟨loop.next, fd, mask, callback, data, 0⟩)
        (entries ++ [(⟨loop.next, fd, mask, callback, data, 0⟩, false)]) := by
  obtain ⟨after, computed, holds, same, next⟩ := follows.holds.addFd fd mask callback data
  rw [follows.holds.unswept, List.any_eq_false] at fresh
  have below : ∀ registration ∈ registry.added, registration.id ≠ loop.next := fun registration member =>
    Nat.ne_of_lt (follows.below registration member)
  refine ⟨after, computed, holds, ?_, ?_, ?_, ?_, ?_, ?_, ?_⟩
  · exact nodup_concat follows.names below
  · intro registration member
    rw [next]
    rcases List.mem_append.mp member with old | new
    · exact Nat.lt_succ_of_lt (follows.below registration old)
    · rw [List.mem_singleton.mp new]
      exact Nat.lt_succ_self _
  · exact nodup_concat follows.distinct fun entry member => below _ (follows.known entry member)
  · exact nodup_concat follows.descriptors fun entry member same => fresh entry member (beq_iff_eq.mpr same)
  · intro entry member
    rcases List.mem_append.mp member with old | new
    · exact List.mem_append_left _ (follows.known entry old)
    · rw [List.mem_singleton.mp new]
      exact List.mem_append_right _ (List.mem_singleton_self _)
  · show registry.current ++ [_] = _
    rw [follows.current, List.filter_append, List.map_append]
    rfl
  · rw [same.stage]
    exact follows.placed.append _

theorem Follows.removeFd (follows : Follows loop registry entries) (fd : Int) :
    ∃ after found, loop.removeFd fd = .ok (after, found) ∧
      Follows after { registry with current := registry.current.filter fun registration => registration.fd != fd }
        (entries.map (Entry.mark fd)) := by
  obtain ⟨after, found, computed, holds, same, next⟩ := follows.holds.removeFd fd
  rw [markFirst_distinct fd follows.descriptors] at holds
  refine ⟨after, found, computed, holds, follows.names, ?_, ?_, ?_, ?_, ?_, ?_⟩
  · rw [next]
    exact follows.below
  · rw [List.map_map]
    exact follows.distinct
  · rw [List.map_map]
    exact follows.descriptors
  · intro entry member
    obtain ⟨old, there, rfl⟩ := List.mem_map.mp member
    exact follows.known old there
  · rw [kept_mark, ← follows.current]
  · rw [same.stage]
    exact follows.placed.map fun _ => rfl

theorem placed_first (entries : List (Entry Callback Data)) :
    Placed entries (.dispatching 0 (entries.head?.map fun entry => entry.1.id)) := by
  intro id same
  rw [← List.head?_eq_getElem?]
  exact same

theorem Follows.poll (follows : Follows loop registry entries) (ready : Option (Int → BitVec 16 → BitVec 16)) :
    ∃ entries, Follows (loop.poll ready) (register registry loop (.poll ready)) entries := by
  have first : loop.fdEvents.head?.map FdEvent.id = entries.head?.map fun entry => entry.1.id := by
    rw [← List.head?_map, follows.holds.names, List.head?_map]
  cases ready with
  | none =>
      refine ⟨entries, follows.move ⟨rfl, rfl, rfl, rfl, Nat.le_refl _⟩ ?_⟩
      show Placed entries (.dispatching 0 (loop.fdEvents.head?.map FdEvent.id))
      rw [first]
      exact placed_first entries
  | some ready =>
      refine ⟨entries.map (Entry.store ready), follows.holds.poll ready, ?_, ?_, ?_, ?_, ?_, ?_, ?_⟩
      · show ((registry.added.map _).map _).Nodup
        rw [List.map_map]
        exact follows.names
      · intro registration member
        obtain ⟨old, there, rfl⟩ := List.mem_map.mp member
        exact follows.below old there
      · rw [List.map_map]
        exact follows.distinct
      · rw [List.map_map]
        exact follows.descriptors
      · intro entry member
        obtain ⟨old, there, rfl⟩ := List.mem_map.mp member
        exact List.mem_map_of_mem (follows.known old there)
      · rw [kept_store, ← follows.current]
        rfl
      · show Placed _ (.dispatching 0 (loop.fdEvents.head?.map FdEvent.id))
        rw [first]
        exact (placed_first entries).map fun _ => rfl

theorem Follows.turn (follows : Follows loop registry entries) {fault : Fault} (other : fault ≠ .timer) :
    Delivers fault loop.turn fun after => ∃ entries, Follows after registry entries := by
  unfold LoopState.turn
  cases here : loop.stage with
  | dispatching fdIndex event =>
      cases event with
      | some id =>
          obtain ⟨stage, computed, placed, _⟩ := follows.dispatch here
          show Delivers fault (loop.dispatch fdIndex id) _
          rw [computed]
          exact ⟨entries, follows.move ⟨rfl, rfl, rfl, rfl, Nat.le_refl _⟩ placed⟩
      | none =>
          obtain ⟨swept, computed, _, next, holds⟩ := follows.sweep
          show Delivers fault (loop.sweep >>= fun loop => pure loop.beginTimers) _
          rw [computed]
          refine ⟨_, follows.swept holds next ?_⟩
          cases swept.timers.isEmpty <;> trivial
  | expiring now timer =>
      cases timer with
      | some id =>
          exact (expire_delivers other loop now id).weaken fun after kept =>
            ⟨entries, follows.move kept.1 (placed_amongTimers kept.2 entries)⟩
      | none => exact ⟨entries, follows.move ⟨rfl, rfl, rfl, rfl, Nat.le_refl _⟩ trivial⟩
  | outside | calling | ringing => exact ⟨entries, follows⟩

theorem Follows.resume (follows : Follows loop registry entries) {fault : Fault} (other : fault ≠ .timer) :
    Delivers fault loop.resume fun after => ∃ entries, Follows after registry entries := by
  unfold LoopState.resume
  cases here : loop.stage with
  | calling fdIndex event invocation =>
      have placed := follows.placed
      rw [here] at placed
      exact ⟨entries, follows.move ⟨rfl, rfl, rfl, rfl, Nat.le_refl _⟩ placed⟩
  | ringing now id timer =>
      refine (freeTimer_delivers other loop id).bind fun after same => ⟨entries, follows.move ?_ trivial⟩
      exact ⟨same.events, same.slots, same.length, same.capacity, same.next⟩
  | outside | dispatching | expiring => exact ⟨entries, follows⟩

theorem Follows.step (follows : Follows loop registry entries) {fault : Fault} (other : fault ≠ .timer)
    (event : LoopEvent Callback Data) (fresh : newDescriptor loop event = true) :
    Delivers fault (handleLoop loop event) fun after => ∃ entries, Follows after (register registry loop event) entries := by
  cases event with
  | addFd fd mask callback data =>
      obtain ⟨after, computed, followed⟩ := follows.addFd ((Bool.not_eq_true' _).mp fresh) mask callback data
      show Delivers fault (loop.addFd fd mask callback data) _
      rw [computed]
      exact ⟨_, followed⟩
  | removeFd fd =>
      obtain ⟨after, found, computed, followed⟩ := follows.removeFd fd
      show Delivers fault (loop.removeFd fd >>= fun result => pure result.1) _
      rw [computed]
      exact ⟨_, followed⟩
  | poll ready => exact follows.poll ready
  | turn => exact follows.turn other
  | resume => exact follows.resume other
  | passes clock => exact ⟨entries, follows.move ⟨rfl, rfl, rfl, rfl, Nat.le_refl _⟩ follows.placed⟩
  | addTimer ms callback data => exact ⟨entries, follows.move ⟨rfl, rfl, rfl, rfl, Nat.le_succ _⟩ follows.placed⟩
  | removeTimer id => exact ⟨entries, follows.move ⟨rfl, rfl, rfl, rfl, Nat.le_refl _⟩ follows.placed⟩

theorem follows_create (clock : Timespec) : Follows (.create clock : LoopState Callback Data) ⟨[], []⟩ [] where
  holds := ⟨rfl, ⟨List.replicate 10 none, rfl⟩, rfl, rfl⟩
  names := List.nodup_nil
  below := nofun
  distinct := List.nodup_nil
  descriptors := List.nodup_nil
  known := nofun
  current := rfl
  placed := trivial

/-- In every run that registers new descriptors only, the loop follows the registry. -/
theorem follows_of_reachable
    (reachable : (((polling Callback Data).machine.guarded newDescriptor).observed ⟨[], []⟩ register).Reachable
      (loop, registry)) : ∃ entries, Follows loop registry entries := by
  refine reachable.invariant (fun pair => ∃ entries, Follows pair.1 pair.2 entries) ?_ ?_
  · rintro ⟨loop, registry⟩ ⟨⟨clock, rfl⟩, rfl⟩
    exact ⟨[], follows_create clock⟩
  · rintro ⟨loop, registry⟩ event ⟨after, later⟩ ⟨entries, follows⟩ ⟨⟨⟨_, computed⟩, fresh⟩, rfl⟩
    exact (follows.step (by decide : Fault.slot ≠ .timer) event fresh).ensures after computed

theorem Follows.calls (follows : Follows loop registry entries) (turned : loop.turn = .ok after)
    (walking : loop.attended = false) {fdIndex : Nat} {event : Option NodeId} {invocation : Invocation Callback Data}
    (called : after.stage = .calling fdIndex event invocation) :
    ∃ registration ∈ registry.current, invocation = registration.invocation := by
  unfold LoopState.turn at turned
  unfold LoopState.attended at walking
  cases here : loop.stage with
  | dispatching fdIndex event =>
      rw [here] at turned
      cases event with
      | some id =>
          obtain ⟨stage, computed, _, known⟩ := follows.dispatch here
          cases computed.symm.trans turned
          exact known _ _ _ called
      | none =>
          obtain ⟨swept, _, ⟨⟩⟩ := bind_ok.mp turned
          dsimp only [LoopState.beginTimers] at called
          split at called <;> cases called
  | expiring now timer =>
      rw [here] at turned
      cases timer with
      | some id =>
          have timers := ((expire_delivers (by decide : Fault.slot ≠ .timer) loop now id).ensures after turned).2
          rw [called] at timers
          cases timers
      | none =>
          cases turned
          cases called
  | outside | calling | ringing =>
      rw [here] at walking
      cases walking

end Steps

/-- In every run in which a descriptor is registered only while there is no entry for it, the events and the slots are
parallel, a turn of the loop calls back only for a registration that is current and with what belongs to it, the sweep
leaves exactly the current registrations in the order in which they were added, and no slot or event is used that is not
there. -/
theorem registrations_followed {loop : LoopState Callback Data} {registry : Registry Callback Data}
    (reachable : (((polling Callback Data).machine.guarded newDescriptor).observed ⟨[], []⟩ register).Reachable
      (loop, registry)) :
    (Parallel loop registry.added ∧ (registry.added.map Registration.id).Nodup) ∧
    (∀ after fdIndex event invocation, loop.attended = false → handleLoop loop .turn = .ok after →
      after.stage = .calling fdIndex event invocation →
        ∃ registration ∈ registry.current, invocation = registration.invocation) ∧
    (∀ fdIndex, loop.stage = .dispatching fdIndex none → ∃ swept, loop.sweep = .ok swept ∧
      handleLoop loop .turn = .ok swept.beginTimers ∧ Lists swept registry.current) ∧
    ∀ event, newDescriptor loop event = true →
      handleLoop loop event ≠ .error .slot ∧ handleLoop loop event ≠ .error .event := by
  obtain ⟨entries, follows⟩ := follows_of_reachable reachable
  refine ⟨⟨follows.holds.parallel follows.known, follows.names⟩, ?_, ?_, ?_⟩
  · intro after fdIndex event invocation walking turned called
    exact follows.calls turned walking called
  · intro fdIndex here
    obtain ⟨swept, computed, lists, _⟩ := follows.sweep
    refine ⟨swept, computed, ?_, lists⟩
    show loop.turn = _
    unfold LoopState.turn
    rw [here]
    show (loop.sweep >>= fun loop => pure loop.beginTimers) = _
    rw [computed]
    rfl
  · intro event fresh
    exact ⟨(follows.step (by decide) event fresh).safe, (follows.step (by decide) event fresh).safe⟩

/-- The callback of the first descriptor removes the second one and adds a third one, which the same walk still reaches. -/
def exchangeEvents : List (LoopEvent Unit Nat) :=
  [.addFd 3 1 () 30, .addFd 4 1 () 40, .poll (some fun _ _ => 1), .turn, .removeFd 4, .addFd 5 1 () 50, .resume, .turn,
    .turn]

/-- A walk is at its end, and two of the three registrations that were added are current. -/
def walked (pair : LoopState Unit Nat × Registry Unit Nat) : Bool :=
  (match pair.1.stage with
    | .dispatching 3 none => true
    | _ => false) && (pair.2.current.map Registration.fd == [3, 5]) && pair.1.fdLength == 3

/-- The sweep behind the walk leaves the two current registrations. -/
theorem exchange_swept : ∃ loop : LoopState Unit Nat, ∃ registry : Registry Unit Nat,
    registry.current.map Registration.fd = [3, 5] ∧ loop.fdLength = 3 ∧ ∃ swept, loop.sweep = .ok swept ∧ Lists swept registry.current := by
  obtain ⟨⟨loop, registry⟩, reachable, passed⟩ :=
    (polling Unit Nat).play_guarded_observed newDescriptor ⟨[], []⟩ register exchangeEvents walked
      (⟨⟨0, 0⟩, rfl⟩ : (polling Unit Nat).initial (.create ⟨0, 0⟩))
      (by decide +kernel : ((((polling Unit Nat).guarded newDescriptor).observed _ _).play _ _).any _ = true)
  simp only [walked, Bool.and_eq_true, beq_iff_eq] at passed
  obtain ⟨⟨here, current⟩, length⟩ := passed
  split at here
  · rename_i stage
    obtain ⟨swept, computed, _, lists⟩ := (registrations_followed reachable).2.2.1 3 stage
    exact ⟨loop, registry, current, length, swept, computed, lists⟩
  · cases here

end SwaylockPlugin.EventLoop
