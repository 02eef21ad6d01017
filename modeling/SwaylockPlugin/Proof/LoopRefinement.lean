import SwaylockPlugin.Proof.LoopTimers
import SwaylockPlugin.Proof.Readiness
import SwaylockPlugin.Proof.Timers

namespace SwaylockPlugin.EventLoop

open Library

/-- A mirror is a loop of the program together with the names that it gave to the timers. -/
structure Mirror (FdCallback TimerCallback : Type) where
  loop : Loop FdCallback TimerCallback
  name : NodeId → Option TimerId

variable {Callback Data FdCallback TimerCallback : Type}

namespace Mirror

/-- A new mirror has named no timer. -/
def blank : Mirror FdCallback TimerCallback := ⟨.create, fun _ => none⟩

/-- The mirror changes under the name that it gave to a timer. -/
def named (mirror : Mirror FdCallback TimerCallback) (id : NodeId)
    (change : Loop FdCallback TimerCallback → TimerId → Loop FdCallback TimerCallback) :
    Mirror FdCallback TimerCallback :=
  { mirror with loop := ((mirror.name id).map (change mirror.loop)).getD mirror.loop }

/-- The mirror does with the loop of the program what is done with the event loop, whose callbacks it knows as its own. -/
def reflect (asFd : Callback → Data → FdCallback) (asTimer : Callback → Data → TimerCallback)
    (mirror : Mirror FdCallback TimerCallback) (loop : LoopState Callback Data) :
    LoopEvent Callback Data → Mirror FdCallback TimerCallback
  | .addFd fd _ callback data => { mirror with loop := mirror.loop.addFd fd (asFd callback data) }
  | .removeFd fd => { mirror with loop := mirror.loop.removeFd fd }
  | .addTimer ms callback data =>
      ⟨mirror.loop.addTimer loop.clock ms (asTimer callback data),
        Function.update mirror.name loop.next (some mirror.loop.nextTimer)⟩
  | .removeTimer id => mirror.named id Loop.removeTimer
  | .turn =>
      match loop.stage with
      | .dispatching _ none => { mirror with loop := mirror.loop.sweep }
      | _ => mirror
  | .resume =>
      match loop.stage with
      | .ringing _ id _ => mirror.named id Loop.freeTimer
      | _ => mirror
  | .passes _ | .poll _ => mirror

/-- The timers of a mirror that were not removed are live. -/
def live (mirror : Mirror FdCallback TimerCallback) : List (LoopTimer TimerCallback) :=
  mirror.loop.timers.filter fun timer => !timer.removed

end Mirror

/-- The timers of a loop that were not removed are live. -/
def LoopState.live (loop : LoopState Callback Data) : List (Timer Callback Data) :=
  loop.timers.filter fun timer => !timer.removed

/-- A live timer of the loop appears under its name with its callback and its expiry. -/
def Timer.appears (asTimer : Callback → Data → TimerCallback) (name : NodeId → Option TimerId)
    (timer : Timer Callback Data) : Option TimerId × TimerCallback × Timespec :=
  (name timer.id, asTimer timer.callback timer.data, timer.expiry)

/-- A timer of the mirror shows its name, its callback and its expiry. -/
def shown (timer : LoopTimer TimerCallback) : Option TimerId × TimerCallback × Timespec :=
  (some timer.id, timer.callback, timer.expiry)

/-- The live timers of the loop appear in the mirror in the same order, and no name is given to two timers. -/
structure Resembles (asTimer : Callback → Data → TimerCallback) (loop : LoopState Callback Data)
    (mirror : Mirror FdCallback TimerCallback) : Prop where
  live : mirror.live.map shown = loop.live.map (Timer.appears asTimer mirror.name)
  timed : mirror.loop.WellTimed
  named : ∀ id name, mirror.name id = some name → id < loop.next ∧ name < mirror.loop.nextTimer
  injective : ∀ one two name, mirror.name one = some name → mirror.name two = some name → one = two

section Timers

variable {asTimer : Callback → Data → TimerCallback} {loop after : LoopState Callback Data}
  {mirror : Mirror FdCallback TimerCallback}

theorem live_removeTimer (distinct : loop.names.Nodup) (id : NodeId) :
    (loop.removeTimer id).live = unlink Timer.id loop.live id :=
  filter_mark rfl (fun _ _ => rfl) (fun _ => rfl) distinct

theorem live_freed (distinct : loop.names.Nodup) {timer : Timer Callback Data} (member : timer ∈ loop.timers)
    (removed : timer.removed = true) : unlink Timer.id loop.live timer.id = loop.live := by
  refine List.filter_eq_self.mpr fun other among => bne_iff_ne.mpr fun same => ?_
  obtain ⟨there, kept⟩ := List.mem_filter.mp among
  rw [List.inj_on_of_nodup_map distinct there member same, removed] at kept
  cases kept

namespace Resembles

theorem found (resembles : Resembles asTimer loop mirror) {timer : Timer Callback Data} (member : timer ∈ loop.live) :
    ∃ mirrored ∈ mirror.live, shown mirrored = timer.appears asTimer mirror.name := by
  have among : timer.appears asTimer mirror.name ∈ mirror.live.map shown := by
    rw [resembles.live]
    exact List.mem_map_of_mem member
  exact List.mem_map.mp among

theorem apart (resembles : Resembles asTimer loop mirror) (timers : after.live = loop.live) (next : loop.next ≤ after.next)
    (fds : List Int) (fdEvents : List (LoopFdEvent FdCallback)) :
    Resembles asTimer after { mirror with loop := { mirror.loop with fds := fds, fdEvents := fdEvents } } where
  live := by
    rw [timers]
    exact resembles.live
  timed := ⟨resembles.timed.below, resembles.timed.nodup⟩
  named id name given := ⟨Nat.lt_of_lt_of_le (resembles.named id name given).1 next, (resembles.named id name given).2⟩
  injective := resembles.injective

theorem same (resembles : Resembles asTimer loop mirror) (timers : after.live = loop.live)
    (next : loop.next ≤ after.next) : Resembles asTimer after mirror :=
  resembles.apart timers next mirror.loop.fds mirror.loop.fdEvents

theorem unlinks (resembles : Resembles asTimer loop mirror) {id : NodeId} {name : TimerId}
    (given : mirror.name id = some name) : (unlink LoopTimer.id mirror.live name).map shown =
      (unlink Timer.id loop.live id).map (Timer.appears asTimer mirror.name) := by
  have left : (fun timer : LoopTimer TimerCallback => timer.id != name) =
      (fun shown : Option TimerId × TimerCallback × Timespec => shown.1 != some name) ∘ shown := by
    funext timer
    exact Bool.eq_iff_iff.mpr (by simp [shown])
  have right : (fun timer : Timer Callback Data => timer.id != id) =
      (fun shown : Option TimerId × TimerCallback × Timespec => shown.1 != some name) ∘
        Timer.appears asTimer mirror.name := by
    funext timer
    refine Bool.eq_iff_iff.mpr ?_
    rw [Function.comp_apply, bne_iff_ne, bne_iff_ne]
    refine not_congr ⟨?_, fun same => resembles.injective _ _ name same given⟩
    rintro rfl
    exact given
  unfold unlink
  rw [left, right, ← List.filter_map, ← List.filter_map, resembles.live]

theorem unlink_unnamed (resembles : Resembles asTimer loop mirror) {id : NodeId} (unnamed : mirror.name id = none) :
    unlink Timer.id loop.live id = loop.live := by
  refine List.filter_eq_self.mpr fun timer member => bne_iff_ne.mpr ?_
  rintro rfl
  obtain ⟨mirrored, _, same⟩ := resembles.found member
  have name : some mirrored.id = mirror.name timer.id := congrArg Prod.fst same
  rw [unnamed] at name
  cases name

theorem leaves (resembles : Resembles asTimer loop mirror) {id : NodeId}
    {change : Loop FdCallback TimerCallback → TimerId → Loop FdCallback TimerCallback}
    (timers : after.live = unlink Timer.id loop.live id) (next : after.next = loop.next)
    (gone : ∀ name, (change mirror.loop name).timers.filter (fun timer => !timer.removed) =
      unlink LoopTimer.id mirror.live name)
    (timed : ∀ name, (change mirror.loop name).WellTimed)
    (kept : ∀ name, (change mirror.loop name).nextTimer = mirror.loop.nextTimer) :
    Resembles asTimer after (mirror.named id change) := by
  unfold Mirror.named
  cases given : mirror.name id with
  | none => exact resembles.same (timers.trans (resembles.unlink_unnamed given)) (Nat.le_of_eq next.symm)
  | some name =>
      refine ⟨?_, timed name, ?_, resembles.injective⟩
      · rw [timers]
        exact (congrArg (List.map shown) (gone name)).trans (resembles.unlinks given)
      · intro other used taken
        rw [next]
        exact (kept name).symm ▸ resembles.named other used taken

theorem removeTimer (resembles : Resembles asTimer loop mirror) (distinct : loop.names.Nodup) (id : NodeId) :
    Resembles asTimer (loop.removeTimer id) (mirror.named id Loop.removeTimer) :=
  resembles.leaves (live_removeTimer distinct id) rfl
    (fun _ => filter_mark rfl (fun _ _ => rfl) (fun _ => rfl) resembles.timed.nodup)
    (fun name => resembles.timed.removeTimer name) fun _ => rfl

theorem freeTimer (resembles : Resembles asTimer loop mirror) (id : NodeId) (stage : Stage Callback Data) :
    Resembles asTimer { loop with timers := unlink Timer.id loop.timers id, stage := stage }
      (mirror.named id Loop.freeTimer) :=
  resembles.leaves (filter_unlink _ loop.timers id) rfl (fun name => filter_unlink _ mirror.loop.timers name)
    (fun _ => resembles.timed.filter _) fun _ => rfl

theorem sweep (resembles : Resembles asTimer loop mirror) :
    Resembles asTimer loop { mirror with loop := mirror.loop.sweep } where
  live := by
    refine Eq.trans (congrArg (List.map shown) ?_) resembles.live
    show (mirror.loop.timers.filter _).filter _ = mirror.loop.timers.filter _
    rw [List.filter_filter]
    simp only [Bool.and_self]
  timed := ⟨fun timer member => resembles.timed.below timer (List.mem_of_mem_filter member),
    resembles.timed.nodup.sublist (List.filter_sublist.map _)⟩
  named := resembles.named
  injective := resembles.injective

theorem addTimer (resembles : Resembles asTimer loop mirror) (below : ∀ id ∈ loop.names, id < loop.next) (ms : Int)
    (callback : Callback) (data : Data) :
    Resembles asTimer (loop.addTimer ms callback data)
      ⟨mirror.loop.addTimer loop.clock ms (asTimer callback data),
        Function.update mirror.name loop.next (some mirror.loop.nextTimer)⟩ where
  live := by
    show shown _ :: mirror.live.map shown = Timer.appears asTimer _ _ :: loop.live.map _
    rw [resembles.live]
    congr 1
    · exact Prod.ext (Function.update_self loop.next (some mirror.loop.nextTimer) mirror.name).symm rfl
    · refine List.map_congr_left fun timer member => ?_
      have other : timer.id ≠ loop.next :=
        Nat.ne_of_lt (below _ (List.mem_map_of_mem (List.mem_filter.mp member).1))
      exact Prod.ext (Function.update_of_ne other _ mirror.name).symm rfl
  timed := resembles.timed.addTimer _ ms _
  named id name given := by
    dsimp only at given
    by_cases new : id = loop.next
    · subst new
      rw [Function.update_self] at given
      cases given
      exact ⟨Nat.lt_succ_self _, Nat.lt_succ_self _⟩
    · rw [Function.update_of_ne new] at given
      obtain ⟨old, used⟩ := resembles.named id name given
      exact ⟨Nat.lt_succ_of_lt old, Nat.lt_succ_of_lt used⟩
  injective one two name first second := by
    dsimp only at first second
    by_cases new : one = loop.next <;> by_cases last : two = loop.next
    · rw [new, last]
    · rw [new, Function.update_self] at first
      cases first
      rw [Function.update_of_ne last] at second
      exact absurd (resembles.named two _ second).2 (Nat.lt_irrefl _)
    · rw [last, Function.update_self] at second
      cases second
      rw [Function.update_of_ne new] at first
      exact absurd (resembles.named one _ first).2 (Nat.lt_irrefl _)
    · rw [Function.update_of_ne new] at first
      rw [Function.update_of_ne last] at second
      exact resembles.injective one two name first second

theorem due (resembles : Resembles asTimer loop mirror) {timer : Timer Callback Data} (member : timer ∈ loop.live)
    (expired : timer.expiry.before loop.clock = true) : ∃ name, mirror.name timer.id = some name ∧
      mirror.loop.due loop.clock name = some (asTimer timer.callback timer.data) := by
  obtain ⟨mirrored, there, same⟩ := resembles.found member
  obtain ⟨inside, kept⟩ := List.mem_filter.mp there
  obtain ⟨name, rest⟩ := Prod.mk.inj same
  obtain ⟨callback, expiry⟩ := Prod.mk.inj rest
  refine ⟨mirrored.id, name.symm, ?_⟩
  have passes : (mirrored.id == mirrored.id && !mirrored.removed && mirrored.expiry.before loop.clock) = true := by
    rw [beq_self_eq_true, kept, expiry, expired]
    rfl
  have some_ : (mirror.loop.timers.find? fun other =>
      other.id == mirrored.id && !other.removed && other.expiry.before loop.clock).isSome = true :=
    List.find?_isSome.mpr ⟨mirrored, inside, passes⟩
  obtain ⟨other, chosen⟩ := Option.isSome_iff_exists.mp some_
  have test := List.find?_some chosen
  rw [Bool.and_eq_true, Bool.and_eq_true, beq_iff_eq] at test
  have equal : other = mirrored :=
    List.inj_on_of_nodup_map resembles.timed.nodup (List.mem_of_find?_eq_some chosen) inside test.1.1
  rw [Loop.due, chosen, equal, ← callback]
  rfl

end Resembles

end Timers

section Descriptors

variable {asFd : Callback → Data → FdCallback} {entries : List (Entry Callback Data)}
  {program : Loop FdCallback TimerCallback}

/-- An entry is mirrored with its callback and its mark. -/
def Entry.mirrored (asFd : Callback → Data → FdCallback) (entry : Entry Callback Data) : LoopFdEvent FdCallback :=
  ⟨asFd entry.1.callback entry.1.data, entry.2⟩

/-- The loop of the program lists the descriptors of entries with their callbacks. -/
structure Pictures (asFd : Callback → Data → FdCallback) (entries : List (Entry Callback Data))
    (program : Loop FdCallback TimerCallback) : Prop where
  fds : program.fds = entries.map fun entry => entry.1.fd
  fdEvents : program.fdEvents = entries.map (Entry.mirrored asFd)

namespace Pictures

theorem addFd (pictures : Pictures asFd entries program) (registration : Registration Callback Data) :
    Pictures asFd (entries ++ [(registration, false)])
      (program.addFd registration.fd (asFd registration.callback registration.data)) where
  fds := by
    rw [List.map_append, ← pictures.fds]
    rfl
  fdEvents := by
    rw [List.map_append, ← pictures.fdEvents]
    rfl

theorem markFd (asFd : Callback → Data → FdCallback) (fd : Int) (entries : List (Entry Callback Data)) :
    Loop.markFd fd (entries.map fun entry => entry.1.fd) (entries.map (Entry.mirrored asFd)) =
      (markFirst fd entries).map (Entry.mirrored asFd) := by
  induction entries with
  | nil => rfl
  | cons entry entries ih =>
      rw [List.map_cons, List.map_cons, Loop.markFd, markFirst, ih]
      split <;> rfl

theorem removeFd (pictures : Pictures asFd entries program) (fd : Int) :
    Pictures asFd (markFirst fd entries) (program.removeFd fd) where
  fds := by
    have fds := congrArg (List.map Registration.fd) (markFirst_registrations fd entries)
    rw [List.map_map, List.map_map] at fds
    exact pictures.fds.trans fds.symm
  fdEvents := by
    show Loop.markFd fd program.fds program.fdEvents = _
    rw [pictures.fds, pictures.fdEvents, markFd]

theorem store (pictures : Pictures asFd entries program) (ready : Int → BitVec 16 → BitVec 16) :
    Pictures asFd (entries.map (Entry.store ready)) program where
  fds := by
    rw [List.map_map]
    exact pictures.fds
  fdEvents := by
    rw [List.map_map]
    exact pictures.fdEvents

theorem sweepFds (asFd : Callback → Data → FdCallback) (entries : List (Entry Callback Data)) :
    Loop.sweepFds (entries.map fun entry => entry.1.fd) (entries.map (Entry.mirrored asFd)) =
      ((entries.filter Entry.kept).map fun entry => entry.1.fd, (entries.filter Entry.kept).map (Entry.mirrored asFd)) := by
  induction entries with
  | nil => rfl
  | cons entry entries ih =>
      obtain ⟨registration, mark⟩ := entry
      rw [List.map_cons, List.map_cons, Loop.sweepFds, ih]
      cases mark <;> rfl

theorem sweep (pictures : Pictures asFd entries program) : Pictures asFd (entries.filter Entry.kept) program.sweep where
  fds := by
    show (Loop.sweepFds program.fds program.fdEvents).1 = _
    rw [pictures.fds, pictures.fdEvents, sweepFds]
  fdEvents := by
    show (Loop.sweepFds program.fds program.fdEvents).2 = _
    rw [pictures.fds, pictures.fdEvents, sweepFds]

theorem watches [DecidableEq FdCallback] (pictures : Pictures asFd entries program) {entry : Entry Callback Data}
    (member : entry ∈ entries) (kept : entry.2 = false) :
    program.watches entry.1.fd (asFd entry.1.callback entry.1.data) = true := by
  rw [Loop.watches, pictures.fds, pictures.fdEvents, List.zip_map', List.any_map]
  refine List.any_eq_true.mpr ⟨entry, member, ?_⟩
  rw [Function.comp_apply, Entry.mirrored, kept, beq_self_eq_true, beq_self_eq_true]
  rfl

end Pictures

end Descriptors

/-- A loop is mirrored when the loop of the program lists its descriptors and its live timers. -/
structure Mirrors (asFd : Callback → Data → FdCallback) (asTimer : Callback → Data → TimerCallback)
    (loop : LoopState Callback Data) (mirror : Mirror FdCallback TimerCallback) (entries : List (Entry Callback Data)) :
    Prop where
  tracks : Tracks loop entries
  pictures : Pictures asFd entries mirror.loop
  noted : ∃ notes, Noted loop notes
  resembles : Resembles asTimer loop mirror

section Steps

variable {asFd : Callback → Data → FdCallback} {asTimer : Callback → Data → TimerCallback}
  {loop after : LoopState Callback Data} {mirror : Mirror FdCallback TimerCallback} {entries : List (Entry Callback Data)}

theorem Mirrors.names (mirrors : Mirrors asFd asTimer loop mirror entries) :
    loop.names.Nodup ∧ ∀ id ∈ loop.names, id < loop.next := by
  obtain ⟨notes, noted⟩ := mirrors.noted
  exact ⟨noted.distinct, noted.below⟩

theorem Mirrors.expire (mirrors : Mirrors asFd asTimer loop mirror entries) {now : Timespec} {id : NodeId}
    (here : loop.stage = .expiring now (some id)) : Ensures (loop.expire now id) fun after => after.live = loop.live ∧
      ∀ other, after.stage.rings other = true →
        ∃ timer ∈ loop.live, timer.id = other ∧ timer.expiry.before loop.clock = true := by
  obtain ⟨notes, noted⟩ := mirrors.noted
  have walks := noted.walks
  rw [here] at walks
  obtain ⟨read, known⟩ := walks
  obtain ⟨timer, member, rfl, found⟩ := noted.reached (known id rfl)
  rw [LoopState.expire, found]
  by_cases removed : timer.removed = true
  · rw [noted.freeTimer (known timer.id rfl)]
    show Ensures (if timer.removed = true then _ else _) _
    rw [if_pos removed]
    refine .pure ⟨(filter_unlink _ loop.timers timer.id).trans (live_freed noted.distinct member removed), ?_⟩
    exact fun _ rings => absurd rings Bool.false_ne_true
  · show Ensures (if timer.removed = true then _ else if timer.expiry.before now = true then _ else _) _
    rw [if_neg removed]
    by_cases expired : timer.expiry.before now = true
    · rw [if_pos expired]
      refine .pure ⟨rfl, fun other rings => ⟨timer, List.mem_filter.mpr ⟨member, ?_⟩, eq_of_beq rings, ?_⟩⟩
      · rw [Bool.eq_false_iff.mpr removed]
        rfl
      · exact before_past expired read
    · rw [if_neg expired]
      exact .pure ⟨rfl, fun _ rings => absurd rings Bool.false_ne_true⟩

/-- A loop is shown by a mirror when the descriptors and the timers are, whatever was noted of the timers. -/
def Shown (asFd : Callback → Data → FdCallback) (asTimer : Callback → Data → TimerCallback)
    (loop : LoopState Callback Data) (mirror : Mirror FdCallback TimerCallback) : Prop :=
  ∃ entries, Tracks loop entries ∧ Pictures asFd entries mirror.loop ∧ Resembles asTimer loop mirror

theorem Mirrors.turn (mirrors : Mirrors asFd asTimer loop mirror entries) (walking : loop.attended = false) :
    Ensures loop.turn fun after => Shown asFd asTimer after (mirror.reflect asFd asTimer loop .turn) := by
  intro after computed
  have tracks := mirrors.tracks
  unfold LoopState.attended at walking
  unfold Mirror.reflect
  cases here : loop.stage with
  | dispatching fdIndex event =>
      cases event with
      | some id =>
          obtain ⟨entry, found, turned⟩ := tracks.dispatch here
          cases turned.symm.trans computed
          refine ⟨entries, tracks.move ⟨rfl, rfl, rfl, rfl, Nat.le_refl _⟩ (placed_dispatched entry _), mirrors.pictures, ?_⟩
          exact mirrors.resembles.same rfl (Nat.le_refl _)
      | none =>
          obtain ⟨swept, turned, kept, _, timers, next⟩ := tracks.sweep here
          cases turned.symm.trans computed
          have live : after.live = loop.live := congrArg (List.filter _) timers
          exact ⟨_, kept, mirrors.pictures.sweep, mirrors.resembles.sweep.same live (Nat.le_of_eq next.symm)⟩
  | expiring now timer =>
      unfold LoopState.turn at computed
      rw [here] at computed
      cases timer with
      | some id =>
          obtain ⟨same, timers⟩ := (expire_delivers (by decide : Fault.slot ≠ .timer) loop now id).ensures after computed
          obtain ⟨live, _⟩ := mirrors.expire here after computed
          exact ⟨entries, tracks.move same (placed_amongTimers timers entries), mirrors.pictures,
            mirrors.resembles.same live same.next⟩
      | none =>
          cases computed
          exact ⟨entries, tracks.move ⟨rfl, rfl, rfl, rfl, Nat.le_refl _⟩ trivial, mirrors.pictures,
            mirrors.resembles.same rfl (Nat.le_refl _)⟩
  | outside | calling | ringing =>
      rw [here] at walking
      cases walking

theorem Mirrors.resume (mirrors : Mirrors asFd asTimer loop mirror entries) :
    Ensures loop.resume fun after => Shown asFd asTimer after (mirror.reflect asFd asTimer loop .resume) := by
  have tracks := mirrors.tracks
  unfold LoopState.resume Mirror.reflect
  cases here : loop.stage with
  | calling fdIndex event invocation =>
      have placed := tracks.placed
      rw [here] at placed
      exact .pure ⟨entries, tracks.move ⟨rfl, rfl, rfl, rfl, Nat.le_refl _⟩ placed, mirrors.pictures,
        mirrors.resembles.same rfl (Nat.le_refl _)⟩
  | ringing now id timer =>
      obtain ⟨notes, noted⟩ := mirrors.noted
      have walks := noted.walks
      rw [here] at walks
      show Ensures (loop.freeTimer id >>= _) _
      rw [noted.freeTimer walks.2.1]
      refine .pure ⟨entries, tracks.move ⟨rfl, rfl, rfl, rfl, Nat.le_refl _⟩ trivial, ?_, mirrors.resembles.freeTimer id _⟩
      show Pictures asFd entries (((mirror.name id).map _).getD mirror.loop)
      cases mirror.name id with
      | none => exact mirrors.pictures
      | some name => exact ⟨mirrors.pictures.fds, mirrors.pictures.fdEvents⟩
  | outside | dispatching | expiring => exact .pure ⟨entries, tracks, mirrors.pictures, mirrors.resembles⟩

theorem Mirrors.step (mirrors : Mirrors asFd asTimer loop mirror entries) (event : LoopEvent Callback Data)
    (allowed : loopEnabled loop event = true) :
    Ensures (handleLoop loop event) fun after => Shown asFd asTimer after (mirror.reflect asFd asTimer loop event) := by
  have tracks := mirrors.tracks
  have pictures := mirrors.pictures
  have resembles := mirrors.resembles
  cases event with
  | addFd fd mask callback data =>
      obtain ⟨after, computed, kept, same⟩ := tracks.adds fd mask callback data
      show Ensures (loop.addFd fd mask callback data) _
      rw [computed]
      refine .pure ⟨_, kept, pictures.addFd ⟨loop.next, fd, mask, callback, data, 0⟩, ?_⟩
      exact resembles.apart (congrArg (List.filter _) same.timers) same.next _ _
  | removeFd fd =>
      obtain ⟨after, found, computed, kept, same⟩ := tracks.removes fd
      show Ensures (loop.removeFd fd >>= fun result => pure result.1) _
      rw [computed]
      refine .pure ⟨_, kept, pictures.removeFd fd, ?_⟩
      exact resembles.apart (congrArg (List.filter _) same.timers) same.next _ _
  | addTimer ms callback data =>
      exact .pure ⟨entries, tracks.move ⟨rfl, rfl, rfl, rfl, Nat.le_succ _⟩ tracks.placed,
        ⟨pictures.fds, pictures.fdEvents⟩, resembles.addTimer mirrors.names.2 ms callback data⟩
  | removeTimer id =>
      refine .pure ⟨entries, tracks.move ⟨rfl, rfl, rfl, rfl, Nat.le_refl _⟩ tracks.placed, ?_,
        resembles.removeTimer mirrors.names.1 id⟩
      show Pictures asFd entries (((mirror.name id).map _).getD mirror.loop)
      cases mirror.name id with
      | none => exact pictures
      | some name => exact ⟨pictures.fds, pictures.fdEvents⟩
  | poll ready =>
      refine .pure ⟨_, tracks.polls ready, ?_, resembles.same rfl (Nat.le_refl _)⟩
      cases ready with
      | none => exact pictures
      | some ready => exact pictures.store ready
  | turn => exact mirrors.turn ((Bool.not_eq_true' _).mp allowed)
  | resume => exact mirrors.resume
  | passes clock =>
      exact .pure ⟨entries, tracks.move ⟨rfl, rfl, rfl, rfl, Nat.le_refl _⟩ tracks.placed, pictures,
        resembles.same rfl (Nat.le_refl _)⟩

theorem mirrors_of_reachable
    (reachable : ((polling Callback Data).machine.observed Mirror.blank (Mirror.reflect asFd asTimer)).Reachable
      (loop, mirror)) : ∃ entries, Mirrors asFd asTimer loop mirror entries := by
  refine reachable.invariant (fun pair => ∃ entries, Mirrors asFd asTimer pair.1 pair.2 entries) ?_ ?_
  · rintro ⟨loop, mirror⟩ ⟨⟨clock, rfl⟩, rfl⟩
    exact ⟨[], ⟨⟨rfl, ⟨List.replicate 10 none, rfl⟩, rfl, rfl⟩, List.nodup_nil, nofun, trivial⟩, ⟨rfl, rfl⟩,
      ⟨.none, noted_create clock⟩, ⟨rfl, Loop.create_wellTimed, nofun, nofun⟩⟩
  · rintro ⟨loop, mirror⟩ event ⟨after, later⟩ ⟨entries, mirrors⟩ ⟨⟨allowed, computed⟩, rfl⟩
    obtain ⟨notes, noted⟩ := mirrors.noted
    obtain ⟨entries, tracks, pictures, resembles⟩ := mirrors.step event allowed after computed
    exact ⟨entries, tracks, pictures, ⟨_, (noted.step event allowed).ensures after computed⟩, resembles⟩

theorem Mirrors.calls [DecidableEq FdCallback] (mirrors : Mirrors asFd asTimer loop mirror entries)
    (walking : loop.attended = false) (turned : loop.turn = .ok after) {fdIndex : Nat} {event : Option NodeId}
    {invocation : Invocation Callback Data} (called : after.stage = .calling fdIndex event invocation) :
    mirror.loop.watches invocation.fd (asFd invocation.callback invocation.data) = true := by
  unfold LoopState.attended at walking
  cases here : loop.stage with
  | dispatching index next =>
      cases next with
      | some id =>
          obtain ⟨entry, found, computed⟩ := mirrors.tracks.dispatch here
          cases computed.symm.trans turned
          dsimp only at called
          unfold Entry.dispatched at called
          split at called
          · rename_i asks
            cases called
            exact mirrors.pictures.watches (List.mem_of_getElem? found)
              ((Bool.not_eq_true' _).mp (Bool.and_eq_true_iff.mp asks).1)
          · cases called
      | none =>
          obtain ⟨swept, computed, _, left, _⟩ := mirrors.tracks.sweep here
          cases computed.symm.trans turned
          rw [called] at left
          cases left
  | expiring now timer =>
      unfold LoopState.turn at turned
      rw [here] at turned
      cases timer with
      | some id =>
          have timers := ((expire_delivers (by decide : Fault.slot ≠ .timer) loop now id).ensures after turned).2
          rw [called] at timers
          cases timers
      | none =>
          cases turned
          cases called
  | outside | calling | ringing =>
      rw [here] at walking
      cases walking

theorem Mirrors.rings (mirrors : Mirrors asFd asTimer loop mirror entries) (walking : loop.attended = false)
    (turned : loop.turn = .ok after) {id : NodeId} (rings : after.stage.rings id = true) :
    ∃ timer ∈ loop.timers, timer.id = id ∧ ∃ name, mirror.name id = some name ∧
      mirror.loop.due loop.clock name = some (asTimer timer.callback timer.data) := by
  unfold LoopState.attended at walking
  cases here : loop.stage with
  | dispatching index next =>
      cases next with
      | some other =>
          unfold LoopState.turn at turned
          rw [here] at turned
          obtain ⟨stage, rfl, _, silent⟩ := (dispatch_delivers loop index other).ensures after turned
          exact absurd rings (Bool.eq_false_iff.mp (silent id))
      | none =>
          unfold LoopState.turn at turned
          rw [here] at turned
          obtain ⟨swept, _, ⟨⟩⟩ := bind_ok.mp turned
          dsimp only [LoopState.beginTimers] at rings
          split at rings <;> cases rings
  | expiring now timer =>
      unfold LoopState.turn at turned
      rw [here] at turned
      cases timer with
      | some other =>
          obtain ⟨timer, member, rfl, expired⟩ := (mirrors.expire here after turned).2 id rings
          obtain ⟨name, given, due⟩ := mirrors.resembles.due member expired
          exact ⟨timer, (List.mem_filter.mp member).1, rfl, name, given, due⟩
      | none =>
          cases turned
          cases rings
  | outside | calling | ringing =>
      rw [here] at walking
      cases walking

/-- In every run of the event loop, whatever the program does in its callbacks, the loop of the program has the polled
descriptors, it watches each descriptor whose callback the event loop turns to, and each timer that rings is due there. -/
theorem program_loop_mirrors [DecidableEq FdCallback]
    (reachable : ((polling Callback Data).machine.observed Mirror.blank (Mirror.reflect asFd asTimer)).Reachable
      (loop, mirror)) :
    (loop.fds.take loop.fdLength).map (Option.map Pollfd.fd) = mirror.loop.fds.map some ∧
    ∀ after, loop.attended = false → handleLoop loop .turn = .ok after →
      (∀ fdIndex event invocation, after.stage = .calling fdIndex event invocation →
        mirror.loop.watches invocation.fd (asFd invocation.callback invocation.data) = true) ∧
      ∀ id, after.stage.rings id = true → ∃ timer ∈ loop.timers, timer.id = id ∧ ∃ name, mirror.name id = some name ∧
        mirror.loop.due loop.clock name = some (asTimer timer.callback timer.data) := by
  obtain ⟨entries, mirrors⟩ := mirrors_of_reachable reachable
  refine ⟨?_, fun after walking turned => ⟨fun _ _ _ called => mirrors.calls walking turned called, fun _ rings =>
    mirrors.rings walking turned rings⟩⟩
  rw [mirrors.tracks.holds.used, mirrors.pictures.fds, List.map_map, List.map_map]
  rfl

end Steps

end SwaylockPlugin.EventLoop

namespace SwaylockPlugin

theorem awaits_of_watches {state : SwaylockState} {fd : Int} {callback : FdCallback}
    (watched : state.scene.eventloop.watches fd callback = true) : state.awaits callback = true := by
  obtain ⟨⟨_, event⟩, member, test⟩ := List.any_eq_true.mp watched
  rw [Bool.and_eq_true, Bool.and_eq_true] at test
  exact List.any_eq_true.mpr ⟨event, (List.of_mem_zip member).2, Bool.and_eq_true_iff.mpr ⟨test.1.2, test.2⟩⟩

end SwaylockPlugin
