import SwaylockPlugin.Construction.EventLoop
import SwaylockPlugin.Proof.Clock
import SwaylockPlugin.Proof.LoopTimers

namespace SwaylockPlugin.EventLoop

open Library

variable {Callback Data : Type} {loop after : LoopState Callback Data}

/-- The time that remains for a timer, in nanoseconds. -/
def Timer.remaining (timer : Timer Callback Data) (now : Timespec) : Int := timer.expiry.nanos - now.nanos

/-- Two times in milliseconds and in nanoseconds differ by less than a millisecond. -/
def Near (ms nanos : Int) : Prop := nanos - 1000000 < ms * 1000000 ∧ ms * 1000000 < nanos + 1000000

/-- A time that fits is computed in full although its seconds alone may wrap around, and it is rounded towards zero. -/
theorem timerMs_near {expiry now : Timespec} (one : expiry.normal = true) (two : now.normal = true)
    (lower : -2 ^ 31 * 1000000 < expiry.nanos - now.nanos)
    (upper : expiry.nanos - now.nanos ≤ intMax * 1000000) : Near (timerMs expiry now) (expiry.nanos - now.nanos) := by
  simp only [Timespec.normal, Bool.and_eq_true, decide_eq_true_eq] at one two
  unfold Timespec.nanos at lower upper ⊢
  unfold intMax at upper
  have parts := Int.mul_tdiv_add_tmod (expiry.tvNsec - now.tvNsec) 1000000
  have above := Int.tmod_lt_of_pos (expiry.tvNsec - now.tvNsec) (by decide : (0 : Int) < 1000000)
  have below := Int.lt_tmod_of_pos (expiry.tvNsec - now.tvNsec) (by decide : (0 : Int) < 1000000)
  have seconds : wrap64 (wrap64 (expiry.tvSec - now.tvSec) * 1000) = (expiry.tvSec - now.tvSec) * 1000 := by
    have difference : wrap64 (expiry.tvSec - now.tvSec) = expiry.tvSec - now.tvSec := wrap64_eq (by omega) (by omega)
    rw [difference, wrap64_eq (by omega) (by omega)]
  have nanoseconds : wrap64 (expiry.tvNsec - now.tvNsec) = expiry.tvNsec - now.tvNsec :=
    wrap64_eq (by omega) (by omega)
  have partial32 := wrap32_bounds ((expiry.tvSec - now.tvSec) * 1000)
  have exact : timerMs expiry now =
      (expiry.tvSec - now.tvSec) * 1000 + (expiry.tvNsec - now.tvNsec).tdiv 1000000 := by
    unfold timerMs
    dsimp only
    rw [seconds, nanoseconds, wrap64_eq (by omega) (by omega), wrap32_add, wrap32_eq (by omega) (by omega)]
  unfold Near
  rw [exact]
  omega

/-- The walk along the timers finds a time that no timer undercuts and that belongs to a timer unless it is the
greatest one. -/
theorem leastMs_least (now : Timespec) (ms : Int) (timers : List (Timer Callback Data)) :
    LoopState.leastMs now ms timers ≤ ms ∧
      (∀ timer ∈ timers, LoopState.leastMs now ms timers ≤ timerMs timer.expiry now) ∧
      (LoopState.leastMs now ms timers = ms ∨
        ∃ timer ∈ timers, LoopState.leastMs now ms timers = timerMs timer.expiry now) := by
  induction timers generalizing ms with
  | nil =>
      refine ⟨Int.le_refl ms, ?_, .inl rfl⟩
      intro timer member
      cases member
  | cons timer timers ih =>
      unfold LoopState.leastMs
      obtain ⟨below, least, found⟩ := ih
        (if timerMs timer.expiry now < ms then timerMs timer.expiry now else ms)
      have start : (if timerMs timer.expiry now < ms then timerMs timer.expiry now else ms) =
          min (timerMs timer.expiry now) ms := by
        split <;> omega
      rw [start] at below least found ⊢
      refine ⟨by omega, ?_, ?_⟩
      · intro other member
        rcases List.mem_cons.mp member with rfl | later
        · omega
        · exact least other later
      · rcases found with same | ⟨other, member, same⟩
        · rcases Int.le_total (timerMs timer.expiry now) ms with less | more
          · exact .inr ⟨timer, List.mem_cons_self, by omega⟩
          · exact .inl (by omega)
        · exact .inr ⟨other, List.mem_cons_of_mem _ member, same⟩

theorem pollTimeout_eq (filled : loop.timers.isEmpty = false) :
    loop.pollTimeout = max 0 (LoopState.leastMs loop.clock intMax loop.timers) := by
  unfold LoopState.pollTimeout
  rw [filled, if_neg Bool.false_ne_true]
  dsimp only
  split <;> omega

/-- A step of the loop does not touch the clock and leaves no timer behind that was not there with its expiry. -/
structure Fewer (loop after : LoopState Callback Data) : Prop where
  clock : after.clock = loop.clock
  timers : ∀ timer ∈ after.timers, ∃ old ∈ loop.timers, old.expiry = timer.expiry

theorem SameTimers.fewer (same : SameTimers loop after) : Fewer loop after where
  clock := same.clock
  timers timer member := ⟨timer, same.timers ▸ member, rfl⟩

theorem Fewer.move (loop : LoopState Callback Data) (stage : Stage Callback Data) :
    Fewer loop { loop with stage := stage } := ⟨rfl, fun timer member => ⟨timer, member, rfl⟩⟩

theorem Fewer.moved (fewer : Fewer loop after) (stage : Stage Callback Data) :
    Fewer loop { after with stage := stage } := ⟨fewer.clock, fewer.timers⟩

theorem freeTimer_fewer (loop : LoopState Callback Data) (id : NodeId) : Ensures (loop.freeTimer id) (Fewer loop) := by
  refine Ensures.read fun timer found => Ensures.pure ⟨rfl, fun timer member => ?_⟩
  exact ⟨timer, (unlink_sublist loop.timers id).subset member, rfl⟩

theorem expire_fewer (loop : LoopState Callback Data) (now : Timespec) (id : NodeId) :
    Ensures (loop.expire now id) (Fewer loop) := by
  refine Ensures.read fun timer found => ?_
  change Ensures (if timer.removed = true then _ else if timer.expiry.before now = true then _ else _) _
  split
  · exact (freeTimer_fewer loop id).bind fun freed fewer => Ensures.pure (fewer.moved _)
  · split
    · exact Ensures.pure (.move loop _)
    · exact Ensures.pure (.move loop _)

theorem turn_fewer (loop : LoopState Callback Data) : Ensures loop.turn (Fewer loop) := by
  unfold LoopState.turn
  cases loop.stage with
  | dispatching fdIndex event =>
      cases event with
      | some id =>
          refine (dispatch_delivers loop fdIndex id).ensures.weaken ?_
          rintro _ ⟨stage, rfl, _⟩
          exact .move loop stage
      | none =>
          refine (sweepFrom_delivers loop 0 loop.fdEvents).ensures.bind fun swept same => Ensures.pure ?_
          exact same.fewer.moved _
  | expiring now timer =>
      cases timer with
      | some id => exact expire_fewer loop now id
      | none => exact Ensures.pure (.move loop .outside)
  | outside | calling | ringing => exact Ensures.pure ⟨rfl, fun timer member => ⟨timer, member, rfl⟩⟩

theorem resume_fewer (loop : LoopState Callback Data) : Ensures loop.resume (Fewer loop) := by
  unfold LoopState.resume
  cases loop.stage with
  | calling fdIndex event invocation => exact Ensures.pure (.move loop _)
  | ringing now id timer => exact (freeTimer_fewer loop id).bind fun freed fewer => Ensures.pure (fewer.moved _)
  | outside | dispatching | expiring => exact Ensures.pure ⟨rfl, fun timer member => ⟨timer, member, rfl⟩⟩

/-- Timers are added with a time that an `int` holds and that does not lie in the past, and the clock of the system
reads the nanoseconds within a second. -/
def usual (_ : LoopState Callback Data) : LoopEvent Callback Data → Bool
  | .addTimer ms _ _ => decide (0 ≤ ms) && decide (ms ≤ intMax)
  | .passes clock => clock.normal
  | _ => true

/-- Every timer expires at most as much later as an `int` holds in milliseconds. -/
structure Ahead (loop : LoopState Callback Data) : Prop where
  normal : loop.clock.normal = true
  timers : ∀ timer ∈ loop.timers, timer.expiry.normal = true ∧
    timer.expiry.nanos ≤ loop.clock.nanos + intMax * 1000000

theorem Ahead.fewer (ahead : Ahead loop) (fewer : Fewer loop after) : Ahead after where
  normal := by
    rw [fewer.clock]
    exact ahead.normal
  timers timer member := by
    obtain ⟨old, there, same⟩ := fewer.timers timer member
    rw [fewer.clock, ← same]
    exact ahead.timers old there

theorem Ahead.step (ahead : Ahead loop) {event : LoopEvent Callback Data} (allowed : loopEnabled loop event = true)
    (meets : usual loop event = true) (handled : handleLoop loop event = .ok after) : Ahead after := by
  cases event with
  | passes clock =>
      cases handled
      have later := Timespec.nanos_le ahead.normal meets ((Bool.not_eq_true' _).mp allowed)
      refine ⟨meets, fun timer member => ⟨(ahead.timers timer member).1, ?_⟩⟩
      have bound := (ahead.timers timer member).2
      change timer.expiry.nanos ≤ clock.nanos + intMax * 1000000
      omega
  | addTimer ms callback data =>
      cases handled
      obtain ⟨positive, small⟩ := Bool.and_eq_true_iff.mp meets
      refine ⟨ahead.normal, fun timer member => ?_⟩
      rcases List.mem_cons.mp member with rfl | old
      · refine ⟨Timespec.after_normal ahead.normal (of_decide_eq_true positive), ?_⟩
        change (loop.clock.after ms).nanos ≤ loop.clock.nanos + intMax * 1000000
        have fits := of_decide_eq_true small
        rw [Timespec.after_nanos]
        omega
      · exact ahead.timers timer old
  | addFd fd mask callback data =>
      exact ahead.fewer ((addFd_delivers loop fd mask callback data).ensures _ handled).fewer
  | removeFd fd =>
      obtain ⟨result, removed, same⟩ := bind_ok.mp handled
      cases same
      exact ahead.fewer ((removeFd_delivers loop fd).ensures _ removed).fewer
  | removeTimer id =>
      cases handled
      refine ahead.fewer ⟨rfl, fun timer member => ?_⟩
      obtain ⟨old, there, _, same, _⟩ := mem_markTimer member
      exact ⟨old, there, same⟩
  | poll ready =>
      cases handled
      exact ahead.fewer ⟨rfl, fun timer member => ⟨timer, member, rfl⟩⟩
  | turn => exact ahead.fewer (turn_fewer loop _ handled)
  | resume => exact ahead.fewer (resume_fewer loop _ handled)

/-- The timeout is the time of the earliest timer up to less than a millisecond, so that the loop does not sleep past
an expiry by a millisecond. -/
theorem pollTimeout_earliest {clock : Timespec} (normal : clock.normal = true)
    {events : List (LoopEvent Callback Data)}
    (run : ((polling Callback Data).machine.guarded usual).Run (.create clock) events loop)
    (within : ∀ timer ∈ loop.timers, -2 ^ 31 * 1000000 < timer.remaining loop.clock ∧
      timer.remaining loop.clock < 2 ^ 31 * 1000000)
    {first : Timer Callback Data} (member : first ∈ loop.timers)
    (earliest : ∀ timer ∈ loop.timers, first.remaining loop.clock ≤ timer.remaining loop.clock) :
    ∃ ms, loop.pollTimeout = max 0 ms ∧ Near ms (first.remaining loop.clock) ∧
      loop.pollTimeout * 1000000 < max 0 (first.remaining loop.clock) + 1000000 := by
  have ahead : Ahead loop := by
    refine run.preserves Ahead ?_ ⟨normal, fun timer member => by cases member⟩
    rintro state event next ahead ⟨⟨allowed, handled⟩, meets⟩
    exact ahead.step allowed meets handled
  have near (timer) (there : timer ∈ loop.timers) :
      Near (timerMs timer.expiry loop.clock) (timer.remaining loop.clock) := by
    have late := (ahead.timers timer there).2
    exact timerMs_near (ahead.timers timer there).1 ahead.normal (within timer there).1 (by omega)
  obtain ⟨_, least, found⟩ := leastMs_least loop.clock intMax loop.timers
  have filled : loop.timers.isEmpty = false := List.isEmpty_eq_false_iff_exists_mem.mpr ⟨first, member⟩
  have close : Near (LoopState.leastMs loop.clock intMax loop.timers) (first.remaining loop.clock) := by
    have late := (ahead.timers first member).2
    have below := least first member
    have own := near first member
    unfold Near at own ⊢
    refine ⟨?_, by omega⟩
    rcases found with greatest | ⟨timer, there, same⟩
    · unfold Timer.remaining at own ⊢
      omega
    · have after := earliest timer there
      have other := near timer there
      unfold Near at other
      omega
  have timeout := pollTimeout_eq filled
  refine ⟨LoopState.leastMs loop.clock intMax loop.timers, timeout, close, ?_⟩
  have above := close.2
  rw [timeout]
  omega

/-- The longest time is kept although its seconds in milliseconds wrap around. -/
theorem pollTimeout_longest :
    ∃ (loop : LoopState Unit Unit) (first : Timer Unit Unit), first ∈ loop.timers ∧ loop.pollTimeout = intMax ∧
      wrap32 ((first.expiry.tvSec - loop.clock.tvSec) * 1000) < 0 ∧
      loop.pollTimeout * 1000000 < max 0 (first.remaining loop.clock) + 1000000 := by
  have played : (((polling Unit Unit).guarded usual).play (.create ⟨0, 999999999⟩) [.addTimer intMax () ()]).any
      (fun loop => decide (loop.pollTimeout = intMax) && !loop.timers.isEmpty && loop.timers.all fun first =>
        decide (wrap32 ((first.expiry.tvSec - loop.clock.tvSec) * 1000) < 0) &&
        decide (-2 ^ 31 * 1000000 < first.remaining loop.clock ∧ first.remaining loop.clock < 2 ^ 31 * 1000000) &&
        loop.timers.all fun timer => decide (first.remaining loop.clock ≤ timer.remaining loop.clock)) = true := by
    decide +kernel
  obtain ⟨loop, run, passed⟩ := Program.play_runs _ _ _ played
  rw [Program.guarded_machine] at run
  simp only [Bool.and_eq_true, List.all_eq_true, decide_eq_true_eq, Bool.not_eq_true'] at passed
  obtain ⟨⟨longest, filled⟩, each⟩ := passed
  obtain ⟨first, member⟩ := List.isEmpty_eq_false_iff_exists_mem.mp filled
  obtain ⟨_, _, _, above⟩ := pollTimeout_earliest (by decide) run (fun timer there => (each timer there).1.2) member
    fun timer there => (each first member).2 timer there
  exact ⟨loop, first, member, longest, (each first member).1.1, above⟩

end SwaylockPlugin.EventLoop
