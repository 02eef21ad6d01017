import Mathlib.Data.List.Nodup
import SwaylockPlugin.Proof.Effects

namespace SwaylockPlugin

open Library

namespace Loop

variable {FdCallback TimerCallback : Type} {loop : Loop FdCallback TimerCallback} {id other : TimerId}
  {callback : TimerCallback}

/-- A timer is armed when the loop holds it under its name and it was not removed. -/
def Armed (loop : Loop FdCallback TimerCallback) (id : TimerId) (callback : TimerCallback) : Prop :=
  ∃ timer ∈ loop.timers, timer.id = id ∧ timer.callback = callback ∧ timer.removed = false

/-- The timers of a loop have different names, and all of them were handed out. -/
structure WellTimed (loop : Loop FdCallback TimerCallback) : Prop where
  below : ∀ timer ∈ loop.timers, timer.id < loop.nextTimer
  nodup : (loop.timers.map LoopTimer.id).Nodup

theorem create_wellTimed : (create : Loop FdCallback TimerCallback).WellTimed :=
  ⟨fun _ member => (nomatch member), List.nodup_nil⟩

theorem WellTimed.armed_below (well : loop.WellTimed) (armed : loop.Armed id callback) : id < loop.nextTimer := by
  obtain ⟨timer, member, rfl, _⟩ := armed
  exact well.below timer member

theorem WellTimed.addTimer (well : loop.WellTimed) (now : Timespec) (ms : Int) (callback : TimerCallback) :
    (loop.addTimer now ms callback).WellTimed where
  below timer member := by
    rcases List.mem_cons.mp member with rfl | old
    · exact Nat.lt_succ_self _
    · exact Nat.lt_succ_of_lt (well.below timer old)
  nodup := by
    apply List.nodup_cons.mpr
    refine ⟨fun member => ?_, well.nodup⟩
    obtain ⟨timer, old, same⟩ := List.mem_map.mp member
    exact absurd (well.below timer old) (by rw [same]; exact Nat.lt_irrefl _)

theorem armed_addTimer (now : Timespec) (ms : Int) (new : TimerCallback) :
    (loop.addTimer now ms new).Armed id callback ↔
      id = loop.nextTimer ∧ callback = new ∨ loop.Armed id callback := by
  constructor
  · rintro ⟨timer, member, rfl, rfl, kept⟩
    rcases List.mem_cons.mp member with rfl | old
    · exact .inl ⟨rfl, rfl⟩
    · exact .inr ⟨timer, old, rfl, rfl, kept⟩
  · rintro (⟨rfl, rfl⟩ | ⟨timer, member, named, called, kept⟩)
    · exact ⟨_, List.mem_cons_self, rfl, rfl, rfl⟩
    · exact ⟨timer, List.mem_cons_of_mem _ member, named, called, kept⟩

theorem markTimer_ids (target : TimerId) (timers : List (LoopTimer TimerCallback)) :
    (markTimer target timers).map LoopTimer.id = timers.map LoopTimer.id := by
  induction timers with
  | nil => rfl
  | cons timer timers ih =>
      unfold markTimer
      split
      · rfl
      · rw [List.map_cons, List.map_cons, ih]

theorem mem_markTimer {target : TimerId} {timers : List (LoopTimer TimerCallback)} {timer : LoopTimer TimerCallback}
    (nodup : (timers.map LoopTimer.id).Nodup) (member : timer ∈ markTimer target timers)
    (kept : timer.removed = false) : timer ∈ timers ∧ timer.id ≠ target := by
  induction timers with
  | nil => cases member
  | cons first timers ih =>
      obtain ⟨fresh, rest⟩ := List.nodup_cons.mp nodup
      unfold markTimer at member
      split at member
      · rename_i same
        rcases List.mem_cons.mp member with rfl | old
        · cases kept
        · refine ⟨List.mem_cons_of_mem _ old, fun named => fresh ?_⟩
          rw [same, ← named]
          exact List.mem_map_of_mem old
      · rename_i apart
        rcases List.mem_cons.mp member with rfl | old
        · exact ⟨List.mem_cons_self, apart⟩
        · obtain ⟨there, different⟩ := ih rest old
          exact ⟨List.mem_cons_of_mem _ there, different⟩

theorem WellTimed.removeTimer (well : loop.WellTimed) (target : TimerId) : (loop.removeTimer target).WellTimed where
  below timer member := by
    have named : timer.id ∈ (markTimer target loop.timers).map LoopTimer.id := List.mem_map_of_mem member
    rw [markTimer_ids] at named
    obtain ⟨old, there, same⟩ := List.mem_map.mp named
    exact same ▸ well.below old there
  nodup := by
    change ((markTimer target loop.timers).map LoopTimer.id).Nodup
    rw [markTimer_ids]
    exact well.nodup

theorem Armed.of_removeTimer (well : loop.WellTimed) {target : TimerId}
    (armed : (loop.removeTimer target).Armed id callback) : loop.Armed id callback ∧ id ≠ target := by
  obtain ⟨timer, member, rfl, rfl, kept⟩ := armed
  obtain ⟨old, different⟩ := mem_markTimer well.nodup member kept
  exact ⟨⟨timer, old, rfl, rfl, kept⟩, different⟩

theorem WellTimed.filter (well : loop.WellTimed) (test : LoopTimer TimerCallback → Bool) :
    ({ loop with timers := loop.timers.filter test } : Loop FdCallback TimerCallback).WellTimed where
  below timer member := well.below timer (List.mem_of_mem_filter member)
  nodup := List.Nodup.sublist (List.filter_sublist.map _) well.nodup

theorem Armed.of_freeTimer {target : TimerId} (armed : (loop.freeTimer target).Armed id callback) :
    loop.Armed id callback ∧ id ≠ target := by
  obtain ⟨timer, member, rfl, rfl, kept⟩ := armed
  obtain ⟨old, different⟩ := List.mem_filter.mp member
  exact ⟨⟨timer, old, rfl, rfl, kept⟩, by simpa using different⟩

theorem Armed.of_sweep (armed : loop.sweep.Armed id callback) : loop.Armed id callback := by
  obtain ⟨timer, member, rest⟩ := armed
  exact ⟨timer, List.mem_of_mem_filter member, rest⟩

theorem armed_of_due {now : Timespec} (due : loop.due now id = some callback) : loop.Armed id callback := by
  obtain ⟨timer, found, called⟩ := Option.map_eq_some_iff.mp due
  have holds := List.find?_some found
  simp only [Bool.and_eq_true, beq_iff_eq, Bool.not_eq_true'] at holds
  exact ⟨timer, List.mem_of_find?_eq_some found, holds.1.1, called, holds.1.2⟩

theorem mem_markTimer_other {target : TimerId} {timers : List (LoopTimer TimerCallback)} {timer : LoopTimer TimerCallback}
    (member : timer ∈ timers) (apart : timer.id ≠ target) : timer ∈ markTimer target timers := by
  induction timers with
  | nil => cases member
  | cons first timers ih =>
      unfold markTimer
      rcases List.mem_cons.mp member with rfl | old
      · rw [if_neg apart]
        exact List.mem_cons_self
      · split
        · exact List.mem_cons_of_mem _ old
        · exact List.mem_cons_of_mem _ (ih old)

theorem Armed.removeTimer {target : TimerId} (armed : loop.Armed id callback) (apart : id ≠ target) :
    (loop.removeTimer target).Armed id callback := by
  obtain ⟨timer, member, rfl, rfl, kept⟩ := armed
  exact ⟨timer, mem_markTimer_other member apart, rfl, rfl, kept⟩

theorem Armed.freeTimer {target : TimerId} (armed : loop.Armed id callback) (apart : id ≠ target) :
    (loop.freeTimer target).Armed id callback := by
  obtain ⟨timer, member, rfl, rfl, kept⟩ := armed
  exact ⟨timer, List.mem_filter.mpr ⟨member, by simpa using apart⟩, rfl, rfl, kept⟩

theorem Armed.sweep (armed : loop.Armed id callback) : loop.sweep.Armed id callback := by
  obtain ⟨timer, member, named, called, kept⟩ := armed
  exact ⟨timer, List.mem_filter.mpr ⟨member, by rw [kept]; rfl⟩, named, called, kept⟩

theorem WellTimed.sole (well : loop.WellTimed) {timer another : LoopTimer TimerCallback} (member : timer ∈ loop.timers)
    (also : another ∈ loop.timers) (same : timer.id = another.id) : timer = another :=
  List.inj_on_of_nodup_map well.nodup member also same

theorem WellTimed.armed_unique (well : loop.WellTimed) {different : TimerCallback} (armed : loop.Armed id callback)
    (also : loop.Armed id different) : callback = different := by
  obtain ⟨timer, member, named, rfl, _⟩ := armed
  obtain ⟨another, there, same, rfl, _⟩ := also
  rw [well.sole member there (named.trans same.symm)]

/-- A timer leaves the loop where there is one. -/
def removeTimer? (loop : Loop FdCallback TimerCallback) : Option TimerId → Loop FdCallback TimerCallback
  | none => loop
  | some timer => loop.removeTimer timer

/-- A loop runs on when its armed timers were armed before or have new names. -/
structure Later (first second : Loop FdCallback TimerCallback) : Prop where
  next : first.nextTimer ≤ second.nextTimer
  armed : ∀ timer ∈ second.timers, timer.removed = false → timer ∈ first.timers ∨ first.nextTimer ≤ timer.id

namespace Later

variable {first second third : Loop FdCallback TimerCallback}

theorem same (timers : second.timers = first.timers) (names : second.nextTimer = first.nextTimer) :
    Later first second :=
  ⟨Nat.le_of_eq names.symm, fun _ member _ => .inl (timers ▸ member)⟩

theorem trans (one : Later first second) (two : Later second third) : Later first third where
  next := Nat.le_trans one.next two.next
  armed timer member kept := by
    rcases two.armed timer member kept with there | new
    · exact one.armed timer there kept
    · exact .inr (Nat.le_trans one.next new)

theorem addTimer (loop : Loop FdCallback TimerCallback) (now : Timespec) (ms : Int) (callback : TimerCallback) :
    Later loop (loop.addTimer now ms callback) where
  next := Nat.le_succ _
  armed timer member _ := by
    rcases List.mem_cons.mp member with rfl | old
    · exact .inr (Nat.le_refl _)
    · exact .inl old

theorem of_markTimer {target : TimerId} {timers : List (LoopTimer TimerCallback)} {timer : LoopTimer TimerCallback}
    (member : timer ∈ markTimer target timers) (kept : timer.removed = false) : timer ∈ timers := by
  induction timers with
  | nil => cases member
  | cons first timers ih =>
      unfold markTimer at member
      split at member
      · rcases List.mem_cons.mp member with rfl | old
        · cases kept
        · exact List.mem_cons_of_mem _ old
      · rcases List.mem_cons.mp member with rfl | old
        · exact List.mem_cons_self
        · exact List.mem_cons_of_mem _ (ih old)

theorem removeTimer? (loop : Loop FdCallback TimerCallback) (timer : Option TimerId) :
    Later loop (loop.removeTimer? timer) := by
  cases timer with
  | none => exact same rfl rfl
  | some timer => exact ⟨Nat.le_refl _, fun _ member kept => .inl (of_markTimer member kept)⟩

end Later

/-- No timer whose callback passes a test is newly armed. -/
def Disarms (test : TimerCallback → Bool) (first second : Loop FdCallback TimerCallback) : Prop :=
  ∀ id callback, test callback = true → second.Armed id callback → first.Armed id callback

namespace Disarms

variable {test : TimerCallback → Bool} {first second third : Loop FdCallback TimerCallback}

theorem same (timers : second.timers = first.timers) : Disarms test first second := by
  intro id callback _ armed
  unfold Armed at armed
  rwa [timers] at armed

theorem trans (one : Disarms test first second) (two : Disarms test second third) : Disarms test first third :=
  fun id callback passes armed => one id callback passes (two id callback passes armed)

theorem addTimer (loop : Loop FdCallback TimerCallback) (now : Timespec) (ms : Int) (fails : test callback = false) :
    Disarms test loop (loop.addTimer now ms callback) := by
  intro id owner passes armed
  rcases (armed_addTimer now ms callback).mp armed with ⟨_, rfl⟩ | old
  · cases fails.symm.trans passes
  · exact old

theorem removeTimer? (loop : Loop FdCallback TimerCallback) (timer : Option TimerId) :
    Disarms test loop (loop.removeTimer? timer) := by
  rintro id callback _ ⟨armed, member, named, called, kept⟩
  cases timer with
  | none => exact ⟨armed, member, named, called, kept⟩
  | some timer => exact ⟨armed, Later.of_markTimer member kept, named, called, kept⟩

theorem freeTimer (loop : Loop FdCallback TimerCallback) (timer : TimerId) : Disarms test loop (loop.freeTimer timer) :=
  fun _ _ _ armed => (Armed.of_freeTimer armed).1

theorem sweep (loop : Loop FdCallback TimerCallback) : Disarms test loop loop.sweep :=
  fun _ _ _ armed => armed.of_sweep

end Disarms

end Loop

end SwaylockPlugin
