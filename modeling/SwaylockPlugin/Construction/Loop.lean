import Mathlib.Data.List.Basic

namespace SwaylockPlugin

/-- A reading of the monotonic clock. -/
structure Timespec where
  tvSec : Int
  tvNsec : Int
  deriving DecidableEq

namespace Timespec

/-- A reading is earlier than another by seconds first and nanoseconds second. -/
def before (first second : Timespec) : Bool :=
  first.tvSec < second.tvSec || (first.tvSec == second.tvSec && first.tvNsec < second.tvNsec)

/-- This is the reading `ms` milliseconds after `now`, with the division and carry of `loop_add_timer`. -/
def after (now : Timespec) (ms : Int) : Timespec :=
  let nsec := (ms.tmod 1000) * 1000000
  if now.tvNsec + nsec ≥ 1000000000 then
    ⟨now.tvSec + ms.tdiv 1000 + 1, now.tvNsec + (nsec - 1000000000)⟩
  else ⟨now.tvSec + ms.tdiv 1000, now.tvNsec + nsec⟩

def msSince (now thence : Timespec) : Int :=
  (now.tvSec - thence.tvSec) * 1000 + (now.tvNsec - thence.tvNsec).tdiv 1000000

end Timespec

/-- A timer keeps the name under which it was handed out. -/
abbrev TimerId := Nat

/-- An fd event keeps its callback until the loop frees it. -/
structure LoopFdEvent (FdCallback : Type) where
  callback : FdCallback
  removed : Bool

/-- A timer keeps its callback and its expiry until the loop frees it. -/
structure LoopTimer (TimerCallback : Type) where
  id : TimerId
  callback : TimerCallback
  expiry : Timespec
  removed : Bool

/-- The loop holds the polled descriptors, their events in the same order, and the timers. -/
structure Loop (FdCallback TimerCallback : Type) where
  fds : List Int
  fdEvents : List (LoopFdEvent FdCallback)
  timers : List (LoopTimer TimerCallback)
  nextTimer : TimerId

namespace Loop

variable {FdCallback TimerCallback : Type}

def create : Loop FdCallback TimerCallback := ⟨[], [], [], 0⟩

def addFd (loop : Loop FdCallback TimerCallback) (fd : Int) (callback : FdCallback) :
    Loop FdCallback TimerCallback :=
  { loop with
    fdEvents := loop.fdEvents ++ [⟨callback, false⟩]
    fds := loop.fds ++ [fd] }

/-- The first event whose descriptor matches becomes removed. -/
def markFd (fd : Int) : List Int → List (LoopFdEvent FdCallback) → List (LoopFdEvent FdCallback)
  | candidate :: fds, event :: events =>
      if candidate = fd then { event with removed := true } :: events
      else event :: markFd fd fds events
  | _, events => events

def removeFd (loop : Loop FdCallback TimerCallback) (fd : Int) : Loop FdCallback TimerCallback :=
  { loop with fdEvents := markFd fd loop.fds loop.fdEvents }

/-- A poll frees the removed events together with their descriptors. -/
def sweepFds : List Int → List (LoopFdEvent FdCallback) → List Int × List (LoopFdEvent FdCallback)
  | fd :: fds, event :: events =>
      let rest := sweepFds fds events
      if event.removed then rest else (fd :: rest.1, event :: rest.2)
  | fds, events => (fds, events)

/-- This is the part of `loop_poll` behind the dispatch of the descriptors that frees the removed events, together with the
walk along the timers that follows it and frees the removed ones. -/
def sweep (loop : Loop FdCallback TimerCallback) : Loop FdCallback TimerCallback :=
  let kept := sweepFds loop.fds loop.fdEvents
  { loop with
    fds := kept.1
    fdEvents := kept.2
    timers := loop.timers.filter fun timer => !timer.removed }

/-- This is the `loop_add_timer` operation, which inserts at the head of the list. -/
def addTimer (loop : Loop FdCallback TimerCallback) (now : Timespec) (ms : Int)
    (callback : TimerCallback) : Loop FdCallback TimerCallback :=
  { loop with
    timers := ⟨loop.nextTimer, callback, now.after ms, false⟩ :: loop.timers
    nextTimer := loop.nextTimer + 1 }

/-- The first timer with the given name becomes removed. -/
def markTimer (id : TimerId) : List (LoopTimer TimerCallback) → List (LoopTimer TimerCallback)
  | [] => []
  | timer :: timers =>
      if timer.id = id then { timer with removed := true } :: timers
      else timer :: markTimer id timers

def removeTimer (loop : Loop FdCallback TimerCallback) (id : TimerId) : Loop FdCallback TimerCallback :=
  { loop with timers := markTimer id loop.timers }

/-- The loop frees a timer once its callback returned. -/
def freeTimer (loop : Loop FdCallback TimerCallback) (id : TimerId) : Loop FdCallback TimerCallback :=
  { loop with timers := loop.timers.filter fun timer => timer.id != id }

/-- The loop calls a timer back when it was not removed and its expiry has passed. -/
def due (loop : Loop FdCallback TimerCallback) (now : Timespec) (id : TimerId) : Option TimerCallback :=
  (loop.timers.find? fun timer => timer.id == id && !timer.removed && timer.expiry.before now).map
    LoopTimer.callback

/-- A descriptor is registered while some event for it was not removed. -/
def registered (loop : Loop FdCallback TimerCallback) (fd : Int) : Bool :=
  (loop.fds.zip loop.fdEvents).any fun entry => entry.1 == fd && !entry.2.removed

/-- The first event whose descriptor matches was not removed before. -/
def marksKept (fd : Int) : List Int → List (LoopFdEvent FdCallback) → Bool
  | candidate :: fds, event :: events => if candidate = fd then !event.removed else marksKept fd fds events
  | _, _ => false

/-- The removal of a descriptor marks an event that was not removed before. -/
def removes (loop : Loop FdCallback TimerCallback) (fd : Int) : Bool := marksKept fd loop.fds loop.fdEvents

/-- The loop calls a descriptor back when some event for it was not removed. -/
def watches [DecidableEq FdCallback] (loop : Loop FdCallback TimerCallback) (fd : Int)
    (callback : FdCallback) : Bool :=
  (loop.fds.zip loop.fdEvents).any fun entry =>
    entry.1 == fd && entry.2.callback == callback && !entry.2.removed

end Loop

end SwaylockPlugin
