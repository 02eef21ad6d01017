import SwaylockPlugin.Library.Linked
import SwaylockPlugin.Library.Machine
import SwaylockPlugin.Library.Outcome
import SwaylockPlugin.Library.Words
import SwaylockPlugin.Construction.Loop

namespace SwaylockPlugin.EventLoop

open Library

/-- An event or a timer keeps the name of the memory in which it was allocated. -/
abbrev NodeId := Nat

structure Pollfd where
  fd : Int
  events : BitVec 16
  revents : BitVec 16
  deriving DecidableEq

structure FdEvent (Callback Data : Type) where
  id : NodeId
  callback : Callback
  data : Data
  removed : Bool

structure Timer (Callback Data : Type) where
  id : NodeId
  callback : Callback
  data : Data
  expiry : Timespec
  removed : Bool

/-- A callback of a descriptor is invoked for an event with the descriptor, its revents and the data. -/
structure Invocation (Callback Data : Type) where
  event : NodeId
  callback : Callback
  fd : Int
  revents : BitVec 16
  data : Data

/-- The program is outside of `loop_poll` or at a place inside of it, where a walk knows the node that comes next. -/
inductive Stage (Callback Data : Type) where
  | outside
  | dispatching (fdIndex : Nat) (event : Option NodeId)
  | calling (fdIndex : Nat) (tmpEvent : Option NodeId) (invocation : Invocation Callback Data)
  | expiring (now : Timespec) (timer : Option NodeId)
  | ringing (now : Timespec) (timer : NodeId) (tmpTimer : Option NodeId)

/-- A program fails where it uses a slot outside of its array or without a value, or an event or a timer that is gone. -/
inductive Fault where
  | slot
  | event
  | timer
  deriving DecidableEq

/-- The loop consists of an array of slots with a capacity, of the lists of events and of timers, and of the place where
the program is, together with the clock and the memory that was handed out. -/
structure LoopState (Callback Data : Type) where
  fds : List (Option Pollfd)
  fdLength : Nat
  fdCapacity : Nat
  fdEvents : List (FdEvent Callback Data)
  timers : List (Timer Callback Data)
  stage : Stage Callback Data
  clock : Timespec
  next : NodeId

/-- This is `INT_MAX`. -/
def intMax : Int := 2 ^ 31 - 1

/-- This is the `timer_ms` of a timer, to which the part below a second is added in a second assignment. -/
def timerMs (expiry now : Timespec) : Int :=
  let timerMs := wrap32 (wrap64 (wrap64 (expiry.tvSec - now.tvSec) * 1000))
  wrap32 (wrap64 (timerMs + (wrap64 (expiry.tvNsec - now.tvNsec)).tdiv 1000000))

namespace LoopState

variable {Callback Data : Type} (loop : LoopState Callback Data)

/-- This is the `loop_create` operation, after which no slot has a value. -/
def create (clock : Timespec) : LoopState Callback Data :=
  ⟨List.replicate 10 none, 0, 10, [], [], .outside, clock, 0⟩

/-- A slot of the array is read. -/
def slot (index : Nat) : Except Fault Pollfd := demand .slot loop.fds[index]?.join

/-- A slot of the array is written. -/
def setSlot (index : Nat) (pollfd : Pollfd) : Except Fault (LoopState Callback Data) := do
  require .slot (index < loop.fds.length)
  return { loop with fds := loop.fds.set index (some pollfd) }

/-- The array has room for ten more slots where it is full. -/
def grow : LoopState Callback Data :=
  if loop.fdLength = loop.fdCapacity then
    { loop with
      fdCapacity := loop.fdCapacity + 10
      fds := loop.fds ++ List.replicate 10 none }
  else loop

def addFd (fd : Int) (mask : BitVec 16) (callback : Callback) (data : Data) :
    Except Fault (LoopState Callback Data) := do
  let event := ⟨loop.next, callback, data, false⟩
  let loop := { loop with
    next := loop.next + 1
    fdEvents := loop.fdEvents ++ [event] }
  let loop := loop.grow
  let loop ← loop.setSlot loop.fdLength ⟨fd, mask, 0⟩
  return { loop with fdLength := loop.fdLength + 1 }

/-- The walk of `loop_remove_fd` marks the first event whose slot has the descriptor. -/
def markFd (fd : Int) :
    Nat → List (FdEvent Callback Data) → Except Fault (List (FdEvent Callback Data) × Bool)
  | _, [] => return ([], false)
  | fdIndex, event :: rest => do
      let pollfd ← loop.slot fdIndex
      if pollfd.fd = fd then return ({ event with removed := true } :: rest, true)
      else do
        let (rest, found) ← markFd fd (fdIndex + 1) rest
        return (event :: rest, found)

/-- This is the `loop_remove_fd` operation together with its result. -/
def removeFd (fd : Int) : Except Fault (LoopState Callback Data × Bool) := do
  let (fdEvents, found) ← loop.markFd fd 0 loop.fdEvents
  return ({ loop with fdEvents := fdEvents }, found)

/-- This is the `loop_add_timer` operation, which inserts at the head of the list. -/
def addTimer (ms : Int) (callback : Callback) (data : Data) : LoopState Callback Data :=
  { loop with
    next := loop.next + 1
    timers := ⟨loop.next, callback, data, loop.clock.after ms, false⟩ :: loop.timers }

/-- The walk of `loop_remove_timer` marks the first timer with the address. -/
def markTimer (id : NodeId) : List (Timer Callback Data) → List (Timer Callback Data)
  | [] => []
  | timer :: rest =>
      if timer.id = id then { timer with removed := true } :: rest
      else timer :: markTimer id rest

/-- The `loop_remove_timer` operation returns whether the timer is in the list. -/
def hasTimer (id : NodeId) : Bool := loop.timers.any fun timer => timer.id == id

def removeTimer (id : NodeId) : LoopState Callback Data := { loop with timers := markTimer id loop.timers }

/-- The walk along the timers keeps the least time. -/
def leastMs (now : Timespec) (ms : Int) : List (Timer Callback Data) → Int
  | [] => ms
  | timer :: rest => leastMs now (if timerMs timer.expiry now < ms then timerMs timer.expiry now else ms) rest

/-- This is the timeout that `loop_poll` passes to `poll`. -/
def pollTimeout : Int :=
  let ms := if loop.timers.isEmpty then intMax else leastMs loop.clock intMax loop.timers
  if ms < 0 then 0 else ms

/-- The `poll` call stores the revents of the first slots unless a signal interrupts it. -/
def storeRevents (ready : Option (Int → BitVec 16 → BitVec 16)) : List (Option Pollfd) :=
  match ready with
  | none => loop.fds
  | some ready =>
      (loop.fds.take loop.fdLength).map (Option.map fun pollfd =>
        { pollfd with revents := ready pollfd.fd pollfd.events }) ++ loop.fds.drop loop.fdLength

/-- The `loop_poll` operation waits and then begins to walk along the events. -/
def poll (ready : Option (Int → BitVec 16 → BitVec 16)) : LoopState Callback Data :=
  { loop with
    fds := loop.storeRevents ready
    stage := .dispatching 0 (loop.fdEvents.head?.map FdEvent.id) }

/-- The callback of an event is wanted where its revents have an event that was asked for, a hangup or an error. -/
def wanted (pollfd : Pollfd) : Bool :=
  pollfd.revents.signExtend 32 &&& (pollfd.events.signExtend 32 ||| 0x10#32 ||| 0x8#32) != 0

/-- An event that the walk is at is dispatched with the slot at the index. -/
def dispatch (fdIndex : Nat) (id : NodeId) : Except Fault (LoopState Callback Data) := do
  let event ← demand .event (nodeAt FdEvent.id loop.fdEvents id)
  let tmpEvent := following FdEvent.id loop.fdEvents id
  let pollfd ← loop.slot fdIndex
  if event.removed then return { loop with stage := .dispatching (fdIndex + 1) tmpEvent }
  else if wanted pollfd then
    return { loop with
      stage := .calling (fdIndex + 1) tmpEvent ⟨id, event.callback, pollfd.fd, pollfd.revents, event.data⟩ }
  else return { loop with stage := .dispatching (fdIndex + 1) tmpEvent }

/-- This is the `memmove` by one slot towards the front, which stays inside of the array. -/
def moveSlots (fdIndex count : Nat) : Except Fault (LoopState Callback Data) := do
  require .slot (fdIndex + 1 + count ≤ loop.fds.length)
  return { loop with
    fds := loop.fds.take fdIndex ++ (loop.fds.drop (fdIndex + 1)).take count ++ loop.fds.drop (fdIndex + count) }

/-- A removed event is freed with its slot, where the count of what is moved does not wrap. -/
def freeEvent (fdIndex : Nat) (id : NodeId) : Except Fault (LoopState Callback Data) := do
  let _ ← demand Fault.event (nodeAt FdEvent.id loop.fdEvents id)
  require .slot (fdIndex < loop.fdLength)
  let loop := { loop with
    fdEvents := unlink FdEvent.id loop.fdEvents id
    fdLength := loop.fdLength - 1 }
  loop.moveSlots fdIndex (loop.fdLength - fdIndex)

end LoopState

variable {Callback Data : Type}

/-- This is the part of `loop_poll` that frees the removed events, along the events that were there before it. -/
def sweepFrom (loop : LoopState Callback Data) (fdIndex : Nat) :
    List (FdEvent Callback Data) → Except Fault (LoopState Callback Data)
  | [] => return loop
  | event :: rest =>
      if event.removed then do
        let loop ← loop.freeEvent fdIndex event.id
        sweepFrom loop fdIndex rest
      else sweepFrom loop (fdIndex + 1) rest

namespace LoopState

variable (loop : LoopState Callback Data)

/-- The removed events are freed once every event was dispatched. -/
def sweep : Except Fault (LoopState Callback Data) := sweepFrom loop 0 loop.fdEvents

/-- The walk along the timers reads the clock, where there are timers. -/
def beginTimers : LoopState Callback Data :=
  { loop with
    stage := if loop.timers.isEmpty then .outside else .expiring loop.clock (loop.timers.head?.map Timer.id) }

/-- A timer is freed while it is in the list. -/
def freeTimer (id : NodeId) : Except Fault (LoopState Callback Data) := do
  let _ ← demand Fault.timer (nodeAt Timer.id loop.timers id)
  return { loop with timers := unlink Timer.id loop.timers id }

/-- A timer that the walk is at is freed where it was removed, and its callback is called where it has expired. -/
def expire (now : Timespec) (id : NodeId) : Except Fault (LoopState Callback Data) := do
  let timer ← demand .timer (nodeAt Timer.id loop.timers id)
  let tmpTimer := following Timer.id loop.timers id
  if timer.removed then do
    let loop ← loop.freeTimer id
    return { loop with stage := .expiring now tmpTimer }
  else if timer.expiry.before now then return { loop with stage := .ringing now id tmpTimer }
  else return { loop with stage := .expiring now tmpTimer }

/-- The `loop_poll` operation goes on where it is between two callbacks. -/
def turn : Except Fault (LoopState Callback Data) :=
  match loop.stage with
  | .dispatching fdIndex (some id) => loop.dispatch fdIndex id
  | .dispatching _ none => do
      let loop ← loop.sweep
      return loop.beginTimers
  | .expiring now (some id) => loop.expire now id
  | .expiring _ none => return { loop with stage := .outside }
  | _ => return loop

/-- The `loop_poll` operation goes on after a callback returned. -/
def resume : Except Fault (LoopState Callback Data) :=
  match loop.stage with
  | .calling fdIndex tmpEvent _ => return { loop with stage := .dispatching fdIndex tmpEvent }
  | .ringing now id tmpTimer => do
      let loop ← loop.freeTimer id
      return { loop with stage := .expiring now tmpTimer }
  | _ => return loop

/-- The program outside of the loop and in a callback may use the loop. -/
def attended : Bool :=
  match loop.stage with
  | .outside | .calling _ _ _ | .ringing _ _ _ => true
  | .dispatching _ _ | .expiring _ _ => false

end LoopState

/-- The program and the loop take turns, and time passes. -/
inductive LoopEvent (Callback Data : Type) where
  | passes (clock : Timespec)
  | addFd (fd : Int) (mask : BitVec 16) (callback : Callback) (data : Data)
  | removeFd (fd : Int)
  | addTimer (ms : Int) (callback : Callback) (data : Data)
  | removeTimer (id : NodeId)
  | poll (ready : Option (Int → BitVec 16 → BitVec 16))
  | turn
  | resume

/-- An event is handled by its operation. -/
def handleLoop (loop : LoopState Callback Data) : LoopEvent Callback Data → Except Fault (LoopState Callback Data)
  | .passes clock => return { loop with clock := clock }
  | .addFd fd mask callback data => loop.addFd fd mask callback data
  | .removeFd fd => return (← loop.removeFd fd).1
  | .addTimer ms callback data => return loop.addTimer ms callback data
  | .removeTimer id => return loop.removeTimer id
  | .poll ready => return loop.poll ready
  | .turn => loop.turn
  | .resume => loop.resume

/-- The clock does not go back, and `loop_poll` runs outside of callbacks and goes on where it is. -/
def loopEnabled (loop : LoopState Callback Data) : LoopEvent Callback Data → Bool
  | .passes clock => !clock.before loop.clock
  | .addFd _ _ _ _ | .removeFd _ | .addTimer _ _ _ | .removeTimer _ => loop.attended
  | .poll _ =>
      match loop.stage with
      | .outside => true
      | _ => false
  | .turn => !loop.attended
  | .resume =>
      match loop.stage with
      | .calling _ _ _ | .ringing _ _ _ => true
      | _ => false

def polling (Callback Data : Type) : Program (LoopState Callback Data) (LoopEvent Callback Data) Fault where
  initial loop := ∃ clock, loop = .create clock
  enabled loop event := loopEnabled loop event = true
  decideEnabled _ _ := inferInstance
  next := handleLoop

end SwaylockPlugin.EventLoop
