import SwaylockPlugin.Construction.Program

namespace SwaylockPlugin

open Library

/-- The sleep watcher stands at one of these places when it may be scheduled. -/
inductive WatcherPhase where
  | absent
  | starting
  | polling
  | reading
  | exited
  deriving DecidableEq

/-- The sleep watcher holds its lock and its end of the pipe to the main process, or has closed them. -/
structure Watcher where
  phase : WatcherPhase
  sleepLockFd : Bool
  commW : Bool
  deriving DecidableEq

namespace Watcher

/-- No sleep watcher runs before the grace period. -/
def absent : Watcher := ⟨.absent, false, false⟩

/-- A sleep watcher that was just spawned has its pipe and no lock. -/
def spawned : Watcher := ⟨.starting, false, true⟩

/-- The end of the process closes its descriptors, whatever ended it. -/
def exit : Watcher := ⟨.exited, false, false⟩

/-- This is the `acquire_inhibitor_lock` operation for a lock that is granted or not. -/
def acquireInhibitorLock (watcher : Watcher) (granted : Bool) : Watcher :=
  if granted then { watcher with sleepLockFd := true } else watcher

def releaseInhibitorLock (watcher : Watcher) : Watcher := { watcher with sleepLockFd := false }

/-- This is the part of `prepare_for_sleep` before its read, which follows the user data to the state. -/
def prepareForSleep (watcher : Watcher) (userdata : Option Unit) (goingDown granted : Bool) :
    Handled Watcher := do
  let _ ← demand .invalidPointer userdata
  if goingDown then do
    require .assertion watcher.commW
    return { watcher with commW := false, phase := .reading }
  else return watcher.acquireInhibitorLock granted

/-- This is the part of `prepare_for_sleep` after its read, which releases the lock whatever was read. -/
def finishPrepareForSleep (watcher : Watcher) : Watcher :=
  { watcher with phase := .polling }.releaseInhibitorLock

/-- This is the user data that `run` registers together with `prepare_for_sleep`. -/
def registeredUserdata : Option Unit := none

end Watcher

/-- The sleep watcher is started, signalled, told by its pipe, or ended from outside. -/
inductive WatcherEvent where
  | run (opened matched granted : Bool)
  | prepareForSleep (goingDown granted : Bool)
  | pipeClosed
  | readReturns (failed : Bool)
  | fails
  deriving DecidableEq

/-- The sleep watcher is in the middle of its work. -/
def Watcher.running (watcher : Watcher) : Bool :=
  watcher.phase == .starting || watcher.phase == .polling || watcher.phase == .reading

/-- The sleep watcher sees an event only where it waits for it, and its pipe ends with its writer. -/
def Watcher.enabled (watcher : Watcher) (writer : Bool) : WatcherEvent → Bool
  | .run _ _ _ => watcher.phase == .starting
  | .prepareForSleep _ _ => watcher.phase == .polling
  | .pipeClosed => watcher.phase == .polling && !writer
  | .readReturns failed => watcher.phase == .reading && (failed || !writer)
  | .fails => watcher.running

/-- The sleep watcher handles an event or crashes. -/
def Watcher.handle (watcher : Watcher) : WatcherEvent → Handled Watcher
  | .run opened matched granted =>
      if opened && matched then
        return { watcher with phase := .polling }.acquireInhibitorLock granted
      else return .exit
  | .prepareForSleep goingDown granted =>
      watcher.prepareForSleep Watcher.registeredUserdata goingDown granted
  | .pipeClosed => return .exit
  | .readReturns _ => return watcher.finishPrepareForSleep
  | .fails => return .exit

/-- The main process runs until it ends, next to its sleep watcher. -/
structure Watch where
  main : Option SwaylockState
  watcher : Watcher

namespace Watch

/-- The main process keeps its end of the pipe to the watcher open during the grace period. -/
def writer (watch : Watch) : Bool := watch.main.any fun state => decide (0 ≤ state.sleepCommW)

/-- The grace period is over when its timer is gone or the main process has ended. -/
def graceOver (watch : Watch) : Bool := watch.main.all fun state => state.graceTimer.isNone

end Watch

/-- A step belongs to the main process, ends it, or belongs to the sleep watcher. -/
inductive WatchEvent where
  | main (occurrence : Occurrence)
  | mainEnds
  | watcher (event : WatcherEvent)

/-- The main process hears of sleep only once the watcher closed its pipe. -/
def noticed (watcher : Watcher) : Event → Bool
  | .sleepNotice => !watcher.commW
  | _ => true

/-- A step is enabled where the process that takes it is. -/
def Watch.enabled (watch : Watch) : WatchEvent → Bool
  | .main occurrence =>
      watch.main.any fun state => SwaylockPlugin.enabled state occurrence && noticed watch.watcher occurrence.event
  | .mainEnds => watch.main.isSome
  | .watcher event => watch.watcher.enabled watch.writer event

/-- A grace period that starts spawns the sleep watcher. -/
def spawnWatcher (watcher : Watcher) (started : SwaylockState) : Event → Watcher
  | .startGrace (some _) => if started.graceTimer.isSome then .spawned else watcher
  | _ => watcher

/-- A process that fails is gone, and the other one goes on. -/
def Watch.next (watch : Watch) : WatchEvent → Handled Watch
  | .main occurrence => do
      let state ← demand .invalidPointer watch.main
      match handleEvent state occurrence.env occurrence.event with
      | .ok next => return ⟨some next, spawnWatcher watch.watcher next occurrence.event⟩
      | .error _ => return { watch with main := none }
  | .mainEnds => return { watch with main := none }
  | .watcher event =>
      match watch.watcher.handle event with
      | .ok watcher => return { watch with watcher := watcher }
      | .error _ => return { watch with watcher := .exit }

/-- The main process and its sleep watcher run side by side. -/
def sleepWatch : Program Watch WatchEvent Halt where
  initial watch := (∃ state, InitialState state ∧ watch.main = some state) ∧ watch.watcher = .absent
  enabled watch event := watch.enabled event = true
  decideEnabled _ _ := inferInstance
  next := Watch.next

end SwaylockPlugin
