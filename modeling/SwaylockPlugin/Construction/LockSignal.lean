import SwaylockPlugin.Construction.MainLoop

namespace SwaylockPlugin

open Library

/-- The main function is outside of `loop_poll`, blocked in its poll, or runs callbacks and may still owe `lock_in`. -/
inductive PollStage where
  | outside
  | waiting
  | dispatching (lockReady : Bool)
  deriving DecidableEq

/-- A poll reports what is ready, or a signal interrupts it and the earlier reports are kept or cleared. -/
inductive PollReturn where
  | ready
  | interrupted (kept : Bool)

/-- The lock runs together with the pipe of SIGUSR2, which keeps every written byte, and with its slot in the poll set. -/
structure Signalled where
  main : SwaylockState
  pipe : Nat
  revents : Bool
  stage : PollStage

/-- An event of the lock occurs, a SIGUSR2 arrives, a poll starts, or a poll returns. -/
inductive SignalEvent where
  | occur (occurrence : Occurrence)
  | doSigusr2 (written : Bool)
  | poll
  | returns (outcome : PollReturn)

namespace Signalled

/-- Callbacks run between the return of a poll and its end, and `lock_in` runs once where its pipe was reported. -/
def admits (signalled : Signalled) (event : Event) : Bool :=
  event.ticks || match signalled.stage with
    | .outside => !signalled.main.polling || event.flushes
    | .waiting => false
    | .dispatching lockReady => (signalled.main.polling || signalled.main.expiring) && match event with
      | .lockNow => lockReady
      | .sweep | .pollDone => !lockReady
      | _ => true

/-- A poll reports the pipe of SIGUSR2 as long as that holds a byte. -/
def reports (signalled : Signalled) : PollReturn → Bool
  | .ready => decide (0 < signalled.pipe)
  | .interrupted kept => kept && signalled.revents

end Signalled

/-- The handler of SIGUSR2 is installed at the start, and a write fails only where the pipe is full. -/
def signalEnabled (signalled : Signalled) : SignalEvent → Bool
  | .occur occurrence => enabled signalled.main occurrence && signalled.admits occurrence.event
  | .doSigusr2 written => signalled.main.phase != .startup && (written || decide (0 < signalled.pipe))
  | .poll => signalled.stage == .outside && signalled.main.polling
  | .returns _ => signalled.stage == .waiting

/-- The call of `lock_in` settles the report, and the end of a poll leads out of it. -/
def PollStage.after (stage : PollStage) : Event → PollStage
  | .lockNow => .dispatching false
  | .pollDone => .outside
  | _ => stage

/-- The main function handles an event, `do_sigusr2` writes a byte, and `loop_poll` calls `poll` and reads its reports. -/
def handleSignalled (signalled : Signalled) : SignalEvent → Handled Signalled
  | .occur occurrence => do
      let main ← handleEvent signalled.main occurrence.env occurrence.event
      return { signalled with main := main, stage := signalled.stage.after occurrence.event }
  | .doSigusr2 written => return { signalled with pipe := if written then signalled.pipe + 1 else signalled.pipe }
  | .poll => return { signalled with stage := .waiting }
  | .returns outcome =>
      let revents := signalled.reports outcome
      return { signalled with
        revents := revents
        stage := .dispatching (revents && signalled.main.awaits .lockIn) }

/-- The lock starts with an empty pipe and outside of a poll. -/
def signalledLock : Program Signalled SignalEvent Halt where
  initial signalled := InitialState signalled.main ∧ signalled.pipe = 0 ∧ signalled.revents = false ∧
    signalled.stage = .outside
  enabled signalled event := signalEnabled signalled event = true
  decideEnabled _ _ := inferInstance
  next := handleSignalled

end SwaylockPlugin
