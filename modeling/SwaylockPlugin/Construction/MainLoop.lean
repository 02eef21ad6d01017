import SwaylockPlugin.Construction.Program

namespace SwaylockPlugin

open Library

/-- The main function is outside a poll, inside one, or inside a dispatch of the nested server. -/
inductive LoopStage where
  | flushing
  | polling
  | nested
  deriving DecidableEq

/-- A loop keeps the state of the lock together with its stage. -/
structure MainState where
  state : SwaylockState
  stage : LoopStage

/-- An event of the lock occurs, a poll starts, or a poll starts to dispatch the nested server. -/
inductive MainEvent where
  | occur (occurrence : Occurrence)
  | poll
  | dispatchNested

/-- A clock may advance at any time. -/
def Event.ticks : Event → Bool
  | .tick _ => true
  | _ => false

/-- The flush of the plugin connections before a poll destroys those that cannot be written to. -/
def Event.flushes : Event → Bool
  | .scene (.clientGone _) => true
  | _ => false

/-- These events come from a dispatch of the nested server or end it. -/
def Event.dispatches : Event → Bool
  | .scene event => event.nested
  | _ => false

/-- An event occurs in the stage that produces it. -/
def MainState.admits (main : MainState) (event : Event) : Bool :=
  event.ticks || match main.stage with
    | .flushing => !main.state.polling || event.flushes
    | .polling => !event.dispatches
    | .nested => event.dispatches

/-- A poll starts after the connections were flushed, and it dispatches the nested server while that has a descriptor. -/
def mainEnabled (main : MainState) : MainEvent → Bool
  | .occur occurrence => enabled main.state occurrence && main.admits occurrence.event
  | .poll => main.stage == .flushing && main.state.polling
  | .dispatchNested => main.stage == .polling && main.state.scene.display && main.state.awaits .dispatchNested

/-- The end of a dispatch and the end of a poll lead back to the stage before. -/
def LoopStage.after (stage : LoopStage) : Event → LoopStage
  | .scene .nestedDispatched => .polling
  | .pollDone => .flushing
  | _ => stage

/-- The main function handles an event, calls `loop_poll` or calls `wl_event_loop_dispatch`. -/
def handleMain (main : MainState) : MainEvent → Handled MainState
  | .occur occurrence => do
      let state ← handleEvent main.state occurrence.env occurrence.event
      return ⟨state, main.stage.after occurrence.event⟩
  | .poll => return { main with stage := .polling }
  | .dispatchNested => return { main with stage := .nested }

/-- The main function starts outside of a poll. -/
def mainLoop : Program MainState MainEvent Halt where
  initial main := InitialState main.state ∧ main.stage = .flushing
  enabled main event := mainEnabled main event = true
  decideEnabled _ _ := inferInstance
  next := handleMain

end SwaylockPlugin
