import SwaylockPlugin.Library.Binary32
import SwaylockPlugin.Library.Machine
import SwaylockPlugin.Construction.Dispatch
import SwaylockPlugin.Construction.Seat

namespace SwaylockPlugin

open Library

/-- These events reach the scene through the upstream or the nested connection. -/
inductive SceneEvent where
  | configure (output : OutputId) (serial width height : UInt32)
  | outputAdded (name : UInt32)
  | outputRemoved (name : UInt32)
  | outputGeometry (output : OutputId)
  | outputScale (output : OutputId) (factor : Int32)
  | outputDone (output : OutputId)
  | outputDescReady (output : OutputId)
  | preferredScale (output : OutputId) (scale : UInt32)
  | frameDone (output : OutputId)
  | backgroundFrameDone (callbacks : CallbackId)
  | request (client : WlClientId) (request : Request)
  | clientGone (client : WlClientId)
  | nestedDispatched
  deriving DecidableEq

/-- The handlers of an input event draw a random number and may fail to write to the backend. -/
structure InputResult where
  random : Nat
  written : Bool
  deriving DecidableEq

/-- These events reach the lock itself or are steps of the main function. -/
inductive Event where
  | tick (now : Timespec)
  | scene (event : SceneEvent)
  | timer (timer : TimerId) (result : InputResult)
  | locked
  | finished
  | seatAdded
  | seatCapabilities (seat : SeatId) (pointer keyboard : Bool)
  | keymap (loaded : Bool)
  | key (seat : SeatId) (pressed : Bool) (sym codepoint : UInt32) (result : InputResult)
  | keyboardLeave (seat : SeatId)
  | modifiers (layoutSame capsLock control : Bool)
  | repeatInfo (seat : SeatId) (rate delay : Int)
  | pointerEnter (seat : SeatId) (x y : WlFixed)
  | pointerMotion (seat : SeatId) (x y : WlFixed)
  | pointerButton (seat : SeatId)
  | displayFailed
  | commReply (success : Bool)
  | commHangup
  | terminate
  | lockNow
  | sleepNotice
  | sweep
  | pollDone
  | start
  | check (flushed : Bool)
  | readiness (written : Bool)
  | daemonize (succeeded : Bool)
  | startGrace (watcher : Option (Int × Int))
  | armHiddenCheck
  | resume
  | unlock
  deriving DecidableEq

/-- An occurrence is an event together with what the environment decides during it. -/
structure Occurrence where
  event : Event
  env : Environment

/-- An event may occur in the obliging environment. -/
def Event.obliged (event : Event) : Occurrence := ⟨event, .obliging⟩

/-- This is the part of `dispatch_nested` that follows the dispatch. -/
def afterDispatchNested (scene : Scene) (env : Environment) : Scene :=
  if scene.startClientlessMode then setupClientlessMode scene env else scene

/-- An event of the scene runs its handler. -/
def handleScene (scene : Scene) (env : Environment) (runDisplay : Bool) : SceneEvent → Handled Scene
  | .configure output serial width height =>
      extSessionLockSurfaceV1HandleConfigure scene env output serial width height
  | .outputAdded name => return handleGlobalOutput scene name
  | .outputRemoved name => handleGlobalRemove scene env name
  | .outputGeometry output => handleWlOutputGeometry scene runDisplay output
  | .outputScale output factor => handleWlOutputScale scene runDisplay output factor
  | .outputDone output => handleWlOutputDone scene env runDisplay output
  | .outputDescReady output => handleOutputDescReady scene env runDisplay output
  | .preferredScale output scale => fractScalePreferredScale scene output scale
  | .frameDone output => surfaceFrameHandleDone scene output
  | .backgroundFrameDone callbacks => bgFrameHandleDone scene env callbacks
  | .request client request => handleRequest scene client request
  | .clientGone client => clientGone scene env client
  | .nestedDispatched => return afterDispatchNested scene env

/-- The pipes to the sleep watcher are closed. -/
def closeSleepComm (state : SwaylockState) : SwaylockState :=
  { state with sleepCommR := -1, sleepCommW := -1 }

def graceTimeout (state : SwaylockState) : SwaylockState :=
  closeSleepComm ({ state with graceTimer := none }.removeFd state.sleepCommR)

def lockIn (state : SwaylockState) : SwaylockState :=
  match state.graceTimer with
  | none => state
  | some timer =>
      let state := { state.removeTimer? (some timer) with graceTimer := none }
      closeSleepComm (state.removeFd state.sleepCommR)

/-- This is the `sleep_in` operation, which removes the descriptor after it was reset. -/
def sleepIn (state : SwaylockState) : SwaylockState :=
  let state := match state.graceTimer with
    | none => state
    | some timer => closeSleepComm { state.removeTimer? (some timer) with graceTimer := none }
  state.removeFd state.sleepCommR

/-- This is the `comm_in` operation for a descriptor with a reply. -/
def commIn (state : SwaylockState) (success : Bool) : SwaylockState :=
  let state := { state with comm := { state.comm with replies := state.comm.replies + 1 } }
  if success then { state with runDisplay := false }
  else
    let state := scheduleAuthIdle { state with authState := .invalid }
    { state with failedAttempts := state.failedAttempts + 1 }.damage

/-- A timer callback runs with its data. -/
def runTimer (state : SwaylockState) (env : Environment) (result : InputResult) :
    TimerCallback → Handled SwaylockState
  | .setInputIdle => return setInputIdle state
  | .setAuthIdle => return setAuthIdle state
  | .clearPassword => return clearPassword state
  | .hiddenCheckTimeout => return { state with scene := hiddenCheckTimeout state.scene env }
  | .graceTimeout => return graceTimeout state
  | .clientConnectionTimeout client => do
      let scene ← clientConnectionTimeout state.scene env client
      return { state with scene := scene }
  | .outputRedrawTimeout output => do
      let scene ← outputRedrawTimeout state.scene env output
      return { state with scene := scene }
  | .keyboardRepeat seat => keyboardRepeat state seat result.random result.written

/-- The loop frees a timer after its callback returned. -/
def freeTimer (state : SwaylockState) (timer : TimerId) : SwaylockState :=
  { state with scene := { state.scene with eventloop := state.scene.eventloop.freeTimer timer } }

/-- A timer that is due runs its callback and is freed. -/
def dispatchTimer (state : SwaylockState) (env : Environment) (timer : TimerId) (result : InputResult) :
    Handled SwaylockState := do
  let callback ← demand .invalidPointer (state.scene.eventloop.due state.scene.clock timer)
  let state ← runTimer state env result callback
  return freeTimer state timer

/-- The main function adds its descriptors to the loop. -/
def addDescriptors (state : SwaylockState) : SwaylockState :=
  let fds := state.scene.descriptors
  ((((state.addFd fds.display .displayIn).addFd fds.comm .commIn).addFd fds.nested
    .dispatchNested).addFd fds.sigusr .termIn).addFd fds.sigusr2 .lockIn

/-- The main function creates a lock surface for every output. -/
def createSurfaces (scene : Scene) (env : Environment) : Handled Scene :=
  scene.surfaces.foldlM (fun scene id => do
    let output ← scene.output id
    check (!output.created)
    createSurface scene env id) scene

/-- The main function starts one plugin for all outputs unless each output has its own. -/
def startMainPlugin (scene : Scene) (env : Environment) : Handled Scene :=
  if scene.args.pluginPerOutput then return scene
  else do
    let (scene, started) ← runPluginCommand scene env none
    if started then return scene else return setupClientlessMode scene env

/-- The main function registers its descriptors, creates the outputs and starts the plugin. -/
def startDisplay (state : SwaylockState) (env : Environment) : Handled SwaylockState := do
  let state := addDescriptors { state with sleepCommR := -1, sleepCommW := -1 }
  let scene ← createSurfaces state.scene env
  let scene ← startMainPlugin scene env
  return { state with scene := scene, runDisplay := true, phase := .waitCheck }

/-- The main function records what it did and in which lock state. -/
def SwaylockState.does (state : SwaylockState) (deed : Deed) : SwaylockState :=
  { state with deeds := state.deeds ++ [⟨deed, state.locked⟩] }

/-- The condition of a main loop is checked and the connection flushed before a poll. -/
def checkLoop (state : SwaylockState) (flushed : Bool) : SwaylockState :=
  match state.phase with
  | .waitCheck =>
      if !state.locked && state.runDisplay && flushed then { state with phase := .waitPoll }
      else { state with phase := .readiness }
  | _ =>
      if state.runDisplay && flushed then { state with phase := .runPoll }
      else { state with phase := .resume }

/-- The readiness newline is written where a descriptor was given. -/
def writeReadiness (state : SwaylockState) (written : Bool) : Handled SwaylockState :=
  if 0 ≤ state.scene.args.readyFd then
    if written then
      let scene := { state.scene with args := { state.scene.args with readyFd := -1 } }
      return { state.does .readinessWritten with scene := scene, phase := .daemonize }
    else throw (.exited 2)
  else return { state with phase := .daemonize }

/-- The parent process is released where the lock runs in the background. -/
def releaseParent (state : SwaylockState) (succeeded : Bool) : Handled SwaylockState :=
  if state.scene.args.daemonize then
    if succeeded then return { state.does .parentReleased with phase := .grace }
    else throw (.exited 1)
  else return { state with phase := .grace }

/-- This is the largest `int`. -/
def intMax : Int := 2147483647

/-- The grace timer runs for the product of single precision, rounded up to a millisecond and cut at the largest `int`. -/
def graceDelay (graceTime : Rat) : Int :=
  let delayMs := (roundBinary32 (graceTime * 1000)).ceil
  if 2147483648 ≤ delayMs then intMax else delayMs

/-- The grace period starts where a grace time was given and the sleep watcher runs. -/
def startGracePeriod (state : SwaylockState) (watcher : Option (Int × Int)) : SwaylockState :=
  if 0 < state.scene.args.graceTime then
    match watcher with
    | none => { state with phase := .hiddenCheck }
    | some (sleepCommR, sleepCommW) =>
        let armed := state.addTimer (graceDelay state.scene.args.graceTime) .graceTimeout
        let state := { armed.1 with
          sleepCommR := sleepCommR
          sleepCommW := sleepCommW
          graceTimer := some armed.2 }
        { (state.addFd sleepCommR .sleepIn).does .graceStarted with phase := .hiddenCheck }
  else { state with phase := .hiddenCheck }

def handleEvent (state : SwaylockState) (env : Environment) : Event → Handled SwaylockState
  | .tick now => return { state with scene := { state.scene with clock := now } }
  | .scene event => do
      let scene ← handleScene state.scene env state.runDisplay event
      return { state with scene := scene }
  | .timer timer result => dispatchTimer state env timer result
  | .locked => return { state with locked := true }
  | .finished => throw (.exited 2)
  | .seatAdded => return { state with seats := state.seats.alloc .allocated }
  | .seatCapabilities seat pointer keyboard => seatHandleCapabilities state seat pointer keyboard
  | .keymap loaded => return keyboardKeymap state loaded
  | .key seat pressed sym codepoint result =>
      keyboardKey state seat pressed sym codepoint result.random result.written
  | .keyboardLeave seat => stopRepeat state seat
  | .modifiers layoutSame capsLock control => return keyboardModifiers state layoutSame capsLock control
  | .repeatInfo seat rate delay => keyboardRepeatInfo state seat rate delay
  | .pointerEnter seat x y => wlPointerEnter state seat x y
  | .pointerMotion seat x y => wlPointerMotion state seat x y
  | .pointerButton _ => return wlPointerButton state
  | .displayFailed => return { state with runDisplay := false }
  | .commReply success => return commIn state success
  | .commHangup => throw (.exited 1)
  | .terminate => return { state with runDisplay := false }
  | .lockNow => return lockIn state
  | .sleepNotice => return sleepIn state
  | .sweep => return { state with
      scene := { state.scene with eventloop := state.scene.eventloop.sweep }
      phase := if state.phase = .waitPoll then .waitTimers else .runTimers }
  | .pollDone => return { state with phase := if state.phase = .waitTimers then .waitCheck else .runCheck }
  | .start => startDisplay state env
  | .check flushed => return checkLoop state flushed
  | .readiness written => writeReadiness state written
  | .daemonize succeeded => releaseParent state succeeded
  | .startGrace watcher => return startGracePeriod state watcher
  | .armHiddenCheck => return { state with scene := armHiddenCheck state.scene, phase := .runCheck }
  | .resume => return { state with scene := resumeAllClients state.scene env, phase := .unlock }
  | .unlock => return { state.does .unlocked with phase := .roundtrip }

end SwaylockPlugin
