import SwaylockPlugin.Library.Machine
import SwaylockPlugin.Construction.Session

namespace SwaylockPlugin

open Library

/-- The main function blocks in a poll and runs the callbacks of descriptors, before it sweeps the removed ones. -/
def SwaylockState.polling (state : SwaylockState) : Bool :=
  state.phase == .waitPoll || state.phase == .runPoll

/-- The main function runs the callbacks of timers, behind the sweep. -/
def SwaylockState.expiring (state : SwaylockState) : Bool :=
  state.phase == .waitTimers || state.phase == .runTimers

/-- Upstream events are dispatched by a poll and by the roundtrips at the start and the end. -/
def SwaylockState.dispatching (state : SwaylockState) : Bool :=
  state.polling || state.phase == .startup || state.phase == .roundtrip

/-- An output is live and meets a test. -/
def Scene.outputIs (scene : Scene) (id : OutputId) (test : SwaylockSurface → Bool) : Bool :=
  (scene.outputs.cell id).any test

/-- A connection is destroyed in an order that lists each of its objects once. -/
def orderly (scene : Scene) (env : Environment) (client : WlClientId) : Bool :=
  env.owned.isPerm (ownedBy scene client)

/-- The connection of a plugin record, if there is one, is destroyed in order. -/
def orderlyClient (scene : Scene) (env : Environment) (client : Option BgClientId) : Bool :=
  ((client.bind scene.bgClients.cell).map fun record => orderly scene env record.client).getD true

/-- The client of an output, if there is one, is destroyed in order. -/
def orderlyRemoval (scene : Scene) (env : Environment) (name : UInt32) : Bool :=
  ((scene.surfaces.find? fun id => scene.outputIs id fun output => output.outputGlobalName == name).bind
    scene.outputs.cell).all fun output => orderlyClient scene env output.client

/-- A timer that ends a client destroys it in order. -/
def orderlyTimer (scene : Scene) (env : Environment) : TimerCallback → Bool
  | .clientConnectionTimeout client => orderlyClient scene env (some client)
  | .outputRedrawTimeout output =>
      (scene.outputs.cell output).all fun output => orderlyClient scene env (clientForSurface scene output)
  | _ => true

/-- The nested server shows an output to the main client and to the output's own client. -/
def visibleOutput (scene : Scene) (client : WlClientId) (id : OutputId) : Bool :=
  let filtered := ((recordOf scene client).bind scene.bgClients.cell).any fun record =>
    record.uniqueOutput == none || record.uniqueOutput == some id
  match scene.outputs.cell id with
  | some output => output.nestedServerOutput && filtered
  | none => decide (id < scene.outputs.next)

/-- The nested server offers the globals of a request, and the compositor accepts its buffers. -/
def offered (scene : Scene) (client : WlClientId) : Request → Bool
  | .bindOutput output => visibleOutput scene client output
  | .createSurface version => 1 ≤ version && version ≤ 4
  | .createBuffer width height => decide (0 < width) && decide (0 < height)
  | .createImageDesc => scene.globals.colorManagement
  | .createOutputImageDesc _ => scene.globals.colorManagement
  | .surface _ .getViewport => scene.globals.viewporter
  | .surface _ .getFractionalScale => scene.globals.fractionalScale
  | .surface _ .getColorSurface => scene.globals.colorManagement
  | .surface _ .getColorRepresentation => scene.globals.colorRepresentation
  | _ => true

/-- A plugin makes a registry before any other request. -/
def registered (scene : Scene) (client : WlClientId) (request : Request) : Bool :=
  request == .getRegistry ||
    ((recordOf scene client).bind scene.bgClients.cell).any SwaylockBgClient.madeARegistry

/-- A connection is open until it is destroyed or sent an error. -/
def openConnection (scene : Scene) (client : WlClientId) : Bool :=
  (scene.wlClients.cell client).any fun connection => !connection.error

/-- An event for the nested server comes from the plugins, and the other scene events from upstream. -/
def SceneEvent.nested : SceneEvent → Bool
  | .request _ _ | .clientGone _ | .nestedDispatched => true
  | _ => false

/-- The compositor, libwayland and the plugins produce a scene event only under its condition. -/
def sceneEnabled (scene : Scene) (env : Environment) : SceneEvent → Bool
  | .configure output serial _ _ =>
      scene.outputIs output SwaylockSurface.extSessionLockSurface && !(issued output scene.wire).elem serial
  | .outputAdded _ => true
  | .outputRemoved name => orderlyRemoval scene env name
  | .outputGeometry output => scene.outputIs output fun _ => true
  | .outputScale output _ => scene.outputIs output fun _ => true
  | .outputDone output => scene.outputIs output fun _ => true
  | .outputDescReady output => scene.outputIs output SwaylockSurface.colorOutput
  | .preferredScale output scale =>
      scene.outputIs output SwaylockSurface.fractionalScale && decide (0 < scale)
  | .frameDone output => scene.outputIs output SwaylockSurface.frame
  | .backgroundFrameDone callbacks => (scene.frameCallbacks.cell callbacks).isSome
  | .request client request =>
      openConnection scene client && registered scene client request && offered scene client request
  | .clientGone client => (scene.wlClients.cell client).isSome && orderly scene env client
  | .nestedDispatched => true

/-- A seat exists and has the device that an event comes from. -/
def SwaylockState.seatIs (state : SwaylockState) (id : SeatId) (test : SwaylockSeat → Bool) : Bool :=
  (state.seats.cell id).any test

/-- Some event of the loop that was not removed has the given callback. -/
def SwaylockState.awaits (state : SwaylockState) (callback : FdCallback) : Bool :=
  state.scene.eventloop.fdEvents.any fun event => event.callback == callback && !event.removed

/-- The pipes to the sleep watcher are two descriptors that were not open. A number that the loop still lists may be one of
them when its event was removed and not swept yet. -/
def freshPipes (loop : Loop FdCallback TimerCallback) (pipes : Int × Int) : Bool :=
  decide (0 ≤ pipes.1) && decide (0 ≤ pipes.2) && pipes.1 != pipes.2 && !loop.registered pipes.1 &&
    !loop.registered pipes.2

/-- An event occurs only where the main function dispatches it and its source can produce it. -/
def enabled (state : SwaylockState) (occurrence : Occurrence) : Bool :=
  match occurrence.event with
  | .tick now => !now.before state.scene.clock
  | .scene event =>
      if event.nested then
        state.polling && state.scene.display && sceneEnabled state.scene occurrence.env event
      else state.dispatching && sceneEnabled state.scene occurrence.env event
  | .timer timer _ =>
      state.expiring && (state.scene.eventloop.due state.scene.clock timer).any
        (orderlyTimer state.scene occurrence.env)
  | .locked | .finished | .seatAdded | .modifiers _ _ _ | .keymap _ => state.dispatching
  | .seatCapabilities seat _ _ => state.dispatching && state.seatIs seat fun _ => true
  | .key seat _ _ _ _ | .keyboardLeave seat | .repeatInfo seat _ _ =>
      state.dispatching && state.seatIs seat SwaylockSeat.keyboard
  | .pointerEnter seat _ _ | .pointerMotion seat _ _ | .pointerButton seat =>
      state.dispatching && state.seatIs seat SwaylockSeat.pointer
  | .displayFailed => state.polling && state.awaits .displayIn
  | .commReply _ => state.polling && state.awaits .commIn && decide (0 < state.comm.outstanding)
  | .commHangup => state.polling && state.awaits .commIn
  | .terminate => state.polling && state.awaits .termIn
  | .lockNow => state.polling && state.awaits .lockIn
  | .sleepNotice => state.polling && state.awaits .sleepIn
  | .sweep => state.polling
  | .pollDone => state.expiring
  | .start => state.phase == .startup
  | .check _ => state.phase == .waitCheck || state.phase == .runCheck
  | .readiness _ => state.phase == .readiness
  | .daemonize _ => state.phase == .daemonize
  | .startGrace watcher => state.phase == .grace && watcher.all (freshPipes state.scene.eventloop)
  | .armHiddenCheck => state.phase == .hiddenCheck
  | .resume => state.phase == .resume
  | .unlock => state.phase == .unlock

/-- The program starts with no output, no plugin, no seat and the nested display just created. -/
structure InitialState (state : SwaylockState) : Prop where
  outputs : state.scene.outputs = .empty ∧ state.scene.surfaces = []
  plugins : state.scene.bgClients = .empty ∧ state.scene.wlClients = .empty ∧
    state.scene.clients = [] ∧ state.scene.mainClient = none
  surfaces : state.scene.forwardSurfaces = .empty ∧ state.scene.frameCallbacks = .empty
  objects : state.scene.forwardBuffers = .empty ∧ state.scene.imageDescs = .empty ∧
    state.scene.resources = .empty
  display : state.scene.display = true ∧ state.scene.startClientlessMode = false
  wire : state.scene.wire = []
  eventloop : state.scene.eventloop = .create ∧ state.scene.hiddenCheckTimer = none
  timers : state.inputIdleTimer = none ∧ state.authIdleTimer = none ∧ state.clearPasswordTimer = none
  grace : state.graceTimer = none
  indicator : state.authState = .idle ∧ state.inputState = .idle ∧ state.failedAttempts = 0
  lock : state.runDisplay = false ∧ state.locked = false
  keyboard : state.xkb = ⟨false, false, false⟩ ∧ state.seats = .empty
  password : state.password.len = 0 ∧ state.password.bufferLen = 1024 ∧ state.password.buffer.head? = some 0
  comm : state.comm = ⟨0, 0⟩ ∧ state.passwords = []
  main : state.phase = .startup ∧ state.deeds = []

/-- The program starts in this state for given options, upstream globals and descriptors. -/
def startState (args : SwaylockArgs) (globals : ForwardState) (descriptors : Descriptors) : SwaylockState where
  scene := {
    clock := ⟨0, 0⟩
    eventloop := .create
    args := args
    globals := globals
    display := true
    descriptors := descriptors
    startClientlessMode := false
    hiddenCheckTimer := none
    mainClient := none
    clients := []
    surfaces := []
    outputs := .empty
    bgClients := .empty
    wlClients := .empty
    forwardSurfaces := .empty
    forwardBuffers := .empty
    imageDescs := .empty
    nextDescription := 0
    resources := .empty
    frameCallbacks := .empty
    wire := [] }
  inputIdleTimer := none
  authIdleTimer := none
  clearPasswordTimer := none
  password := .allocated 1024
  xkb := ⟨false, false, false⟩
  authState := .idle
  inputState := .idle
  highlightStart := 0
  failedAttempts := 0
  runDisplay := false
  locked := false
  graceTimer := none
  sleepCommR := 0
  sleepCommW := 0
  seats := .empty
  comm := ⟨0, 0⟩
  passwords := []
  phase := .startup
  deeds := []

/-- A program without options starts in this state. -/
def defaultState : SwaylockState := startState .default .complete .opened

theorem startState_initial (args : SwaylockArgs) (globals : ForwardState) (descriptors : Descriptors) :
    InitialState (startState args globals descriptors) where
  outputs := ⟨rfl, rfl⟩
  plugins := ⟨rfl, rfl, rfl, rfl⟩
  surfaces := ⟨rfl, rfl⟩
  objects := ⟨rfl, rfl, rfl⟩
  display := ⟨rfl, rfl⟩
  wire := rfl
  eventloop := ⟨rfl, rfl⟩
  timers := ⟨rfl, rfl, rfl⟩
  grace := rfl
  indicator := ⟨rfl, rfl, rfl⟩
  lock := ⟨rfl, rfl⟩
  keyboard := ⟨rfl, rfl⟩
  password := ⟨rfl, List.length_replicate, rfl⟩
  comm := ⟨rfl, rfl⟩
  main := ⟨rfl, rfl⟩

/-- The program runs the handlers of the events that its environment produces. -/
def swaylock : Program SwaylockState Occurrence Halt where
  initial := InitialState
  enabled state occurrence := enabled state occurrence = true
  decideEnabled _ _ := inferInstance
  next state occurrence := handleEvent state occurrence.env occurrence.event

end SwaylockPlugin
