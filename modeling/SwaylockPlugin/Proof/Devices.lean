import SwaylockPlugin.Proof.EventFootprints
import SwaylockPlugin.Proof.Indicator
import SwaylockPlugin.Proof.Timers

namespace SwaylockPlugin

open Library

/-- The polled descriptors stay as they are unless the nested one leaves with its display. -/
inductive PollKept (first second : Scene) : Prop
  | same : second.eventloop.fds = first.eventloop.fds → second.eventloop.fdEvents = first.eventloop.fdEvents →
      second.display = first.display → PollKept first second
  | closed : second.eventloop.fds = first.eventloop.fds →
      second.eventloop.fdEvents =
        Loop.markFd first.descriptors.nested first.eventloop.fds first.eventloop.fdEvents →
      first.display = true → second.display = false → PollKept first second

theorem PollKept.trans {first second third : Scene} (one : PollKept first second) (two : PollKept second third)
    (descriptors : second.descriptors = first.descriptors) : PollKept first third := by
  cases one with
  | same fds events display =>
      cases two with
      | same fds' events' display' => exact .same (fds'.trans fds) (events'.trans events) (display'.trans display)
      | closed fds' events' up down =>
          rw [descriptors, fds, events] at events'
          exact .closed (fds'.trans fds) events' (display ▸ up) down
  | closed fds events up down =>
      cases two with
      | same fds' events' display => exact .closed (fds'.trans fds) (events'.trans events) up (display.trans down)
      | closed _ _ stillUp _ =>
          rw [down] at stillUp
          cases stillUp

/-- A handler of the scene or of the indicator keeps the options and starts no key repeat. -/
structure LoopKept (first second : Scene) : Prop where
  grace : second.args.graceTime = first.args.graceTime
  hysteresis : second.args.gracePointerHysteresis = first.args.gracePointerHysteresis
  descriptors : second.descriptors = first.descriptors
  polled : PollKept first second
  timed : first.eventloop.WellTimed → second.eventloop.WellTimed
  repeats : first.eventloop.WellTimed → ∀ timer seat, second.eventloop.Armed timer (.keyboardRepeat seat) →
    first.eventloop.Armed timer (.keyboardRepeat seat)

namespace LoopKept

variable {first second third : Scene}

theorem same (args : second.args = first.args) (descriptors : second.descriptors = first.descriptors)
    (loop : second.eventloop = first.eventloop) (display : second.display = first.display) :
    LoopKept first second where
  grace := by rw [args]
  hysteresis := by rw [args]
  descriptors := descriptors
  polled := .same (by rw [loop]) (by rw [loop]) display
  timed well := loop ▸ well
  repeats _ timer seat armed := loop ▸ armed

theorem refl (scene : Scene) : LoopKept scene scene := same rfl rfl rfl rfl

theorem trans (one : LoopKept first second) (two : LoopKept second third) : LoopKept first third where
  grace := two.grace.trans one.grace
  hysteresis := two.hysteresis.trans one.hysteresis
  descriptors := two.descriptors.trans one.descriptors
  polled := one.polled.trans two.polled one.descriptors
  timed well := two.timed (one.timed well)
  repeats well timer seat armed := one.repeats well timer seat (two.repeats (one.timed well) timer seat armed)

theorem addTimer (scene : Scene) (ms : Int) {callback : TimerCallback}
    (other : ∀ seat, callback ≠ .keyboardRepeat seat) : LoopKept scene (scene.addTimer ms callback).1 where
  grace := rfl
  hysteresis := rfl
  descriptors := rfl
  polled := .same rfl rfl rfl
  timed well := well.addTimer scene.clock ms callback
  repeats _ timer seat armed := by
    rcases (Loop.armed_addTimer scene.clock ms callback).mp armed with ⟨_, same⟩ | old
    · exact absurd same.symm (other seat)
    · exact old

theorem removeTimer (scene : Scene) (timer : TimerId) : LoopKept scene (scene.removeTimer timer) where
  grace := rfl
  hysteresis := rfl
  descriptors := rfl
  polled := .same rfl rfl rfl
  timed well := well.removeTimer timer
  repeats well _ _ armed := (Loop.Armed.of_removeTimer well armed).1

theorem freeTimer (scene : Scene) (timer : TimerId) :
    LoopKept scene { scene with eventloop := scene.eventloop.freeTimer timer } where
  grace := rfl
  hysteresis := rfl
  descriptors := rfl
  polled := .same rfl rfl rfl
  timed well := well.filter _
  repeats _ _ _ armed := armed.of_freeTimer.1

theorem of_change {effect : Effect} (change : Change first effect second) : LoopKept first second := by
  cases change with
  | arm ms onScene =>
      apply addTimer
      rintro seat rfl
      cases onScene
  | armIndicator ms onIndicator =>
      apply addTimer
      rintro seat rfl
      cases onIndicator
  | disarm timer => exact removeTimer first timer
  | display up =>
      exact { refl first with
        polled := .closed rfl rfl up rfl
        timed := fun well => ⟨well.below, well.nodup⟩
        repeats := fun _ _ _ armed => armed }
  | _ => exact same rfl rfl rfl rfl

theorem of_changes {effects : List Effect} (changes : Changes effects first second) : LoopKept first second := by
  induction changes with
  | refl => exact refl first
  | step _ _ change ih => exact ih.trans (of_change change)

end LoopKept

/-- A handler in the background touches neither the devices nor the grace period. -/
structure Background (first second : SwaylockState) : Prop where
  scene : LoopKept first.scene second.scene
  keymap : second.xkb.state = first.xkb.state
  seats : second.seats = first.seats
  graceTimer : second.graceTimer = first.graceTimer
  pipes : second.sleepCommR = first.sleepCommR ∧ second.sleepCommW = first.sleepCommW

namespace Background

variable {first second third : SwaylockState}

theorem refl (state : SwaylockState) : Background state state := ⟨.refl _, rfl, rfl, rfl, rfl, rfl⟩

theorem trans (one : Background first second) (two : Background second third) : Background first third where
  scene := one.scene.trans two.scene
  keymap := two.keymap.trans one.keymap
  seats := two.seats.trans one.seats
  graceTimer := two.graceTimer.trans one.graceTimer
  pipes := ⟨two.pipes.1.trans one.pipes.1, two.pipes.2.trans one.pipes.2⟩

theorem of_indicates (indicates : Indicates first second) : Background first second where
  scene := .of_changes indicates.scene
  keymap := by rw [indicates.xkb]
  seats := indicates.seats
  graceTimer := indicates.graceTimer
  pipes := indicates.pipes

theorem of_changes {effects : List Effect} {scene : Scene} (changes : Changes effects first.scene scene) :
    Background first { first with scene := scene } :=
  ⟨.of_changes changes, rfl, rfl, rfl, rfl, rfl⟩

theorem freeTimer (state : SwaylockState) (timer : TimerId) : Background state (freeTimer state timer) :=
  ⟨.freeTimer state.scene timer, rfl, rfl, rfl, rfl, rfl⟩

theorem removeTimer? (state : SwaylockState) (timer : Option TimerId) : Background state (state.removeTimer? timer) :=
  .of_indicates (.removeTimer? state timer)

end Background

/-- These events change a device or the polled descriptors directly. -/
def Event.direct : Event → Bool
  | .seatAdded | .seatCapabilities _ _ _ | .keymap _ | .key _ _ _ _ _ | .keyboardLeave _ | .repeatInfo _ _ _ => true
  | .pointerEnter _ _ _ | .pointerMotion _ _ _ | .sleepNotice | .startGrace _ | .start | .sweep => true
  | _ => false

/-- A seat whose repeat timer is removed repeats no key. -/
def SwaylockState.stopSeat (state : SwaylockState) (id : SeatId) (timer : Option TimerId) : SwaylockState :=
  (state.removeTimer? timer).setSeat id fun seat => { seat with repeatTimer := none }

/-- A seat whose repeat timer is armed repeats a key. -/
def SwaylockState.armSeat (state : SwaylockState) (id : SeatId) (ms : Int)
    (change : SwaylockSeat → SwaylockSeat) : SwaylockState :=
  (state.addTimer ms (.keyboardRepeat id)).1.setSeat id fun seat =>
    { change seat with repeatTimer := some state.scene.eventloop.nextTimer }

/-- A key press stores what is repeated. -/
def SwaylockSeat.repeating (sym codepoint : UInt32) (seat : SwaylockSeat) : SwaylockSeat :=
  { seat with repeatSym := sym, repeatCodepoint := codepoint }

/-- An event changes the devices and the grace period in one of these ways. -/
inductive DeviceStep (state : SwaylockState) : Event → SwaylockState → Prop
  | background {event : Event} {next : SwaylockState} (other : event.direct = false)
      (quiet : Background state next) : DeviceStep state event next
  | graceOver {event : Event} {middle next : SwaylockState} (other : event.direct = false)
      (ends : state.expiring = true ∨ event = .lockNow) (before : Background state middle)
      (phase : middle.phase = state.phase)
      (after : Background (graceTimeout middle) next) : DeviceStep state event next
  | sleepNotice : DeviceStep state .sleepNotice (sleepIn state)
  | startGrace (watcher : Option (Int × Int)) (due : state.phase = .grace)
      (fresh : watcher.all (freshPipes state.scene.eventloop) = true) :
      DeviceStep state (.startGrace watcher) (startGracePeriod state watcher)
  | start {next : SwaylockState} (due : state.phase = .startup) (runs : next.phase = .waitCheck)
      (quiet : Background (addDescriptors { state with sleepCommR := -1, sleepCommW := -1 }) next) :
      DeviceStep state .start next
  | sweep (polling : state.polling = true) : DeviceStep state .sweep { state with
      scene := { state.scene with eventloop := state.scene.eventloop.sweep }
      phase := if state.phase = .waitPoll then .waitTimers else .runTimers }
  | seatAdded : DeviceStep state .seatAdded { state with seats := state.seats.alloc .allocated }
  | seatCapabilities (id : SeatId) (pointer keyboard : Bool) :
      DeviceStep state (.seatCapabilities id pointer keyboard)
        (state.setSeat id fun seat => { seat with pointer := pointer, keyboard := keyboard })
  | keymap (loaded : Bool) : DeviceStep state (.keymap loaded) (keyboardKeymap state loaded)
  | keyIgnored {id : SeatId} {pressed : Bool} {sym codepoint : UInt32} {result : InputResult} {next : SwaylockState}
      (ignored : state.xkb.state = false ∨ pressed = true) (quiet : Background state next) :
      DeviceStep state (.key id pressed sym codepoint result) next
  | keyStopped {id : SeatId} {pressed : Bool} {sym codepoint : UInt32} {result : InputResult}
      {handled : SwaylockState} {seat : SwaylockSeat} (quiet : Background state handled)
      (present : state.seats.cell id = some seat) :
      DeviceStep state (.key id pressed sym codepoint result) (handled.stopSeat id seat.repeatTimer)
  | keyArmed {id : SeatId} {sym codepoint : UInt32} {result : InputResult} {handled : SwaylockState}
      {seat : SwaylockSeat} (loaded : state.xkb.state = true) (has : seat.keyboard = true)
      (quiet : Background state handled)
      (present : state.seats.cell id = some seat) (repeats : 0 < seat.repeatPeriodMs)
      (late : state.graceTimer = none) :
      DeviceStep state (.key id true sym codepoint result)
        ((handled.stopSeat id seat.repeatTimer).armSeat id seat.repeatDelayMs (.repeating sym codepoint))
  | keyboardLeave {id : SeatId} {seat : SwaylockSeat} (present : state.seats.cell id = some seat) :
      DeviceStep state (.keyboardLeave id) (state.stopSeat id seat.repeatTimer)
  | repeatInfo (id : SeatId) (rate delay : Int) :
      DeviceStep state (.repeatInfo id rate delay) (state.setSeat id fun seat => { seat with
        repeatPeriodMs := if rate ≤ 0 then -1 else 1000 / rate
        repeatDelayMs := delay })
  | repeated {timer : TimerId} {result : InputResult} {id : SeatId} {seat : SwaylockSeat} {middle : SwaylockState}
      (due : state.scene.eventloop.due state.scene.clock timer = some (.keyboardRepeat id))
      (present : state.seats.cell id = some seat)
      (quiet : Background (state.armSeat id seat.repeatPeriodMs fun seat => seat) middle) :
      DeviceStep state (.timer timer result) (freeTimer middle timer)
  | pointerEnter {id : SeatId} {x y : WlFixed} {next : SwaylockState} (entered : wlPointerEnter state id x y = .ok next) :
      DeviceStep state (.pointerEnter id x y) next
  | pointerMotion {id : SeatId} {x y : WlFixed} {next : SwaylockState} (moved : wlPointerMotion state id x y = .ok next) :
      DeviceStep state (.pointerMotion id x y) next

theorem keyboardKey_deviceStep (state : SwaylockState) (id : SeatId) (pressed : Bool) (sym codepoint : UInt32)
    (result : InputResult) (has : ∀ seat, state.seats.cell id = some seat → seat.keyboard = true) :
    Ensures (keyboardKey state id pressed sym codepoint result.random result.written)
      (DeviceStep state (.key id pressed sym codepoint result)) := by
  unfold keyboardKey
  split
  · rename_i unloaded
    exact .pure (.keyIgnored (.inl (by simpa using unloaded)) (.refl state))
  · rename_i loaded
    split
    · rename_i grace
      rw [Bool.and_eq_true] at grace
      exact .pure (.keyIgnored (.inr grace.1) ⟨.refl _, rfl, rfl, rfl, rfl, rfl⟩)
    · rename_i elapsed
      have quiet : Background state
          (if pressed then swaylockHandleKey state (.ofCode sym) codepoint result.random result.written else state) := by
        split
        · exact .of_indicates (swaylockHandleKey_indicates state _ _ _ _)
        · exact .refl state
      dsimp only
      generalize (if pressed then swaylockHandleKey state (.ofCode sym) codepoint result.random result.written
        else state) = handled at quiet
      refine .via (fun stopped => ∃ seat, state.seats.cell id = some seat ∧
        stopped = handled.stopSeat id seat.repeatTimer) ?_ ?_
      · refine .read fun seat present => .pure ⟨seat, ?_, rfl⟩
        rw [← quiet.seats]
        exact present
      · rintro _ ⟨seat, present, rfl⟩
        refine .read fun stopped found => ?_
        obtain ⟨old, there, ⟨_, rfl⟩ | ⟨apart, _⟩⟩ := Heap.old_of_modify _ found
        · have same : handled.seats.cell id = some seat := by rw [quiet.seats, present]
          cases same.symm.trans there
          split
          · rename_i repeats
            rw [Bool.and_eq_true, decide_eq_true_eq] at repeats
            obtain ⟨rfl, positive⟩ := repeats
            have late : state.graceTimer = none := by simpa using elapsed
            exact .pure (.keyArmed (by simpa using loaded) (has seat present) quiet present positive late)
          · exact .pure (.keyStopped quiet present)
        · exact absurd rfl apart

theorem dispatchTimer_deviceStep (state : SwaylockState) (env : Environment) (timer : TimerId)
    (result : InputResult) (expiring : state.expiring = true) :
    Ensures (dispatchTimer state env timer result) (DeviceStep state (.timer timer result)) := by
  refine .read fun callback due => ?_
  have freed {middle : SwaylockState} (quiet : Background state middle) :
      DeviceStep state (.timer timer result) (freeTimer middle timer) :=
    .background rfl (quiet.trans (.freeTimer middle timer))
  cases callback with
  | setInputIdle => exact .pure (freed (.of_indicates (setInputIdle_indicates state)))
  | setAuthIdle => exact .pure (freed (.of_indicates (setAuthIdle_indicates state)))
  | clearPassword => exact .pure (freed (.of_indicates (clearPassword_indicates state)))
  | hiddenCheckTimeout => exact .pure (freed (.of_changes (hiddenCheckTimeout_changes env)))
  | graceTimeout => exact .pure (.graceOver rfl (.inl expiring) (.refl state) rfl (.freeTimer _ timer))
  | clientConnectionTimeout client =>
      refine Ensures.bind ?_ fun middle quiet => .pure (freed quiet)
      exact (clientConnectionTimeout_changes env client).bind fun scene changes => .pure (.of_changes changes)
  | outputRedrawTimeout output =>
      refine Ensures.bind ?_ fun middle quiet => .pure (freed quiet)
      exact (outputRedrawTimeout_changes env output).bind fun scene changes => .pure (.of_changes changes)
  | keyboardRepeat seat =>
      refine Ensures.via (fun middle => ∃ record, state.seats.cell seat = some record ∧
        Background (state.armSeat seat record.repeatPeriodMs fun seat => seat) middle) ?_ ?_
      · refine .read fun record present => .pure ⟨record, present, ?_⟩
        exact .of_indicates (swaylockHandleKey_indicates _ _ _ _ _)
      · rintro middle ⟨record, present, quiet⟩
        exact .pure (.repeated due present quiet)

theorem deviceStep_of_step {state next : SwaylockState} {occurrence : Occurrence}
    (moved : swaylock.machine.step state occurrence next) : DeviceStep state occurrence.event next := by
  obtain ⟨event, env⟩ := occurrence
  obtain ⟨allowed, handled⟩ := moved
  revert next
  change Ensures (handleEvent state env event) (DeviceStep state event)
  change enabled state ⟨event, env⟩ = true at allowed
  have lockOnly {next : SwaylockState} (scene : next.scene = state.scene) (keymap : next.xkb.state = state.xkb.state)
      (seats : next.seats = state.seats) (timer : next.graceTimer = state.graceTimer)
      (pipes : next.sleepCommR = state.sleepCommR ∧ next.sleepCommW = state.sleepCommW) : Background state next :=
    ⟨scene ▸ .refl _, keymap, seats, timer, pipes⟩
  cases event with
  | tick now => exact .pure (.background rfl ⟨.same rfl rfl rfl rfl, rfl, rfl, rfl, rfl, rfl⟩)
  | scene event =>
      exact (handleScene_changes env state.runDisplay event).bind fun scene changes =>
        .pure (.background rfl (.of_changes changes))
  | timer timer result => exact dispatchTimer_deviceStep state env timer result ((Bool.and_eq_true _ _).mp allowed).1
  | seatAdded => exact .pure .seatAdded
  | seatCapabilities seat pointer keyboard => exact .read fun _ _ => .pure (.seatCapabilities seat pointer keyboard)
  | keymap loaded => exact .pure (.keymap loaded)
  | key seat pressed sym codepoint result =>
      apply keyboardKey_deviceStep
      intro record present
      have live := allowed
      simp only [enabled, Bool.and_eq_true, SwaylockState.seatIs, present, Option.any_some] at live
      exact live.2
  | keyboardLeave seat => exact .read fun _ present => .pure (.keyboardLeave present)
  | modifiers layoutSame capsLock control =>
      refine .pure (.background rfl ?_)
      unfold keyboardModifiers
      split
      · exact .refl state
      · dsimp only
        split
        · have noted : Background state { state with xkb := { state.xkb with capsLock := capsLock } } :=
            lockOnly rfl rfl rfl rfl ⟨rfl, rfl⟩
          have damaged := noted.trans (.of_indicates (.damage _))
          exact ⟨damaged.scene, damaged.keymap, damaged.seats, damaged.graceTimer, damaged.pipes⟩
        · exact lockOnly rfl rfl rfl rfl ⟨rfl, rfl⟩
  | repeatInfo seat rate delay => exact .read fun _ _ => .pure (.repeatInfo seat rate delay)
  | pointerEnter seat x y => exact fun _ entered => .pointerEnter entered
  | pointerMotion seat x y => exact fun _ moved => .pointerMotion moved
  | commReply success =>
      refine .pure (.background rfl ?_)
      unfold commIn
      dsimp only
      split
      · exact lockOnly rfl rfl rfl rfl ⟨rfl, rfl⟩
      · have noted : Background state { state with
            comm := { state.comm with replies := state.comm.replies + 1 }, authState := .invalid } :=
          lockOnly rfl rfl rfl rfl ⟨rfl, rfl⟩
        have scheduled := noted.trans (.of_indicates (scheduleAuthIdle_indicates _))
        refine Background.trans ?_ (.of_indicates (.damage _))
        exact ⟨scheduled.scene, scheduled.keymap, scheduled.seats, scheduled.graceTimer, scheduled.pipes⟩
  | lockNow =>
      refine .pure ?_
      unfold lockIn
      split
      · exact .background rfl (.refl state)
      · rename_i timer _
        exact .graceOver rfl (.inr rfl) (.removeTimer? state (some timer)) rfl (.refl _)
  | sleepNotice => exact .pure .sleepNotice
  | sweep => exact .pure (.sweep allowed)
  | start =>
      refine .via (fun scene => Changes createEffects
        (addDescriptors { state with sleepCommR := -1, sleepCommW := -1 }).scene scene) ?_ fun created changes => ?_
      · exact createSurfaces_changes env
      · refine Ensures.bind ((startMainPlugin_changes env).weaken fun _ more => changes.trans more) fun scene all => ?_
        refine .pure (.start (by simpa [enabled] using allowed) rfl ?_)
        exact ⟨.of_changes all, rfl, rfl, rfl, rfl, rfl⟩
  | startGrace watcher =>
      simp only [enabled, Bool.and_eq_true, beq_iff_eq] at allowed
      exact .pure (.startGrace watcher allowed.1 allowed.2)
  | armHiddenCheck =>
      have armed := Background.of_changes (armHiddenCheck_changes : Changes [.arm] state.scene _)
      exact .pure (.background rfl ⟨armed.scene, rfl, rfl, rfl, rfl, rfl⟩)
  | resume =>
      have resumed := Background.of_changes (resumeAllClients_changes env : Changes [.client] state.scene _)
      exact .pure (.background rfl ⟨resumed.scene, rfl, rfl, rfl, rfl, rfl⟩)
  | _ =>
      refine (handleEvent_plain state env rfl).weaken ?_
      rintro _ ⟨_, _, _, _, _, rfl⟩
      exact .background rfl ⟨⟨rfl, rfl, rfl, .same rfl rfl rfl, id, fun _ _ _ armed => armed⟩, rfl, rfl, rfl, rfl, rfl⟩

end SwaylockPlugin
