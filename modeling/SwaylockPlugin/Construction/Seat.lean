import SwaylockPlugin.Construction.Password

namespace SwaylockPlugin

open Library

namespace SwaylockState

def seat (state : SwaylockState) (id : SeatId) : Handled SwaylockSeat :=
  demand .invalidPointer (state.seats.cell id)

def setSeat (state : SwaylockState) (id : SeatId) (change : SwaylockSeat → SwaylockSeat) : SwaylockState :=
  { state with seats := state.seats.modify id change }

end SwaylockState

/-- This is the `keyboard_keymap` operation for a keymap that could be loaded or for none. -/
def keyboardKeymap (state : SwaylockState) (loaded : Bool) : SwaylockState :=
  { state with xkb := { state.xkb with state := loaded } }

def stopRepeat (state : SwaylockState) (id : SeatId) : Handled SwaylockState := do
  let seat ← state.seat id
  return (state.removeTimer? seat.repeatTimer).setSeat id fun seat => { seat with repeatTimer := none }

def keyboardRepeat (state : SwaylockState) (id : SeatId) (random : Nat) (written : Bool) :
    Handled SwaylockState := do
  let seat ← state.seat id
  let armed := state.addTimer seat.repeatPeriodMs (.keyboardRepeat id)
  let state := armed.1.setSeat id fun seat => { seat with repeatTimer := some armed.2 }
  return swaylockHandleKey state (.ofCode seat.repeatSym) seat.repeatCodepoint random written

/-- A pressed key is repeated where the compositor announced a repeat rate. -/
def armRepeat (state : SwaylockState) (id : SeatId) (pressed : Bool) (sym codepoint : UInt32) :
    Handled SwaylockState := do
  let seat ← state.seat id
  if pressed && decide (0 < seat.repeatPeriodMs) then
    let armed := state.addTimer seat.repeatDelayMs (.keyboardRepeat id)
    return armed.1.setSeat id fun seat =>
      { seat with repeatSym := sym, repeatCodepoint := codepoint, repeatTimer := some armed.2 }
  else return state

/-- This is the `keyboard_key` operation, in which a press during the grace period ends the lock. -/
def keyboardKey (state : SwaylockState) (id : SeatId) (pressed : Bool) (sym codepoint : UInt32)
    (random : Nat) (written : Bool) : Handled SwaylockState :=
  if !state.xkb.state then return state
  else if pressed && state.graceTimer.isSome then return { state with runDisplay := false }
  else do
    let state := if pressed then swaylockHandleKey state (.ofCode sym) codepoint random written else state
    let state ← stopRepeat state id
    armRepeat state id pressed sym codepoint

/-- This is the `keyboard_modifiers` operation with the values that xkbcommon computes. -/
def keyboardModifiers (state : SwaylockState) (layoutSame capsLock control : Bool) : SwaylockState :=
  if !state.xkb.state then state
  else
    let state :=
      if capsLock != state.xkb.capsLock || !layoutSame then
        { state with xkb := { state.xkb with capsLock := capsLock } }.damage
      else state
    { state with xkb := { state.xkb with control := control } }

def keyboardRepeatInfo (state : SwaylockState) (id : SeatId) (rate delay : Int) : Handled SwaylockState := do
  let _ ← state.seat id
  return state.setSeat id fun seat => { seat with
    repeatPeriodMs := if rate ≤ 0 then -1 else 1000 / rate
    repeatDelayMs := delay }

def wlPointerEnter (state : SwaylockState) (id : SeatId) (x y : WlFixed) : Handled SwaylockState := do
  let _ ← state.seat id
  if state.graceTimer.isNone then return state
  else return state.setSeat id fun seat => { seat with
    lastInterval := state.scene.clock.tvSec
    intervalStartX := x
    intervalStartY := y
    lastMouseX := x
    lastMouseY := y }

/-- This is the `wl_fixed_to_double` operation with an exact result. -/
def wlFixedToDouble (value : WlFixed) : Rat := (value.toInt : Rat) / 256

/-- A new second starts a new interval at the last position. -/
def startInterval (seat : SwaylockSeat) (now : Int) : SwaylockSeat :=
  if now = seat.lastInterval then seat
  else { seat with
    lastInterval := now
    intervalStartX := seat.lastMouseX
    intervalStartY := seat.lastMouseY }

/-- The pointer moved far when its distance from the interval's start is at least the hysteresis. -/
def movedFar (args : SwaylockArgs) (seat : SwaylockSeat) (x y : WlFixed) : Bool :=
  let dx := wlFixedToDouble (x - seat.intervalStartX)
  let dy := wlFixedToDouble (y - seat.intervalStartY)
  decide (dx * dx + dy * dy ≥ args.gracePointerHysteresis * args.gracePointerHysteresis)

def wlPointerMotion (state : SwaylockState) (id : SeatId) (x y : WlFixed) : Handled SwaylockState := do
  let seat ← state.seat id
  if state.graceTimer.isNone then return state
  else
    let seat := startInterval seat state.scene.clock.tvSec
    let state := if movedFar state.scene.args seat x y then { state with runDisplay := false } else state
    return state.setSeat id fun _ => { seat with lastMouseX := x, lastMouseY := y }

def wlPointerButton (state : SwaylockState) : SwaylockState :=
  if state.graceTimer.isSome then { state with runDisplay := false } else state

def seatHandleCapabilities (state : SwaylockState) (id : SeatId) (pointer keyboard : Bool) :
    Handled SwaylockState := do
  let _ ← state.seat id
  return state.setSeat id fun seat => { seat with pointer := pointer, keyboard := keyboard }

end SwaylockPlugin
