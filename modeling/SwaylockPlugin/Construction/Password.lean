import SwaylockPlugin.Construction.Output

namespace SwaylockPlugin

open Library

inductive AuthState where
  | idle
  | validating
  | invalid
  deriving DecidableEq

inductive InputState where
  | idle
  | clear
  | letter
  | backspace
  | neutral
  deriving DecidableEq

/-- The password buffer is a piece of memory that holds a text of the given length. -/
structure SwaylockPassword where
  buffer : List UInt8
  len : Nat
  deriving DecidableEq

/-- This is a buffer of the given size whose first byte was set to zero, as all its others happen to be. -/
def SwaylockPassword.allocated (size : Nat) : SwaylockPassword := ⟨List.replicate size 0, 0⟩

/-- The keyboard state is present after a keymap was loaded. -/
structure SwaylockXkb where
  state : Bool
  capsLock : Bool
  control : Bool
  deriving DecidableEq

/-- The pipes to the password backend count the requests written in full and the replies read. -/
structure Comm where
  requests : Nat
  replies : Nat
  deriving DecidableEq

/-- A request is outstanding until its reply was read. -/
def Comm.outstanding (comm : Comm) : Nat := comm.requests - comm.replies

/-- The fields of a `swaylock_seat` keep their names. -/
structure SwaylockSeat where
  pointer : Bool
  keyboard : Bool
  repeatPeriodMs : Int
  repeatDelayMs : Int
  repeatSym : UInt32
  repeatCodepoint : UInt32
  repeatTimer : Option TimerId
  lastInterval : Int
  intervalStartX : WlFixed
  intervalStartY : WlFixed
  lastMouseX : WlFixed
  lastMouseY : WlFixed

/-- A seat that `handle_global` just allocated is zero. -/
def SwaylockSeat.allocated : SwaylockSeat :=
  ⟨false, false, 0, 0, 0, 0, none, 0, 0, 0, 0, 0⟩

/-- The main function stands at one of these places when a handler may run or a step is due. -/
inductive Phase where
  | startup
  | waitCheck
  | waitPoll
  | waitTimers
  | readiness
  | daemonize
  | grace
  | hiddenCheck
  | runCheck
  | runPoll
  | runTimers
  | resume
  | unlock
  | roundtrip
  deriving DecidableEq

/-- These actions of the main function are visible outside the process. -/
inductive Deed where
  | readinessWritten
  | parentReleased
  | graceStarted
  | unlocked
  deriving DecidableEq

/-- A deed is recorded together with whether the locked event had been handled. -/
structure DeedRecord where
  deed : Deed
  locked : Bool
  deriving DecidableEq

/-- The fields of `swaylock_state` outside the scene keep their names, next to the passwords handed over. -/
structure SwaylockState where
  scene : Scene
  inputIdleTimer : Option TimerId
  authIdleTimer : Option TimerId
  clearPasswordTimer : Option TimerId
  password : SwaylockPassword
  xkb : SwaylockXkb
  authState : AuthState
  inputState : InputState
  highlightStart : Nat
  failedAttempts : Nat
  runDisplay : Bool
  locked : Bool
  graceTimer : Option TimerId
  sleepCommR : Int
  sleepCommW : Int
  seats : Heap SwaylockSeat
  comm : Comm
  passwords : List (List UInt8)
  phase : Phase
  deeds : List DeedRecord

namespace SwaylockState

/-- The indicator is drawn again on every output. -/
def damage (state : SwaylockState) : SwaylockState :=
  { state with scene := damageState state.scene }

/-- A timer is removed where there is one. -/
def removeTimer? (state : SwaylockState) (timer : Option TimerId) : SwaylockState :=
  { state with scene := state.scene.removeTimer? timer }

/-- A new timer is armed and its name returned. -/
def addTimer (state : SwaylockState) (ms : Int) (callback : TimerCallback) : SwaylockState × TimerId :=
  ({ state with scene := (state.scene.addTimer ms callback).1 }, (state.scene.addTimer ms callback).2)

/-- A descriptor leaves the loop. -/
def removeFd (state : SwaylockState) (fd : Int) : SwaylockState :=
  { state with scene := { state.scene with eventloop := state.scene.eventloop.removeFd fd } }

/-- A descriptor joins the loop. -/
def addFd (state : SwaylockState) (fd : Int) (callback : FdCallback) : SwaylockState :=
  { state with scene := { state.scene with eventloop := state.scene.eventloop.addFd fd callback } }

end SwaylockState

/-- The scan counts the continuation bytes at the end and the byte before them. -/
def lastSizeFrom : List UInt8 → Nat → Nat
  | [], _ => 0
  | byte :: rest, size =>
      if byte &&& 0xc0 != 0x80 then size + 1 else lastSizeFrom rest (size + 1)

/-- The text in a piece of memory ends before its first zero byte. -/
def textIn (memory : List UInt8) : List UInt8 := memory.takeWhile fun byte => byte != 0

def utf8LastSize (memory : List UInt8) : Nat := lastSizeFrom (textIn memory).reverse 0

def utf8Chsize (ch : UInt32) : Nat :=
  if ch < 0x80 then 1 else if ch < 0x800 then 2 else if ch < 0x10000 then 3 else 4

/-- This is the byte that follows the first one and holds six bits of the character. -/
def continuationByte (ch : UInt32) (shift : UInt32) : UInt8 :=
  (((ch >>> shift) &&& 0x3f) ||| 0x80).toUInt8

def utf8Encode (ch : UInt32) : List UInt8 :=
  if ch < 0x80 then [ch.toUInt8]
  else if ch < 0x800 then [((ch >>> 6) ||| 0xc0).toUInt8, continuationByte ch 0]
  else if ch < 0x10000 then
    [((ch >>> 12) ||| 0xe0).toUInt8, continuationByte ch 6, continuationByte ch 0]
  else
    [((ch >>> 18) ||| 0xf0).toUInt8, continuationByte ch 12, continuationByte ch 6, continuationByte ch 0]

/-- Some bytes are written into a piece of memory. -/
def writeBytes (memory : List UInt8) (start : Nat) (bytes : List UInt8) : List UInt8 :=
  memory.take start ++ bytes ++ memory.drop (start + bytes.length)

namespace SwaylockPassword

/-- This is the `buffer_len` field. -/
def bufferLen (password : SwaylockPassword) : Nat := password.buffer.length

def clear (password : SwaylockPassword) : SwaylockPassword := ⟨List.replicate password.bufferLen 0, 0⟩

/-- This is the `backspace` operation without its result. -/
def backspace (password : SwaylockPassword) : SwaylockPassword :=
  if password.len = 0 then password
  else
    let len := password.len - utf8LastSize password.buffer
    ⟨password.buffer.set len 0, len⟩

def appendCh (password : SwaylockPassword) (codepoint : UInt32) : SwaylockPassword :=
  if password.len + utf8Chsize codepoint + 1 ≥ password.bufferLen then password
  else
    let len := password.len + utf8Chsize codepoint
    ⟨(writeBytes password.buffer password.len (utf8Encode codepoint)).set len 0, len⟩

end SwaylockPassword

/-- A key has one of the symbols that `swaylock_handle_key` distinguishes or another one. -/
inductive Keysym where
  | kpEnter
  | return
  | delete
  | backSpace
  | escape
  | capsLock
  | shiftL
  | shiftR
  | controlL
  | controlR
  | metaL
  | metaR
  | altL
  | altR
  | superL
  | superR
  | m
  | d
  | j
  | c
  | u
  | other (value : UInt32)
  deriving DecidableEq

/-- This is the symbol that a key code from the keymap stands for. -/
def Keysym.ofCode (code : UInt32) : Keysym :=
  if code = 0xff8d then .kpEnter
  else if code = 0xff0d then .return
  else if code = 0xffff then .delete
  else if code = 0xff08 then .backSpace
  else if code = 0xff1b then .escape
  else if code = 0xffe5 then .capsLock
  else if code = 0xffe1 then .shiftL
  else if code = 0xffe2 then .shiftR
  else if code = 0xffe3 then .controlL
  else if code = 0xffe4 then .controlR
  else if code = 0xffe7 then .metaL
  else if code = 0xffe8 then .metaR
  else if code = 0xffe9 then .altL
  else if code = 0xffea then .altR
  else if code = 0xffeb then .superL
  else if code = 0xffec then .superR
  else if code = 0x6d then .m
  else if code = 0x64 then .d
  else if code = 0x6a then .j
  else if code = 0x63 then .c
  else if code = 0x75 then .u
  else .other code

def setInputIdle (state : SwaylockState) : SwaylockState :=
  { state with inputIdleTimer := none, inputState := .idle }.damage

def setAuthIdle (state : SwaylockState) : SwaylockState :=
  { state with authIdleTimer := none, authState := .idle }.damage

def scheduleInputIdle (state : SwaylockState) : SwaylockState :=
  let armed := (state.removeTimer? state.inputIdleTimer).addTimer 1500 .setInputIdle
  { armed.1 with inputIdleTimer := some armed.2 }

def cancelInputIdle (state : SwaylockState) : SwaylockState :=
  { state.removeTimer? state.inputIdleTimer with inputIdleTimer := none }

def scheduleAuthIdle (state : SwaylockState) : SwaylockState :=
  let armed := (state.removeTimer? state.authIdleTimer).addTimer 3000 .setAuthIdle
  { armed.1 with authIdleTimer := some armed.2 }

def clearPassword (state : SwaylockState) : SwaylockState :=
  let state := scheduleInputIdle { state with clearPasswordTimer := none, inputState := .clear }
  { state with password := state.password.clear }.damage

def schedulePasswordClear (state : SwaylockState) : SwaylockState :=
  let armed := (state.removeTimer? state.clearPasswordTimer).addTimer 10000 .clearPassword
  { armed.1 with clearPasswordTimer := some armed.2 }

def cancelPasswordClear (state : SwaylockState) : SwaylockState :=
  { state.removeTimer? state.clearPasswordTimer with clearPasswordTimer := none }

/-- This is the `write_comm_request` operation, whose writes may fail. -/
def writeCommRequest (state : SwaylockState) (written : Bool) : SwaylockState :=
  { state with
    password := state.password.clear
    comm := if written then { state.comm with requests := state.comm.requests + 1 } else state.comm
    passwords := if written then state.passwords ++ [state.password.buffer.take (state.password.len + 1)]
      else state.passwords }

def submitPassword (state : SwaylockState) (written : Bool) : SwaylockState :=
  if state.scene.args.ignoreEmpty && state.password.len == 0 then state
  else if state.authState == .validating then state
  else
    let state := { state with inputState := .idle, authState := .validating }
    let state := writeCommRequest (cancelInputIdle (cancelPasswordClear state)) written
    if written then state.damage
    else (scheduleAuthIdle { state with authState := .invalid }).damage

/-- This is the `update_highlight` operation with the random number that it draws. -/
def updateHighlight (state : SwaylockState) (random : Nat) : SwaylockState :=
  { state with highlightStart := (state.highlightStart + random % 1024 + 512) % 2048 }

/-- A key that empties the password shows that it was cleared. -/
def clearByKey (state : SwaylockState) : SwaylockState :=
  let state := { state with password := state.password.clear, inputState := .clear }
  (scheduleInputIdle (cancelPasswordClear state)).damage

/-- A key that erases removes the whole password or its last character. -/
def eraseByKey (state : SwaylockState) (random : Nat) : SwaylockState :=
  if state.xkb.control then clearByKey state
  else
    let erased := { state with password := state.password.backspace }
    let state :=
      if state.password.len != 0 && erased.password.len != 0 then
        updateHighlight (schedulePasswordClear { erased with inputState := .backspace }) random
      else cancelPasswordClear { erased with inputState := .clear }
    (scheduleInputIdle state).damage

/-- A key that inputs nothing keeps the indicator visible. -/
def touchByKey (state : SwaylockState) : SwaylockState :=
  (scheduleInputIdle (schedulePasswordClear { state with inputState := .neutral })).damage

/-- A key that inputs a character appends it. -/
def appendByKey (state : SwaylockState) (codepoint : UInt32) (random : Nat) : SwaylockState :=
  if codepoint = 0 then state
  else
    let state := { state with password := state.password.appendCh codepoint, inputState := .letter }
    (updateHighlight (scheduleInputIdle (schedulePasswordClear state)) random).damage

def swaylockHandleKey (state : SwaylockState) (keysym : Keysym) (codepoint : UInt32) (random : Nat)
    (written : Bool) : SwaylockState :=
  match keysym with
  | .kpEnter | .return => submitPassword state written
  | .delete | .backSpace => eraseByKey state random
  | .escape => clearByKey state
  | .capsLock | .shiftL | .shiftR | .controlL | .controlR | .metaL | .metaR | .altL | .altR
  | .superL | .superR => touchByKey state
  | .m | .d | .j =>
      if state.xkb.control then submitPassword state written else appendByKey state codepoint random
  | .c | .u => if state.xkb.control then clearByKey state else appendByKey state codepoint random
  | .other _ => appendByKey state codepoint random

end SwaylockPlugin
