import SwaylockPlugin.Library.Machine
import SwaylockPlugin.Construction.Images

namespace SwaylockPlugin.Spawn

open Library Images

/-- This is the `strncmp` function, as far as its sign matters. -/
def strncmp : ℕ → CString → CString → Int
  | 0, _, _ => 0
  | _ + 1, [], [] => 0
  | _ + 1, [], _ :: _ => -1
  | _ + 1, _ :: _, [] => 1
  | count + 1, one :: first, two :: second =>
      if one = two then strncmp count first second else if one < two then -1 else 1

/-- The conversion `%d`. -/
def decimal (value : Int) : CString :=
  let digits := (Nat.toDigits 10 value.natAbs).map fun digit => UInt8.ofNat digit.toNat
  if value < 0 then 45 :: digits else digits

/-- A call of `snprintf` writes no more than fits in front of the null byte. -/
def snprintf (size : ℕ) (text : CString) : CString := text.take (size - 1)

/-- These are the names that `spawn_command` leaves out. -/
def skip : List CString :=
  [ascii "WAYLAND_DEBUG", ascii "WAYLAND_DISPLAY", ascii "WAYLAND_SOCKET", ascii "SWAYLOCK_PLUGIN_OUTPUT_NAME",
    ascii "SWAYLOCK_PLUGIN_OUTPUT_DESC", ascii "DISPLAY"]

/-- An entry is dropped when it begins with one of the names. -/
def drop (entry : CString) : Bool := skip.any fun name => strncmp name.length entry name == 0

/-- The environment of the plugin has its entries in front of the null pointer, in an array with room for some
pointers. -/
structure ProgEnvp where
  entries : List CString
  size : ℕ

/-- A pointer is written behind the others. -/
def ProgEnvp.push (envp : ProgEnvp) (entry : CString) : ProgEnvp := { envp with entries := envp.entries ++ [entry] }

/-- This is the environment that `spawn_command` builds. -/
def progEnvp (environ : List CString) (sockChild : Int32) (outputName outputDesc : Option CString) : ProgEnvp :=
  let envp : ProgEnvp := environ.foldl (fun envp entry => if drop entry then envp else envp.push entry)
    (⟨[], environ.length + 4⟩ : ProgEnvp)
  let envp := envp.push (snprintf 32 (ascii "WAYLAND_SOCKET=" ++ decimal sockChild.toInt))
  match outputName, outputDesc with
  | some name, some desc =>
      (envp.push (snprintf 256 (ascii "SWAYLOCK_PLUGIN_OUTPUT_NAME=" ++ name))).push
        (snprintf 256 (ascii "SWAYLOCK_PLUGIN_OUTPUT_DESC=" ++ desc))
  | _, _ => envp

/-- The system answers the calls of `spawn_command`. The `posix_spawn` functions return zero or an error number, and
behind them `pid` is what the variable for the child has, which is the child only if there is one. -/
structure SpawnCalls where
  fileActionsInit : ℕ
  attrInit : ℕ
  fileActionsAddclose : ℕ
  attrSetsigdefault : ℕ
  attrSetflags : ℕ
  calloc : Bool
  spawnp : ℕ
  pid : Int

/-- The system answers the calls of `run_plugin_command`, which begin with the two ends of a socket pair. -/
structure RunCalls where
  socketpair : Option (ℕ × ℕ)
  setCloexec : Bool
  spawn : SpawnCalls
  calloc : Bool

/-- The part of a `swaylock_bg_client` for its process and its connection. -/
structure PluginClient where
  pid : Int
  paused : Bool
  socket : ℕ
  uniqueOutput : Option ℕ

/-- The children that were created, the process groups that were signalled, the ends of socket pairs that are open and
the clients make up the state. -/
structure PluginState where
  children : List Int
  signalled : List Int
  sockets : List ℕ
  clients : List PluginClient

/-- The program stops where the assertion fails that a place for a client is free. -/
inductive PluginFault where
  | occupied
  deriving DecidableEq

namespace PluginState

/-- A process is created where `posix_spawnp` succeeds. -/
def posixSpawnp (state : PluginState) (calls : SpawnCalls) : PluginState :=
  if calls.spawnp = 0 then { state with children := calls.pid :: state.children } else state

/-- An end of a socket pair is closed. -/
def close (state : PluginState) (socket : ℕ) : PluginState := { state with sockets := state.sockets.erase socket }

/-- This is `spawn_command`, which hands out a process where it returns true. -/
def spawnCommand (state : PluginState) (calls : SpawnCalls) : Option Int × PluginState :=
  if (calls.fileActionsInit : Int) = -1 then (none, state)
  else if calls.attrInit ≠ 0 then (none, state)
  else if (calls.fileActionsAddclose : Int) = -1 then (none, state)
  else if calls.attrSetsigdefault ≠ 0 then (none, state)
  else if calls.attrSetflags ≠ 0 then (none, state)
  else if !calls.calloc then (none, state)
  else if (calls.spawnp : Int) = -1 then (none, state.posixSpawnp calls)
  else (some calls.pid, state.posixSpawnp calls)

/-- This is `run_plugin_command`, for one output or for all of them. -/
def runPluginCommand (state : PluginState) (output : Option ℕ) (calls : RunCalls) :
    Except PluginFault (Bool × PluginState) :=
  match calls.socketpair with
  | none => .ok (false, state)
  | some (child, own) =>
      let state := { state with sockets := child :: own :: state.sockets }
      if !calls.setCloexec then .ok (false, (state.close child).close own)
      else
        match state.spawnCommand calls.spawn with
        | (none, state) => .ok (false, (state.close child).close own)
        | (some pid, state) =>
            let state := state.close child
            if !calls.calloc then .ok (false, state.close own)
            else do
              require .occupied (state.clients.all fun client => client.uniqueOutput != output)
              return (true, { state with clients := ⟨pid, false, own, output⟩ :: state.clients })

/-- This is `set_client_paused`, where the signal is delivered or not. -/
def setClientPaused (state : PluginState) (index : ℕ) (paused delivered : Bool) : PluginState :=
  match state.clients[index]? with
  | none => state
  | some client =>
      if client.pid ≤ 0 || client.paused == paused then state
      else
        let state := { state with signalled := client.pid :: state.signalled }
        if delivered then { state with clients := state.clients.set index { client with paused := paused } } else state

/-- This is `cleanup_client`, together with the end of the connection. -/
def cleanupClient (state : PluginState) (index : ℕ) (delivered : Bool) : PluginState :=
  let state := state.setClientPaused index false delivered
  match state.clients[index]? with
  | none => state
  | some client => { state with clients := state.clients.eraseIdx index }.close client.socket

end PluginState

/-- The command is run for an output or for all of them, a client is paused or resumed, and a client is cleaned up. -/
inductive SpawnEvent where
  | run (output : Option ℕ) (calls : RunCalls)
  | pause (index : ℕ) (paused delivered : Bool)
  | cleanup (index : ℕ) (delivered : Bool)

/-- An event is handled by its operation. -/
def handlePlugin (state : PluginState) : SpawnEvent → Except PluginFault PluginState
  | .run output calls => do
      let result ← state.runPluginCommand output calls
      return result.2
  | .pause index paused delivered => .ok (state.setClientPaused index paused delivered)
  | .cleanup index delivered => .ok (state.cleanupClient index delivered)

/-- A socket pair has two new ends, and a process that is created has a positive number. -/
def answers (state : PluginState) (calls : RunCalls) : Bool :=
  (calls.socketpair.all fun ends =>
    ends.1 != ends.2 && !state.sockets.contains ends.1 && !state.sockets.contains ends.2) &&
  (calls.spawn.spawnp != 0 || decide (0 < calls.spawn.pid))

/-- The system answers the calls of a run as it can. -/
def pluginEnabled (state : PluginState) : SpawnEvent → Bool
  | .run _ calls => answers state calls
  | .pause _ _ _ => true
  | .cleanup _ _ => true

def plugins : Program PluginState SpawnEvent PluginFault where
  initial state := state = ⟨[], [], [], []⟩
  enabled state event := pluginEnabled state event = true
  decideEnabled _ _ := inferInstance
  next := handlePlugin

end SwaylockPlugin.Spawn
