import SwaylockPlugin.Construction.Comm
import SwaylockPlugin.Construction.Program

namespace SwaylockPlugin.Backend

open Library

/-- The switch over a message distinguishes these styles. -/
inductive MsgStyle where
  | promptEchoOff
  | promptEchoOn
  | errorMsg
  | textInfo
  | other (style : Int)
  deriving DecidableEq

/-- A message comes with whether memory for a copy of the password is found. -/
structure PamMessage where
  msgStyle : MsgStyle
  copied : Bool
  deriving DecidableEq

/-- The status of a call into PAM or out of it is one that the code names or another one. -/
inductive PamStatus where
  | success
  | abort
  | other (status : Int)
  deriving DecidableEq

/-- The `password` field of a `conv_state` points to the password until it was handed out. -/
structure ConvState where
  password : Option (List UInt8)
  deriving DecidableEq

/-- This is the loop of the `handle_conversation` operation, whose responses are zero where it does not write them. -/
def answerMessages (state : ConvState) : List PamMessage → ConvState × List (Option (List UInt8)) × PamStatus
  | [] => (state, [], .success)
  | message :: messages =>
      match message.msgStyle with
      | .promptEchoOff | .promptEchoOn =>
          match state.password, message.copied with
          | some password, true =>
              let rest := answerMessages ⟨none⟩ messages
              (rest.1, some (textIn password) :: rest.2.1, rest.2.2)
          | _, _ => (state, none :: messages.map fun _ => none, .abort)
      | .errorMsg | .textInfo | .other _ =>
          let rest := answerMessages state messages
          (rest.1, none :: rest.2.1, rest.2.2)

/-- This is the `handle_conversation` operation, where memory for the responses is found or not. -/
def handleConversation (state : ConvState) (allocated : Bool) (messages : List PamMessage) :
    ConvState × List (Option (List UInt8)) × PamStatus :=
  if allocated then answerMessages state messages else (state, [], .abort)

/-- A call of `pam_authenticate` is about a password, gets copies of it and returns a status. -/
structure PamCall where
  buffer : List UInt8
  copies : List (List UInt8)
  status : PamStatus
  deriving DecidableEq

/-- The PAM child keeps its conversation, the copies for the call that it is in, and the calls that returned. -/
structure PamState where
  conv : ConvState
  current : Option (List (List UInt8))
  calls : List PamCall
  deriving DecidableEq

/-- PAM is called, calls back and returns. -/
inductive PamEvent where
  | authenticate
  | converse (allocated : Bool) (messages : List PamMessage)
  | returned (status : PamStatus)
  deriving DecidableEq

/-- A checker decides about the password in a buffer in one or more steps, or fails, and remembers what it decided. -/
structure Checker (State Event : Type) where
  backend : PwBackend
  start : State
  enabled : State → Event → Bool
  next : State → List UInt8 → Event → State × Option (Option Bool)
  judged : State → List (List UInt8 × Bool)
  fresh : judged start = []
  decides : backend = .pam → ∀ state buffer event, (next state buffer event).2 ≠ some none
  remembers : ∀ state buffer event, judged (next state buffer event).1 =
    judged state ++ ((next state buffer event).2.join.map fun success => (buffer, success)).toList

/-- These are the calls as verdicts about the passwords in their buffers. -/
def PamState.judged (state : PamState) : List (List UInt8 × Bool) :=
  state.calls.map fun call => (call.buffer, call.status == .success)

/-- PAM calls back and returns only while it is called. -/
def pamEnabled (state : PamState) : PamEvent → Bool
  | .authenticate => state.current.isNone
  | .converse _ _ | .returned _ => state.current.isSome

/-- This is the loop body of the PAM child around `pam_authenticate`, step by step. -/
def pamNext (state : PamState) (buffer : List UInt8) : PamEvent → PamState × Option (Option Bool)
  | .authenticate => ({ state with conv := ⟨some buffer⟩, current := some [] }, none)
  | .converse allocated messages =>
      let answered := handleConversation state.conv allocated messages
      ({ state with
          conv := answered.1
          current := state.current.map fun copies => copies ++ answered.2.1.reduceOption }, none)
  | .returned status =>
      ({ conv := ⟨none⟩
         current := none
         calls := state.calls ++ [⟨buffer, state.current.getD [], status⟩] }, some (some (status == .success)))

/-- The PAM child asks PAM. -/
def pamChecker : Checker PamState PamEvent where
  backend := .pam
  start := ⟨⟨none⟩, none, []⟩
  enabled := pamEnabled
  next := pamNext
  judged := PamState.judged
  fresh := rfl
  decides _ _ _ event := by cases event <;> simp [pamNext]
  remembers state buffer event := by cases event <;> simp [pamNext, PamState.judged]

/-- A call of `crypt` returns an encrypted text for the password in a buffer, or nothing where it fails. -/
structure CryptCall where
  buffer : List UInt8
  encrypted : Option (List UInt8)
  deriving DecidableEq

/-- The shadow child accepts a password that is encrypted to its own entry. -/
def CryptCall.verdict (encpw : List UInt8) (call : CryptCall) : Option Bool := call.encrypted.map (· == encpw)

/-- This is the loop body of the shadow child around `crypt`. -/
def shadowNext (crypt : List UInt8 → List UInt8 → Option (List UInt8)) (encpw : List UInt8) (calls : List CryptCall)
    (buffer : List UInt8) : List CryptCall × Option (Option Bool) :=
  let call : CryptCall := ⟨buffer, crypt (textIn buffer) encpw⟩
  (calls ++ [call], some (call.verdict encpw))

/-- The shadow child compares encrypted passwords. -/
def shadowChecker (crypt : List UInt8 → List UInt8 → Option (List UInt8)) (encpw : List UInt8) :
    Checker (List CryptCall) Unit where
  backend := .shadow
  start := []
  enabled _ _ := true
  next calls buffer _ := shadowNext crypt encpw calls buffer
  judged calls := calls.flatMap fun call => ((call.verdict encpw).map fun success => (call.buffer, success)).toList
  fresh := rfl
  decides shadow := by cases shadow
  remembers calls buffer _ := by simp [shadowNext]

/-- A session joins the main process, the two pipes with the child at their other end, and the child's checker. -/
structure Session (State : Type) where
  ui : SwaylockState
  backend : BackendState
  checker : State

/-- An event of a session is one of the main process, one of a transfer or one of the checker. -/
inductive SessionEvent (Event : Type) where
  | lock (occurrence : Occurrence)
  | transfer (event : BackendEvent)
  | judge (event : Event)

/-- A request that an event makes the main process write is written in full. -/
def requestWritten : SwaylockPlugin.Event → Bool
  | .key _ _ _ _ result => result.written
  | .timer _ result => result.written
  | _ => true

/-- The pipes allow a request to fail only without a child, and a reply that is the first in its pipe. -/
def exchangeable (backend : BackendState) (event : SwaylockPlugin.Event) : Bool :=
  (requestWritten event || backend.child == .exited) &&
    match event with
    | .commReply success => backend.replies.head?.any fun byte => (byte != 0) == success
    | _ => true

/-- The main process gives a new password to the pipe of requests, or takes a reply from the other one. -/
def exchange (backend : BackendState) (before after : SwaylockState) : SwaylockPlugin.Event → Handled BackendState
  | .commReply _ => mainReads { backend with main := .readingReply (.whole [0]) } 1
  | _ => return if after.passwords = before.passwords then backend else writeCommRequest backend before.password

/-- These events of the two processes are not part of an event of the lock or the checker. -/
def BackendEvent.between : BackendEvent → Bool
  | .submit _ | .pollIn | .mainReads _ | .checked _ => false
  | _ => true

variable {State Event : Type}

/-- The main process handles an event outside of a transfer, and the checker works while the child checks a password. -/
def sessionEnabled (checker : Checker State Event) (session : Session State) : SessionEvent Event → Bool
  | .lock occurrence =>
      enabled session.ui occurrence && session.backend.main == .idle && exchangeable session.backend occurrence.event
  | .transfer event => event.between && backendEnabled checker.backend session.backend event
  | .judge event =>
      match session.backend.child with
      | .checking _ => checker.enabled session.checker event
      | _ => false

/-- The child goes on with the verdict of its checker. -/
def judge (checker : Checker State Event) (session : Session State) (buffer : List UInt8) (event : Event) :
    Session State :=
  let judged := checker.next session.checker buffer event
  { session with
    backend := judged.2.elim session.backend (checked session.backend)
    checker := judged.1 }

/-- An event of a session runs its part of the code. -/
def handleSession (checker : Checker State Event) (session : Session State) : SessionEvent Event → Handled (Session State)
  | .lock occurrence => do
      let ui ← handleEvent session.ui occurrence.env occurrence.event
      let backend ← exchange session.backend session.ui ui occurrence.event
      return { session with ui, backend }
  | .transfer event => do
      let backend ← handleBackend checker.backend session.backend event
      return { session with backend }
  | .judge event =>
      match session.backend.child with
      | .checking buffer => return judge checker session buffer event
      | _ => return session

/-- The screen locker runs next to the child that checks its passwords. -/
def authentication (checker : Checker State Event) : Program (Session State) (SessionEvent Event) Halt where
  initial session := InitialState session.ui ∧ session.backend = .spawned ∧ session.checker = checker.start
  enabled session event := sessionEnabled checker session event = true
  decideEnabled _ _ := inferInstance
  next := handleSession checker

end SwaylockPlugin.Backend
