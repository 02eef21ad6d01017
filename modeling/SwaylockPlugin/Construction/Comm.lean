import SwaylockPlugin.Library.Framing
import SwaylockPlugin.Library.Machine
import SwaylockPlugin.Library.Transfer
import SwaylockPlugin.Construction.Password

namespace SwaylockPlugin.Backend

open Library

/-- The program is built with one of these password backends. -/
inductive PwBackend where
  | pam
  | shadow
  deriving DecidableEq

/-- The main process is in one of the functions that transfer bytes, or in none. -/
inductive MainPhase where
  | idle
  | writingSize (transfer : Transfer UInt8) (password : SwaylockPassword)
  | writingBuffer (transfer : Transfer UInt8)
  | readingReply (transfer : Transfer UInt8)
  | exited
  deriving DecidableEq

/-- The backend child reads a request, checks its password and writes a reply, again and again. -/
inductive ChildPhase where
  | readingSize (transfer : Transfer UInt8)
  | creating (size : Nat)
  | readingBuffer (transfer : Transfer UInt8)
  | checking (buffer : List UInt8)
  | writingReply (transfer : Transfer UInt8) (success : Bool)
  | exited
  deriving DecidableEq

/-- Two pipes join the main process and its child, next to what was submitted, returned, decided and read so far. -/
structure BackendState where
  main : MainPhase
  child : ChildPhase
  requests : List UInt8
  replies : List UInt8
  submitted : List SwaylockPassword
  returned : List (List UInt8)
  verdicts : List Bool
  answers : List Bool
  deriving DecidableEq

/-- A `size_t` takes eight bytes. -/
def sizeFraming : Framing UInt8 := .word 8 (by decide)

/-- The child begins to read a request into a variable for its size. -/
def ChildPhase.waiting : ChildPhase := .readingSize (.whole (List.replicate 8 0))

/-- The pipes are empty when the child was just spawned. -/
def BackendState.spawned : BackendState := ⟨.idle, .waiting, [], [], [], [], [], []⟩

/-- These are the bytes of a password that a request carries. -/
def request (password : SwaylockPassword) : List UInt8 := password.buffer.take (password.len + 1)

/-- The processes take turns with these events, where a transfer tells how many bytes it moved. -/
inductive BackendEvent where
  | submit (password : SwaylockPassword)
  | mainWrites (count : Nat)
  | pollIn
  | mainReads (count : Nat)
  | mainExits
  | childReads (count : Nat)
  | created (buffer : Option (List UInt8))
  | checked (verdict : Option Bool)
  | childWrites (count : Nat)
  | interrupted
  deriving DecidableEq

/-- This is the start of the `write_comm_request` operation, which writes the size first. -/
def writeCommRequest (state : BackendState) (password : SwaylockPassword) : BackendState :=
  { state with
    main := .writingSize (.whole (sizeFraming.header (password.len + 1))) password
    submitted := state.submitted ++ [password] }

/-- This is a turn of the `write_full` loop in the main process, and what follows a finished loop. -/
def mainWrites (state : BackendState) (count : Nat) : Handled BackendState :=
  match state.main with
  | .writingSize transfer password =>
      let sent := transfer.send state.requests count
      if sent.1.done then
        if fits : password.len + 1 ≤ password.buffer.length then
          return { state with
            requests := sent.2
            main := .writingBuffer (.begin password.buffer (password.len + 1) fits) }
        else throw .invalidPointer
      else return { state with requests := sent.2, main := .writingSize sent.1 password }
  | .writingBuffer transfer =>
      let sent := transfer.send state.requests count
      return { state with
        requests := sent.2
        main := if sent.1.done then .idle else .writingBuffer sent.1 }
  | _ => return state

/-- This is a turn of the `read_full` loop in the `read_comm_reply` operation, and what follows a finished loop. -/
def mainReads (state : BackendState) (count : Nat) : Handled BackendState :=
  match state.main with
  | .readingReply transfer =>
      let got := transfer.receive state.replies count
      if got.1.done then
        return { state with
          replies := got.2
          main := .idle
          answers := state.answers ++ [got.1.payload != [0]] }
      else return { state with replies := got.2, main := .readingReply got.1 }
  | _ => return state

/-- This is a turn of the `read_full` loops in the `read_comm_request` operation, and what follows a finished loop.
Without a byte the pipe is closed, which ends the child. -/
def childReads (state : BackendState) (count : Nat) : Handled BackendState :=
  match state.child with
  | .readingSize transfer =>
      if count = 0 then return { state with child := .exited }
      else
        let got := transfer.receive state.requests count
        if got.1.done then do
          let size := sizeFraming.lengthOf got.1.payload
          check (decide (0 < size))
          return { state with requests := got.2, child := .creating size }
        else return { state with requests := got.2, child := .readingSize got.1 }
  | .readingBuffer transfer =>
      if count = 0 then return { state with child := .exited }
      else
        let got := transfer.receive state.requests count
        if got.1.done then do
          check (got.1.payload.getLast? == some 0)
          return { state with
            requests := got.2
            child := .checking got.1.payload
            returned := state.returned ++ [got.1.payload] }
        else return { state with requests := got.2, child := .readingBuffer got.1 }
  | _ => return state

/-- The child creates a buffer for a password, or ends where it cannot. -/
def created (state : BackendState) : Option (List UInt8) → BackendState
  | none => { state with child := .exited }
  | some buffer => { state with child := .readingBuffer (.whole buffer) }

/-- The child decides about a password and begins the `write_comm_reply` operation, or ends where it cannot decide. -/
def checked (state : BackendState) : Option Bool → BackendState
  | none => { state with child := .exited }
  | some success => { state with
      child := .writingReply (.whole [if success then 1 else 0]) success
      verdicts := state.verdicts ++ [success] }

/-- This is a turn of the `write_full` loop in the child, after which the PAM child ends with an accepted password. -/
def childWrites (backend : PwBackend) (state : BackendState) (count : Nat) : BackendState :=
  match state.child with
  | .writingReply transfer success =>
      let sent := transfer.send state.replies count
      { state with
        replies := sent.2
        child :=
          if sent.1.done then if success && backend == .pam then .exited else .waiting
          else .writingReply sent.1 success }
  | _ => state

/-- An event of the two processes runs its part of the code. -/
def handleBackend (backend : PwBackend) (state : BackendState) : BackendEvent → Handled BackendState
  | .submit password => return writeCommRequest state password
  | .mainWrites count => mainWrites state count
  | .pollIn => return { state with main := .readingReply (.whole [0]) }
  | .mainReads count => mainReads state count
  | .mainExits => return { state with main := .exited }
  | .childReads count => childReads state count
  | .created buffer => return created state buffer
  | .checked verdict => return checked state verdict
  | .childWrites count => return childWrites backend state count
  | .interrupted => return state

/-- A transfer moves at least one byte and at most those that are left. -/
def transfers (transfer : Transfer UInt8) (count : Nat) : Bool :=
  decide (0 < count) && decide (count ≤ transfer.size - transfer.offset)

/-- A read takes bytes that are in the pipe, or none from an empty pipe whose writer is gone. -/
def reads (transfer : Transfer UInt8) (pipe : List UInt8) (closed : Bool) (count : Nat) : Bool :=
  transfers transfer count && decide (count ≤ pipe.length) || closed && pipe.isEmpty && count == 0

/-- An event occurs only where its process is at it, and a submitted password is a text in its buffer. -/
def backendEnabled (backend : PwBackend) (state : BackendState) : BackendEvent → Bool
  | .submit password =>
      state.main == .idle && password.buffer[password.len]? == some 0 && decide (password.bufferLen < 2 ^ 64)
  | .mainWrites count =>
      match state.main with
      | .writingSize transfer _ | .writingBuffer transfer => transfers transfer count
      | _ => false
  | .pollIn => state.main == .idle && !state.replies.isEmpty
  | .mainReads count =>
      match state.main with
      | .readingReply transfer => reads transfer state.replies false count
      | _ => false
  | .mainExits => state.main != .exited
  | .childReads count =>
      match state.child with
      | .readingSize transfer | .readingBuffer transfer =>
          reads transfer state.requests (state.main == .exited) count
      | _ => false
  | .created buffer =>
      match state.child with
      | .creating size => buffer.all fun buffer => buffer.length == size
      | _ => false
  | .checked verdict =>
      match state.child with
      | .checking _ => backend == .shadow || verdict.isSome
      | _ => false
  | .childWrites count =>
      match state.child with
      | .writingReply transfer _ => transfers transfer count
      | _ => false
  | .interrupted => true

/-- The main process and its backend child exchange passwords and verdicts. -/
def backendProcesses (backend : PwBackend) : Program BackendState BackendEvent Halt where
  initial state := state = .spawned
  enabled state event := backendEnabled backend state event = true
  decideEnabled _ _ := inferInstance
  next := handleBackend backend

end SwaylockPlugin.Backend
