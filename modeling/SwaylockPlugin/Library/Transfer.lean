import Mathlib.Data.List.Basic

namespace SwaylockPlugin.Library

/-- A transfer moves the first bytes of a buffer piece by piece, and its offset tells how many were moved. -/
structure Transfer (Byte : Type) where
  buffer : List Byte
  size : Nat
  offset : Nat
  inside : offset ≤ size
  fits : size ≤ buffer.length
  deriving DecidableEq

namespace Transfer

variable {Byte : Type}

/-- A transfer begins at the first byte. -/
def begin (buffer : List Byte) (size : Nat) (fits : size ≤ buffer.length) : Transfer Byte :=
  ⟨buffer, size, 0, Nat.zero_le size, fits⟩

/-- A transfer of a whole buffer begins at its first byte. -/
def whole (buffer : List Byte) : Transfer Byte := begin buffer buffer.length (Nat.le_refl _)

/-- A transfer is done when all of its bytes were moved. -/
def done (transfer : Transfer Byte) : Bool := decide (transfer.size ≤ transfer.offset)

/-- These bytes are transferred. -/
def payload (transfer : Transfer Byte) : List Byte := transfer.buffer.take transfer.size

/-- These bytes were moved. -/
def moved (transfer : Transfer Byte) : List Byte := transfer.buffer.take transfer.offset

/-- These bytes are still to be moved. -/
def left (transfer : Transfer Byte) : List Byte := transfer.payload.drop transfer.offset

/-- A send moves some of the bytes that are left into a pipe. -/
def send (transfer : Transfer Byte) (pipe : List Byte) (count : Nat) : Transfer Byte × List Byte :=
  ({ transfer with
      offset := transfer.offset + min count (transfer.size - transfer.offset)
      inside := by
        have inside := transfer.inside
        omega },
    pipe ++ transfer.left.take count)

/-- A receipt moves some of the first bytes of a pipe behind the bytes that were moved. -/
def receive (transfer : Transfer Byte) (pipe : List Byte) (count : Nat) : Transfer Byte × List Byte :=
  let bytes := pipe.take (min count (transfer.size - transfer.offset))
  ({ transfer with
      buffer := transfer.moved ++ bytes ++ transfer.buffer.drop (transfer.offset + bytes.length)
      offset := transfer.offset + bytes.length
      inside := by
        have inside := transfer.inside
        simp only [bytes, List.length_take]
        omega
      fits := by
        have inside := transfer.inside
        have fits := transfer.fits
        simp only [bytes, moved, List.length_append, List.length_take, List.length_drop]
        omega },
    pipe.drop bytes.length)

variable (transfer : Transfer Byte) (pipe : List Byte) (count : Nat)

@[simp] theorem begin_left (buffer : List Byte) (size : Nat) (fits : size ≤ buffer.length) :
    (begin buffer size fits).left = buffer.take size := rfl

@[simp] theorem begin_moved (buffer : List Byte) (size : Nat) (fits : size ≤ buffer.length) :
    (begin buffer size fits).moved = [] := rfl

@[simp] theorem whole_left (buffer : List Byte) : (whole buffer).left = buffer := List.take_length

@[simp] theorem whole_moved (buffer : List Byte) : (whole buffer).moved = [] := rfl

@[simp] theorem whole_size (buffer : List Byte) : (whole buffer).size = buffer.length := rfl

@[simp] theorem begin_size (buffer : List Byte) (size : Nat) (fits : size ≤ buffer.length) :
    (begin buffer size fits).size = size := rfl

@[simp] theorem send_size : (transfer.send pipe count).1.size = transfer.size := rfl

@[simp] theorem receive_size : (transfer.receive pipe count).1.size = transfer.size := rfl

theorem length_moved : transfer.moved.length = transfer.offset := by
  have inside := transfer.inside
  have fits := transfer.fits
  rw [moved, List.length_take]
  omega

theorem length_left : transfer.left.length = transfer.size - transfer.offset := by
  have fits := transfer.fits
  rw [left, payload, List.length_drop, List.length_take]
  omega

theorem left_of_done {transfer : Transfer Byte} (done : transfer.done = true) : transfer.left = [] := by
  have elapsed : transfer.size ≤ transfer.offset := of_decide_eq_true done
  have length := transfer.length_left
  exact List.eq_nil_of_length_eq_zero (by omega)

theorem length_of_done {transfer : Transfer Byte} (done : transfer.done = true) : transfer.moved.length = transfer.size := by
  have elapsed : transfer.size ≤ transfer.offset := of_decide_eq_true done
  have inside := transfer.inside
  rw [length_moved]
  omega

theorem payload_of_done {transfer : Transfer Byte} (done : transfer.done = true) : transfer.payload = transfer.moved := by
  have elapsed : transfer.size ≤ transfer.offset := of_decide_eq_true done
  rw [payload, moved, Nat.le_antisymm elapsed transfer.inside]

theorem send_stream : (transfer.send pipe count).2 ++ (transfer.send pipe count).1.left = pipe ++ transfer.left := by
  change pipe ++ transfer.left.take count ++
    transfer.payload.drop (transfer.offset + min count (transfer.size - transfer.offset)) = _
  have rest : transfer.payload.drop (transfer.offset + min count (transfer.size - transfer.offset)) =
      transfer.left.drop count := by
    have length := transfer.length_left
    rw [← List.drop_drop]
    change transfer.left.drop (min count (transfer.size - transfer.offset)) = _
    rcases Nat.le_total count (transfer.size - transfer.offset) with few | many
    · rw [Nat.min_eq_left few]
    · rw [Nat.min_eq_right many, ← length, List.drop_length, List.drop_eq_nil_of_le (by omega)]
  rw [rest, List.append_assoc, List.take_append_drop]

theorem send_length {transfer : Transfer Byte} {count : Nat} (fits : count ≤ transfer.size - transfer.offset) :
    (transfer.send pipe count).2.length = pipe.length + count ∧
      (transfer.send pipe count).1.left.length + count = transfer.left.length := by
  have length := transfer.length_left
  have stream := congrArg List.length (transfer.send_stream pipe count)
  have sent : (transfer.send pipe count).2.length = pipe.length + count := by
    change (pipe ++ transfer.left.take count).length = _
    rw [List.length_append, List.length_take, length, Nat.min_eq_left fits]
  rw [List.length_append, List.length_append, sent] at stream
  exact ⟨sent, by omega⟩

theorem receive_length {transfer : Transfer Byte} {pipe : List Byte} {count : Nat}
    (fits : count ≤ transfer.size - transfer.offset) (there : count ≤ pipe.length) :
    (transfer.receive pipe count).2.length + count = pipe.length := by
  change (pipe.drop (pipe.take (min count (transfer.size - transfer.offset))).length).length + count = _
  rw [List.length_drop, List.length_take, Nat.min_eq_left fits, Nat.min_eq_left there]
  omega

theorem take_drop_length (pipe : List Byte) (count : Nat) : pipe.take count ++ pipe.drop (pipe.take count).length = pipe := by
  rcases Nat.le_total count pipe.length with few | many
  · rw [List.length_take, Nat.min_eq_left few, List.take_append_drop]
  · rw [List.take_of_length_le many, List.drop_length, List.append_nil]

/-- A receipt puts the bytes that it takes from the pipe behind those that were moved. -/
theorem receive_stream : (transfer.receive pipe count).1.moved ++ (transfer.receive pipe count).2 =
    transfer.moved ++ pipe := by
  have received : (transfer.receive pipe count).1.moved =
      transfer.moved ++ pipe.take (min count (transfer.size - transfer.offset)) := by
    have length : (transfer.moved ++ pipe.take (min count (transfer.size - transfer.offset))).length =
        transfer.offset + (pipe.take (min count (transfer.size - transfer.offset))).length := by
      rw [List.length_append, length_moved]
    exact List.take_left' length
  rw [received, List.append_assoc]
  exact congrArg (transfer.moved ++ ·) (take_drop_length pipe _)

end Transfer

end SwaylockPlugin.Library
