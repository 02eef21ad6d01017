import Mathlib.Algebra.Group.Nat.Defs
import Mathlib.Data.Nat.Basic
import Mathlib.Data.List.Basic

namespace SwaylockPlugin.Library

/-- A number is laid out in some bytes with its lowest byte first. -/
def lowestFirst : Nat → Nat → List UInt8
  | 0, _ => []
  | width + 1, value => UInt8.ofNat value :: lowestFirst width (value / 256)

/-- A number is read from bytes with its lowest byte first. -/
def ofLowestFirst : List UInt8 → Nat
  | [] => 0
  | byte :: bytes => byte.toNat + 256 * ofLowestFirst bytes

theorem length_lowestFirst (width value : Nat) : (lowestFirst width value).length = width := by
  induction width generalizing value with
  | zero => rfl
  | succ width ih => rw [lowestFirst, List.length_cons, ih]

theorem ofLowestFirst_lowestFirst {width value : Nat} (fits : value < 256 ^ width) :
    ofLowestFirst (lowestFirst width value) = value := by
  induction width generalizing value with
  | zero =>
      rw [Nat.pow_zero] at fits
      change 0 = value
      omega
  | succ width ih =>
      have rest : value / 256 < 256 ^ width := by
        rw [Nat.div_lt_iff_lt_mul (by decide)]
        rw [Nat.pow_succ] at fits
        exact fits
      rw [lowestFirst, ofLowestFirst, ih rest, UInt8.toNat_ofNat']
      omega

/-- A framing puts a header of a fixed width in front of a message, which tells the length of the message. -/
structure Framing (Byte : Type) where
  width : Nat
  header : Nat → List Byte
  lengthOf : List Byte → Nat
  limit : Nat
  positive : 0 < width
  length_header : ∀ length, (header length).length = width
  lengthOf_header : ∀ length, length < limit → lengthOf (header length) = length

namespace Framing

variable {Byte : Type} (framing : Framing Byte)

/-- A frame is a header with its message. -/
def frame (message : List Byte) : List Byte := framing.header message.length ++ message

/-- A stream consists of the frames of its messages in order. -/
def stream (messages : List (List Byte)) : List Byte := messages.flatMap framing.frame

@[simp] theorem stream_nil : framing.stream [] = [] := rfl

@[simp] theorem stream_cons (message : List Byte) (messages : List (List Byte)) :
    framing.stream (message :: messages) = framing.header message.length ++ (message ++ framing.stream messages) := by
  rw [stream, List.flatMap_cons, frame, List.append_assoc]
  rfl

theorem stream_snoc (messages : List (List Byte)) (message : List Byte) :
    framing.stream (messages ++ [message]) = framing.stream messages ++ framing.frame message := by
  rw [stream, List.flatMap_append, List.flatMap_singleton]
  rfl

variable {framing}

theorem of_header {messages : List (List Byte)} {got rest : List Byte} (same : got ++ rest = framing.stream messages)
    (full : got.length = framing.width) : ∃ message later, messages = message :: later ∧
      got = framing.header message.length ∧ rest = message ++ framing.stream later := by
  cases messages with
  | nil =>
      have nothing := congrArg List.length same
      rw [stream_nil, List.length_append, full] at nothing
      exact absurd nothing (by have positive := framing.positive; simp; omega)
  | cons message later =>
      rw [stream_cons] at same
      obtain ⟨header, body⟩ := List.append_inj same (full.trans (framing.length_header _).symm)
      exact ⟨message, later, rfl, header, body⟩

theorem of_message {later : List (List Byte)} {got rest message : List Byte}
    (same : got ++ rest = message ++ framing.stream later) (full : got.length = message.length) :
    got = message ∧ rest = framing.stream later :=
  List.append_inj same full

end Framing

/-- A number of bytes that fits a word is told by the word with its lowest byte first. -/
def Framing.word (width : Nat) (positive : 0 < width) : Framing UInt8 where
  width := width
  header := lowestFirst width
  lengthOf := ofLowestFirst
  limit := 256 ^ width
  positive := positive
  length_header := length_lowestFirst width
  lengthOf_header _ fits := ofLowestFirst_lowestFirst fits

end SwaylockPlugin.Library
