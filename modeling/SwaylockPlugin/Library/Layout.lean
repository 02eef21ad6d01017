import Mathlib.Algebra.Group.Nat.Defs
import Mathlib.Data.Nat.Basic
import Mathlib.Logic.Function.Basic
import Mathlib.Data.List.Basic

namespace SwaylockPlugin.Library

/-- A type in memory has a size and an alignment. -/
structure Shape where
  size : Nat
  align : Nat

/-- An offset is rounded up to an alignment. -/
def alignUp (offset align : Nat) : Nat := (offset + (align - 1)) / align * align

namespace Shape

/-- A scalar is aligned to its size. -/
def scalar (size : Nat) : Shape := ⟨size, size⟩

/-- An array has its elements one after the other. -/
def array (length : Nat) (shape : Shape) : Shape := ⟨length * shape.size, shape.align⟩

/-- The fields of a structure end at this offset when they start at another one. -/
def fieldsEnd (start : Nat) : List Shape → Nat
  | [] => start
  | field :: rest => fieldsEnd (alignUp start field.align + field.size) rest

/-- A structure is aligned like its fields and filled up to its alignment. -/
def struct (fields : List Shape) : Shape :=
  let align := (fields.map Shape.align).foldl max 1
  ⟨alignUp (fieldsEnd 0 fields) align, align⟩

end Shape

/-- A field of a structure lies at the first aligned offset behind the fields before it. -/
def offsetFrom {Field : Type} [DecidableEq Field] (start : Nat) : List (Field × Shape) → Field → Nat
  | [], _ => start
  | (name, shape) :: rest, field =>
      if name = field then alignUp start shape.align
      else offsetFrom (alignUp start shape.align + shape.size) rest field

/-- The memory holds a byte at every address, of which zero is the null pointer. -/
abbrev Memory := Nat → UInt8

namespace Memory

/-- A word is read with its lowest byte first. -/
def read (memory : Memory) (address : Nat) : Nat → Nat
  | 0 => 0
  | size + 1 => (memory address).toNat + 256 * memory.read (address + 1) size

/-- A word is written with its lowest byte first. -/
def write (memory : Memory) (address : Nat) (value : Nat) : Nat → Memory
  | 0 => memory
  | size + 1 => write (Function.update memory address (UInt8.ofNat value)) (address + 1) (value / 256) size

theorem write_outside (memory : Memory) {address other : Nat} (value : Nat) {size : Nat}
    (outside : other < address ∨ address + size ≤ other) : memory.write address value size other = memory other := by
  induction size generalizing memory address value with
  | zero => rfl
  | succ size ih =>
      rw [write, ih _ _ (by omega), Function.update_of_ne (by omega)]

theorem read_congr {memory other : Memory} {address : Nat} {size : Nat}
    (same : ∀ byte, address ≤ byte → byte < address + size → other byte = memory byte) :
    other.read address size = memory.read address size := by
  induction size generalizing address with
  | zero => rfl
  | succ size ih =>
      rw [read, read, same address (Nat.le_refl _) (by omega),
        ih fun byte above below => same byte (by omega) (by omega)]

theorem read_write_apart (memory : Memory) {address other : Nat} (value : Nat) {size width : Nat}
    (apart : other + width ≤ address ∨ address + size ≤ other) :
    (memory.write address value size).read other width = memory.read other width :=
  read_congr fun byte above below => write_outside memory value (by omega)

theorem read_write (memory : Memory) (address : Nat) {value size : Nat} (fits : value < 256 ^ size) :
    (memory.write address value size).read address size = value := by
  induction size generalizing memory address value with
  | zero =>
      rw [Nat.pow_zero] at fits
      rw [read]
      omega
  | succ size ih =>
      have rest : value / 256 < 256 ^ size := by
        rw [Nat.div_lt_iff_lt_mul (by decide)]
        rw [Nat.pow_succ] at fits
        exact fits
      rw [read, write, ih _ _ rest, write_outside _ _ (by omega), Function.update_self,
        UInt8.toNat_ofNat']
      omega

theorem even_lowest (memory : Memory) {address : Nat} {size : Nat} (positive : 0 < size)
    (even : memory.read address size % 2 = 0) : (memory address).toNat % 2 = 0 := by
  cases size with
  | zero => omega
  | succ size =>
      rw [read] at even
      omega

end Memory

end SwaylockPlugin.Library
