import Mathlib.Logic.Function.Basic
import SwaylockPlugin.Library.Words

namespace SwaylockPlugin.Render

open Library

/-- The system opens a file, gives it a size and maps it, or not. -/
structure Memory where
  opened : Bool
  truncated : Bool
  mapped : Bool
  deriving DecidableEq

/-- The memory of a buffer is the null pointer, what `mmap` returns where it fails, or a mapping of some bytes. -/
inductive BufferData where
  | null
  | failed
  | mapping (bytes : Int)
  deriving DecidableEq

/-- The number of bytes behind the memory of a buffer, where it is no failure. -/
def BufferData.bytes : BufferData → Option Int
  | .null => some 0
  | .failed => none
  | .mapping bytes => some bytes

/-- The compositor learns the size of a pool and of its only buffer. -/
structure WlBuffer where
  poolSize : Int
  width : Int
  height : Int
  stride : Int
  deriving DecidableEq

/-- Cairo draws into memory with a size and a stride. -/
structure CairoSurface where
  data : BufferData
  width : Int
  height : Int
  stride : Int
  deriving DecidableEq

/-- This is the `pool_buffer` structure, in which the null pointers are `none`. -/
structure PoolBuffer where
  buffer : Option WlBuffer
  surface : Option CairoSurface
  width : Int
  height : Int
  data : BufferData
  size : Int
  busy : Bool
  deriving DecidableEq

namespace PoolBuffer

/-- A buffer starts with zeros, and `destroy_buffer` leaves zeros behind. -/
def zero : PoolBuffer := ⟨none, none, 0, 0, .null, 0, false⟩

/-- A buffer with its memory gets a surface for cairo. -/
def dress (buf : PoolBuffer) (width height stride size : Int) (data : BufferData) : PoolBuffer :=
  { buf with
    size
    width := width % 2 ^ 32
    height := height % 2 ^ 32
    data
    surface := some ⟨data, width, height, wrap32 stride⟩ }

end PoolBuffer

/-- This is `create_buffer`, which gets the width and the height as 32 bit integers with a sign and computes the stride
and the size as ones without. -/
def createBuffer (memory : Memory) (buf : PoolBuffer) (width height : Int) : Option PoolBuffer :=
  let stride := width * 4 % 2 ^ 32
  let size := stride * height % 2 ^ 32
  if 0 < size then
    if !memory.opened then none
    else if !memory.truncated then none
    else
      let data := if memory.mapped then .mapping size else .failed
      some ({ buf with buffer := some ⟨wrap32 size, width, height, wrap32 stride⟩ }.dress width height stride size data)
  else some (buf.dress width height stride size .null)

/-- This is `buffer_release` for one of the two buffers. -/
def bufferRelease (pool : Fin 2 → PoolBuffer) (index : Fin 2) : Fin 2 → PoolBuffer :=
  Function.update pool index { pool index with busy := false }

/-- The last one of the two buffers that is not busy is taken. -/
def freeBuffer (pool : Fin 2 → PoolBuffer) : Option (Fin 2) :=
  if !(pool 1).busy then some 1 else if !(pool 0).busy then some 0 else none

/-- This is `get_next_buffer`, which leaves a destroyed buffer behind where no other one can be created. -/
def getNextBuffer (memory : Memory) (pool : Fin 2 → PoolBuffer) (width height : Int) :
    Option (Fin 2) × (Fin 2 → PoolBuffer) :=
  match freeBuffer pool with
  | none => (none, pool)
  | some index =>
      let old := pool index
      let buffer := if old.width ≠ width % 2 ^ 32 ∨ old.height ≠ height % 2 ^ 32 then .zero else old
      let created :=
        if buffer.buffer.isNone then createBuffer memory buffer (wrap32 width) (wrap32 height) else some buffer
      match created with
      | none => (none, Function.update pool index buffer)
      | some buffer => (some index, Function.update pool index { buffer with busy := true })

end SwaylockPlugin.Render
