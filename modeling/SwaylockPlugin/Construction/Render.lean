import SwaylockPlugin.Library.Machine
import SwaylockPlugin.Construction.PoolBuffer

namespace SwaylockPlugin.Render

open Library

/-- The text and the name of the layout widen and heighten a buffer, as far as they are shown. Cairo measures them in
floating point numbers, of which only the lengths in pixels are left. -/
structure Texts where
  widen : Int → Int
  heighten : Int → Int

/-- Without texts a buffer keeps its size. -/
def Texts.none : Texts := ⟨id, id⟩

/-- A length is filled up to a multiple of the scale, and by a whole scale where it is one already. -/
def roundToScale (length scale : Int) : Int := wrap32 (length + (scale - length.tmod scale))

/-- This is the size of the buffer that `render_frame` computes, unless it divides by a scale that is zero. -/
def indicatorSize (radius thickness : UInt32) (scale : Int) (texts : Texts) : Option (Int × Int) :=
  let arcRadius := wrap32 (radius.toNat * scale)
  let arcThickness := wrap32 (thickness.toNat * scale)
  let bufferDiameter := wrap32 ((arcRadius + arcThickness) * 2)
  let bufferWidth := texts.widen bufferDiameter
  let bufferHeight := texts.heighten bufferDiameter
  if scale = 0 then Option.none
  else some (roundToScale bufferWidth scale, roundToScale bufferHeight scale)

/-- This is the call of `create_buffer` in `render_fallback_surface`, for the configured size of the output and a buffer
of which nothing is known. -/
def renderFallbackSurface (memory : Memory) (buffer : PoolBuffer) (width height : UInt32) : Option PoolBuffer :=
  createBuffer memory buffer (wrap32 width.toNat) (wrap32 height.toNat)

/-- A lock state decides on a picture and on the texts in it. -/
structure Look (Picture : Type) where
  picture : Picture
  texts : Texts

/-- The part of a `swaylock_surface` for the indicator. The child surface is synchronized: what is committed for it is
kept until the surface itself is committed, and only then shown. -/
structure IndicatorSurface (Picture : Type) where
  width : UInt32
  height : UInt32
  scale : Int
  radius : UInt32
  thickness : UInt32
  hasBuffer : Bool
  dirty : Bool
  frame : Bool
  look : Look Picture
  indicatorBuffers : Fin 2 → PoolBuffer
  kept : Option (Option Picture)
  shown : Option Picture

/-- The program stops where it divides by a scale that is zero. -/
inductive RenderFault where
  | divisionByZero
  deriving DecidableEq

/-- Cairo refuses a stride that is too short for the width, and a picture needs memory for all of its rows. -/
def PoolBuffer.paints (buffer : PoolBuffer) : Bool :=
  buffer.buffer.isSome && buffer.surface.any fun surface =>
    decide (0 < surface.width) && decide (4 * surface.width ≤ surface.stride) &&
      buffer.data.bytes.any fun bytes => decide (surface.stride * surface.height ≤ bytes)

namespace IndicatorSurface

variable {Picture : Type}

/-- This is `render_frame` together with its result, where the positions and the shapes of the picture are left out. -/
def renderFrame (memory : Memory) (surface : IndicatorSurface Picture) :
    Except RenderFault (Bool × IndicatorSurface Picture) :=
  match indicatorSize surface.radius surface.thickness surface.scale surface.look.texts with
  | none => .error .divisionByZero
  | some (bufferWidth, bufferHeight) =>
      match getNextBuffer memory surface.indicatorBuffers bufferWidth bufferHeight with
      | (none, buffers) => .ok (false, { surface with indicatorBuffers := buffers })
      | (some index, buffers) =>
          let painted := if (buffers index).paints then some surface.look.picture else none
          .ok (true, { surface with
            indicatorBuffers := buffers
            kept := some painted })

/-- A commit of the surface shows what was kept for its child. -/
def commit (surface : IndicatorSurface Picture) : IndicatorSurface Picture :=
  { surface with
    kept := none
    shown := surface.kept.getD surface.shown }

/-- An output has a size once it is configured. -/
def configured (surface : IndicatorSurface Picture) : Bool :=
  wrap32 (surface.width.toNat * surface.scale) != 0 && wrap32 (surface.height.toNat * surface.scale) != 0

/-- This is `render`, which ignores the result of `render_frame`. -/
def render (memory : Memory) (surface : IndicatorSurface Picture) : Except RenderFault (IndicatorSurface Picture) :=
  if !surface.configured then .ok surface
  else if !surface.hasBuffer then .ok surface
  else if !surface.dirty || surface.frame then .ok surface
  else (surface.renderFrame memory).map fun result => { result.2 with dirty := false, frame := true }.commit

/-- This is `surface_frame_handle_done`. -/
def surfaceFrameHandleDone (memory : Memory) (surface : IndicatorSurface Picture) :
    Except RenderFault (IndicatorSurface Picture) :=
  { surface with frame := false }.render memory

/-- This is `damage_state` for one output, after the lock state changed. -/
def damageState (memory : Memory) (look : Look Picture) (surface : IndicatorSurface Picture) :
    Except RenderFault (IndicatorSurface Picture) :=
  { surface with look := look, dirty := true }.render memory

end IndicatorSurface

/-- The lock state is damaged, a frame is done, or the compositor releases a buffer, while the system answers. -/
inductive RenderEvent (Picture : Type) where
  | damage (look : Look Picture) (memory : Memory)
  | frameDone (memory : Memory)
  | release (index : Fin 2)

/-- An event is handled by its operation. -/
def handleRender {Picture : Type} (surface : IndicatorSurface Picture) :
    RenderEvent Picture → Except RenderFault (IndicatorSurface Picture)
  | .damage look memory => surface.damageState memory look
  | .frameDone memory => surface.surfaceFrameHandleDone memory
  | .release index => .ok { surface with indicatorBuffers := bufferRelease surface.indicatorBuffers index }

/-- A frame is done that was asked for, and a buffer is released that is there. -/
def renderEnabled {Picture : Type} (surface : IndicatorSurface Picture) : RenderEvent Picture → Bool
  | .damage _ _ => true
  | .frameDone _ => surface.frame
  | .release index => (surface.indicatorBuffers index).buffer.isSome

/-- An output that is configured and has a background starts without buffers for its indicator. -/
structure StartSurface {Picture : Type} (surface : IndicatorSurface Picture) : Prop where
  configured : surface.configured = true
  hasBuffer : surface.hasBuffer = true
  fresh : surface.indicatorBuffers = fun _ => .zero
  kept : surface.kept = none

def rendering (Picture : Type) : Program (IndicatorSurface Picture) (RenderEvent Picture) RenderFault where
  initial := StartSurface
  enabled surface event := renderEnabled surface event = true
  decideEnabled _ _ := inferInstance
  next := handleRender

end SwaylockPlugin.Render
