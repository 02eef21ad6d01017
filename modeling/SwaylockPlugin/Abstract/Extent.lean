import SwaylockPlugin.Construction.Scene

namespace SwaylockPlugin

/-- The extent of a surface is what its size depends on besides its buffer. -/
structure Extent where
  scale : Int32
  transform : Int32
  destination : Int32 × Int32
  source : WlFixed × WlFixed × WlFixed × WlFixed
  deriving DecidableEq

/-- The extent of a surface state stands in its fields. -/
def SurfaceState.extent (state : SurfaceState) : Extent where
  scale := state.bufferScale
  transform := state.bufferTransform
  destination := (state.viewportDestWidth, state.viewportDestHeight)
  source := (state.viewportSourceX, state.viewportSourceY, state.viewportSourceW, state.viewportSourceH)

/-- The extent of an upstream surface is what was last sent to it. -/
def LastSent.extent (sent : LastSent) : Extent where
  scale := sent.bufferScale
  transform := sent.bufferTransform
  destination := sent.destination
  source := sent.source

/-- These transforms turn a buffer by 90 or 270 degrees, flipped or not. -/
def turns (transform : Int32) : Bool :=
  transform == 1 || transform == 3 || transform == 5 || transform == 7

/-- A fixed-point number is a whole number of units where it is divisible by 256. -/
def WlFixed.whole? (value : WlFixed) : Option Int :=
  if value.toInt % 256 = 0 then some (value.toInt / 256) else none

namespace Extent

/-- An unset part of a viewport is minus one in each coordinate. -/
def unset : WlFixed := wlFixedFromInt (-1)

/-- A viewport destination is set. -/
def scaled (extent : Extent) : Bool := extent.destination != (-1, -1)

/-- A viewport source is set. -/
def cropped (extent : Extent) : Bool := extent.source != (unset, unset, unset, unset)

/-- A buffer without a viewport has its size after the transform divided by the scale, which must be exact. -/
def bufferSize (extent : Extent) (width height : Nat) : Option (Int × Int) :=
  let turned : Int × Int := if turns extent.transform then (height, width) else (width, height)
  if turned.1 % extent.scale.toInt = 0 ∧ turned.2 % extent.scale.toInt = 0 then
    some (turned.1 / extent.scale.toInt, turned.2 / extent.scale.toInt)
  else none

/-- The size of a surface is its destination, or else its source, which must be whole, or else that of its buffer. -/
def localSize (extent : Extent) (width height : Nat) : Option (Int × Int) :=
  if extent.scaled then some (extent.destination.1.toInt, extent.destination.2.toInt)
  else if extent.cropped then do
    let width ← extent.source.2.2.1.whole?
    let height ← extent.source.2.2.2.whole?
    return (width, height)
  else extent.bufferSize width height

end Extent

end SwaylockPlugin
