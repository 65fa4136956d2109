import PlanarCrop.Event
import PlanarCrop.Frame
import PlanarCrop.Plan
import PlanarCrop.Staging

/-!
# Cropping one frame

The three windows of a plan are copied into the staging buffer one after the
other, the byte that may be left over behind the last plane is set to zero, and
the staging buffer then becomes the content of the frame. Between them the slots
and the trailing byte cover the whole staging buffer.

Before anything is written the frame and the staging buffer are looked at: the
size of the frame first, the length of its buffer next, the length of the
staging buffer last. A plan without margins looks at nothing.
-/

namespace PlanarCrop

/-- What is left after an attempt to crop one frame. -/
structure FrameCrop where
  outcome : Except Failure Unit
  frame : Frame
  staging : Staging
  events : List Event

namespace Plan

/-- The number of bytes of the cropped frame, if the frame and the staging buffer
are those of the plan. -/
def check (p : Plan) (frame : Frame) (staging : Staging) : Except Failure Nat := do
  if frame.size ≠ p.source then
    throw (.invalid (.sizeMismatch p.resolution frame.size p.source))
  frame.checkLength
  let needed ← Failure.ofFault p.croppedBytes
  if staging.data.size ≠ needed then
    throw (.invalid (.stagingMismatch p.resolution staging.data.size needed))
  return needed

/-- The buffer with the slot of one plane filled. -/
def stagePlane (p : Plan) (src dst : Bytes) (plane : Plane) : Except Fault Bytes := do
  let w ← p.window plane
  w.copy src dst

/-- The buffer with everything behind the last plane set to zero. -/
def clearTail (p : Plan) (dst : Bytes) : Except Fault Bytes := do
  let last ← p.window .v
  let (_, stop) ← last.dest.range
  if stop ≤ dst.size then
    return dst.overwrite stop (Bytes.zeros (dst.size - stop))
  else
    throw .outOfBounds

/-- The content of the staging buffer after the frame with the bytes `src` was
cropped into it. -/
def stage (p : Plan) (src staging : Bytes) : Except Fault Bytes := do
  let planes ← Plane.all.foldlM (p.stagePlane src) staging
  p.clearTail planes

/-- Crops a frame by way of a staging buffer. -/
def cropFrame (p : Plan) (frame : Frame) (staging : Staging) : FrameCrop :=
  if p.isIdentity then
    { outcome := .ok (), frame, staging, events := [] }
  else
    match p.check frame staging with
    | .error failure => { outcome := .error failure, frame, staging, events := [] }
    | .ok needed =>
      match p.stage frame.data staging.data with
      | .error fault => { outcome := .error (.fault fault), frame, staging, events := [] }
      | .ok bytes =>
        if needed ≤ frame.data.size then
          { outcome := .ok ()
            frame := { size := p.cropped, data := bytes }
            staging := { staging with data := bytes }
            events := [.frameCropped p.resolution p.source p.cropped] }
        else
          { outcome := .error (.fault .outOfBounds)
            frame
            staging := { staging with data := bytes }
            events := [] }

end Plan

end PlanarCrop
