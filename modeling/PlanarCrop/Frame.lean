import PlanarCrop.Bytes
import PlanarCrop.CropError
import PlanarCrop.Plane

/-!
# Frames

A frame is a size and one buffer with the three planes. The buffer may be longer
than the size asks for; only as many bytes as the size asks for mean anything.
A frame can also be put together without that check, so every access to a plane
looks whether the buffer reaches that far.
-/

namespace PlanarCrop

/-- A planar 4:2:0 frame in one buffer. -/
structure Frame where
  size : Size
  data : Bytes
deriving DecidableEq

namespace Frame

/-- A frame of zero bytes. -/
def zeroed (size : Size) : Except Fault Frame := do
  let n ← size.frameBytes
  return ⟨size, Bytes.zeros n⟩

/-- Number of bytes that mean something. -/
def validBytes (f : Frame) : Except Fault Nat := f.size.frameBytes

/-- Refuses a buffer that is shorter than the frame's size asks for. -/
def checkLength (f : Frame) : Except Failure Unit := do
  let needed ← Failure.ofFault f.validBytes
  if f.data.size < needed then
    throw (.invalid (.shortBuffer f.size needed f.data.size))

/-- A frame whose buffer covers all its planes. -/
def ofBytes (size : Size) (data : Bytes) : Except Failure Frame := do
  let f : Frame := ⟨size, data⟩
  f.checkLength
  return f

/-- The bytes of one plane. -/
def plane (f : Frame) (p : Plane) : Except Fault Bytes := do
  let layout ← Layout.of f.size p
  let (start, stop) ← layout.range
  f.data.slice start stop

/-- The frame with the bytes of one plane replaced by what `change` makes of
them. What `change` returns has to have as many bytes as it was given. -/
def changePlane (f : Frame) (p : Plane) (change : Bytes → Except Fault Bytes) :
    Except Fault Frame := do
  let layout ← Layout.of f.size p
  let (start, stop) ← layout.range
  let old ← f.data.slice start stop
  let new ← change old
  if new.size = old.size then
    return { f with data := f.data.overwrite start new }
  else
    throw .outOfBounds

/-- The frame with all bytes of one plane set to `value`. -/
def fillPlane (f : Frame) (p : Plane) (value : UInt8) : Except Fault Frame :=
  f.changePlane p fun old => .ok (Bytes.filled old.size value)

/-- The frame with the byte at position `i` of one plane set to `value`. -/
def setByte (f : Frame) (p : Plane) (i : Nat) (value : UInt8) : Except Fault Frame :=
  f.changePlane p fun old =>
    if i < old.size then .ok (old.overwrite i #[value]) else .error .outOfBounds

/-- The frame with its buffer cut or filled up to `n` bytes. -/
def resize (f : Frame) (n : Nat) (value : UInt8) : Frame :=
  { f with data := f.data.resize n value }

end Frame

/-- What was captured at one moment: a frame in the normal resolution and perhaps
one in the high resolution. -/
structure Capture where
  normal : Frame
  high : Option Frame
deriving DecidableEq

namespace Capture

def normalOnly (normal : Frame) : Capture := ⟨normal, none⟩

/-- The frame of a resolution, if it was captured. -/
def get? (s : Capture) : Resolution → Option Frame
  | .normal => some s.normal
  | .high => s.high

/-- The set with the frame of one resolution replaced. -/
def set (s : Capture) (r : Resolution) (frame : Frame) : Capture :=
  match r with
  | .normal => { s with normal := frame }
  | .high => { s with high := some frame }

theorem get?_set (s : Capture) (r q : Resolution) (frame : Frame) :
    (s.set r frame).get? q = if q = r then some frame else s.get? q := by
  cases r <;> cases q <;> rfl

end Capture

end PlanarCrop
