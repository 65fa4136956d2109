import PlanarCrop.Bytes
import PlanarCrop.CropError

/-!
# Staging buffers

A staging buffer is scratch memory for one cropped frame. It is asked for once,
when a stream is set up, and every later crop overwrites it. The memory comes
from an allocator, which answers a request for a number of bytes with a buffer or
with an error. A buffer of another length than was asked for is refused.
-/

namespace PlanarCrop

/-- The answer to each request for memory. -/
abbrev Allocator := Resolution → Nat → Except CropError Bytes

namespace Allocator

/-- Hands out zero bytes as long as `available` says that there is memory. -/
def zeroFilled (available : Resolution → Nat → Bool) : Allocator := fun resolution n =>
  if available resolution n then .ok (Bytes.zeros n) else .error (.allocation resolution n)

/-- The memory of the machine: requests below `2 ^ 48` bytes are served. -/
def system : Allocator := zeroFilled fun _ n => n < 0x1000000000000

end Allocator

/-- Scratch memory for the cropped frames of one resolution. -/
structure Staging where
  resolution : Resolution
  data : Bytes
deriving DecidableEq

namespace Staging

/-- A staging buffer of exactly `n` bytes. -/
def allocate (allocator : Allocator) (resolution : Resolution) (n : Nat) :
    Except CropError Staging := do
  let data ← allocator resolution n
  if data.size = n then
    return ⟨resolution, data⟩
  else
    throw (.allocation resolution n)

theorem size_of_allocate {allocator : Allocator} {resolution : Resolution} {n : Nat}
    {s : Staging} (h : allocate allocator resolution n = .ok s) : s.data.size = n := by
  unfold allocate at h
  cases ha : allocator resolution n with
  | error e => simp [ha, bind, Except.bind] at h
  | ok data =>
    simp only [ha, bind, Except.bind, pure, Except.pure] at h
    split at h
    · next hn => cases h; exact hn
    · cases h

end Staging

end PlanarCrop
