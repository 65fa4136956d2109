import PlanarCrop.Size

/-!
# Planes and where they lie in a frame

A frame holds its three planes one after the other in one buffer: luma, then the
two chroma planes. A chroma plane has half the luma's width and height, both
rounded down, and a quarter of its bytes, rounded down; for odd sizes its rows
do not fill the bytes set aside for it.
-/

namespace PlanarCrop

/-- One of the three planes of a frame. -/
inductive Plane where
  /-- Luma, in full resolution. -/
  | y
  /-- Blue-difference chroma, in half resolution. -/
  | u
  /-- Red-difference chroma, in half resolution. -/
  | v
deriving DecidableEq

namespace Plane

/-- The planes in the order of the buffer. -/
def all : List Plane := [.y, .u, .v]

def name : Plane → String
  | .y => "Y"
  | .u => "U"
  | .v => "V"

def isChroma : Plane → Bool
  | .y => false
  | .u => true
  | .v => true

end Plane

/-- Place and shape of a plane in a buffer. -/
structure Layout where
  /-- Where the plane starts. -/
  offset : Nat
  /-- Bytes set aside for the plane. -/
  len : Nat
  /-- Bytes of a row. -/
  rowWidth : Nat
  /-- Number of rows. -/
  rows : Nat
deriving DecidableEq

namespace Layout

/-- The layout of a plane in a frame of the given size. Only the start of the
last plane can be too large a number. -/
def of (size : Size) : Plane → Except Fault Layout
  | .y => .ok ⟨0, size.lumaBytes, size.width.toNat, size.height.toNat⟩
  | .u => .ok ⟨size.lumaBytes, size.chromaBytes, size.width.toNat / 2, size.height.toNat / 2⟩
  | .v => do
    let offset ← checkedCount (size.lumaBytes + size.chromaBytes)
    return ⟨offset, size.chromaBytes, size.width.toNat / 2, size.height.toNat / 2⟩

/-- First byte of the plane, and the first byte after it. -/
def range (l : Layout) : Except Fault (Nat × Nat) := do
  let stop ← checkedCount (l.offset + l.len)
  return (l.offset, stop)

theorem range_eq_ok_iff {l : Layout} {r : Nat × Nat} :
    l.range = .ok r ↔ l.offset + l.len < countLimit ∧ r = (l.offset, l.offset + l.len) := by
  unfold range checkedCount
  split
  · next h => simp [h, bind, Except.bind, pure, Except.pure, eq_comm]
  · next h => simp [h, bind, Except.bind]

end Layout

end PlanarCrop
