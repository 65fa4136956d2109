import PlanarCrop.Resolution

/-!
# Rotation before the crop

Frames arrive already rotated. A quarter turn either way exchanges width and
height, so the sizes a stream was captured with have to be exchanged too before
anything is computed from them.
-/

namespace PlanarCrop

/-- A clockwise rotation by a multiple of a quarter turn. -/
inductive Rotation where
  | upright
  | quarter
  | half
  | threeQuarters
deriving DecidableEq

/-- An angle that is not a multiple of a quarter turn below a full turn. -/
structure BadAngle where
  degrees : UInt16
deriving DecidableEq

def BadAngle.message (e : BadAngle) : String :=
  s!"rotation must be 0, 90, 180 or 270 degrees, got {e.degrees}"

namespace Rotation

def degrees : Rotation → UInt16
  | .upright => 0
  | .quarter => 90
  | .half => 180
  | .threeQuarters => 270

/-- The rotation by an angle, if it is a multiple of a quarter turn below a full
turn. -/
def ofDegrees (degrees : UInt16) : Except BadAngle Rotation :=
  if degrees = 0 then .ok .upright
  else if degrees = 90 then .ok .quarter
  else if degrees = 180 then .ok .half
  else if degrees = 270 then .ok .threeQuarters
  else .error ⟨degrees⟩

/-- Whether the rotation exchanges width and height. -/
def swapsSides : Rotation → Bool
  | .quarter => true
  | .threeQuarters => true
  | _ => false

/-- The size of a frame after the rotation. -/
def apply (r : Rotation) (size : Size) : Size :=
  if r.swapsSides then size.transpose else size

/-- The sizes of a stream after the rotation. -/
def applyStream (r : Rotation) (sizes : StreamSizes) : StreamSizes :=
  ⟨r.apply sizes.normal, r.apply sizes.high⟩

theorem ofDegrees_degrees (r : Rotation) : ofDegrees r.degrees = .ok r := by
  cases r <;> rfl

theorem degrees_of_ofDegrees {d : UInt16} {r : Rotation} (h : ofDegrees d = .ok r) :
    r.degrees = d := by
  unfold ofDegrees at h
  split at h
  · next hd => cases h; exact hd.symm
  · split at h
    · next hd => cases h; exact hd.symm
    · split at h
      · next hd => cases h; exact hd.symm
      · split at h
        · next hd => cases h; exact hd.symm
        · cases h

end Rotation

end PlanarCrop
