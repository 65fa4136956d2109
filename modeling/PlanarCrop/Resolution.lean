import PlanarCrop.Size

/-!
# Resolutions of a stream

A capture stream delivers every frame in a normal resolution and, if it was set
up so, in a high one as well. The high resolution counts as present when neither
of its sides is zero; the normal one is always present.
-/

namespace PlanarCrop

/-- One of the two resolutions of a stream. -/
inductive Resolution where
  | normal
  | high
deriving DecidableEq

namespace Resolution

/-- Both resolutions, in the order in which they are worked on. -/
def all : List Resolution := [.normal, .high]

/-- The place of a resolution in that order. -/
def index : Resolution → Nat
  | .normal => 0
  | .high => 1

def name : Resolution → String
  | .normal => "normal"
  | .high => "high"

theorem mem_all (r : Resolution) : r ∈ all := by
  cases r <;> decide

theorem nodup_all : all.Nodup := by decide

end Resolution

/-- The size of the frames of a stream in each resolution. -/
structure StreamSizes where
  normal : Size
  high : Size
deriving DecidableEq

namespace StreamSizes

def zero : StreamSizes := ⟨.zero, .zero⟩

/-- A stream without a high resolution. -/
def normalOnly (normal : Size) : StreamSizes := ⟨normal, .zero⟩

/-- The size on record for a resolution, present or not. -/
def sizeOf (s : StreamSizes) : Resolution → Size
  | .normal => s.normal
  | .high => s.high

/-- Whether the stream delivers frames of this resolution. -/
def has (s : StreamSizes) : Resolution → Bool
  | .normal => true
  | .high => !s.high.isEmpty

/-- The size of a resolution that is present. -/
def get? (s : StreamSizes) (r : Resolution) : Option Size :=
  if s.has r then some (s.sizeOf r) else none

/-- The sizes with that of one resolution replaced. -/
def set (s : StreamSizes) (r : Resolution) (size : Size) : StreamSizes :=
  match r with
  | .normal => { s with normal := size }
  | .high => { s with high := size }

/-- The resolutions that are present with their sizes, in working order. -/
def present (s : StreamSizes) : List (Resolution × Size) :=
  Resolution.all.filterMap fun r => (s.get? r).map fun size => (r, size)

theorem present_eq (s : StreamSizes) :
    s.present = (Resolution.all.filter s.has).map fun r => (r, s.sizeOf r) := by
  cases hhigh : s.has .high <;>
    simp [present, Resolution.all, get?, hhigh, show s.has .normal = true from rfl]

theorem sizeOf_set (s : StreamSizes) (r q : Resolution) (size : Size) :
    (s.set r size).sizeOf q = if q = r then size else s.sizeOf q := by
  cases r <;> cases q <;> rfl

theorem ext_sizeOf {a b : StreamSizes} (h : ∀ r, a.sizeOf r = b.sizeOf r) : a = b := by
  cases a
  cases b
  exact congr (congrArg StreamSizes.mk (h .normal)) (h .high)

theorem get?_eq_some_iff {s : StreamSizes} {r : Resolution} {size : Size} :
    s.get? r = some size ↔ s.has r = true ∧ s.sizeOf r = size := by
  rw [get?]
  split
  · next h => simp [h]
  · next h => simp [h]

theorem get?_eq_none_iff {s : StreamSizes} {r : Resolution} :
    s.get? r = none ↔ r = .high ∧ s.high.isEmpty = true := by
  cases r <;> simp [get?, has]

theorem mem_present_iff {s : StreamSizes} {r : Resolution} {size : Size} :
    (r, size) ∈ s.present ↔ s.get? r = some size := by
  cases r <;> simp [present, Resolution.all]

end StreamSizes

end PlanarCrop
