import PlanarCrop.Fault

/-!
# Byte buffers

A buffer is an array of bytes. Two operations are all that cropping needs: a
checked cut, and the replacement of a byte range by as many other bytes. The
replacement is described by where each byte of the outcome comes from.
-/

namespace PlanarCrop

abbrev Bytes := Array UInt8

namespace Bytes

/-- A buffer of `n` bytes, all equal to `value`. -/
def filled (n : Nat) (value : UInt8) : Bytes := Array.replicate n value

/-- A buffer of `n` zero bytes. -/
def zeros (n : Nat) : Bytes := filled n 0

/-- The bytes from `start` up to, not including, `stop`. -/
def slice (b : Bytes) (start stop : Nat) : Except Fault Bytes :=
  if start ≤ stop ∧ stop ≤ b.size then .ok (b.extract start stop) else .error .outOfBounds

/-- The buffer with the bytes from `start` on replaced by `new`. -/
def overwrite (b : Bytes) (start : Nat) (new : Bytes) : Bytes :=
  b.extract 0 start ++ new ++ b.extract (start + new.size) b.size

/-- The buffer cut to `n` bytes, or filled up to `n` bytes with `value`. -/
def resize (b : Bytes) (n : Nat) (value : UInt8) : Bytes :=
  b.extract 0 n ++ filled (n - b.size) value

@[simp] theorem size_zeros (n : Nat) : (zeros n).size = n := by
  simp [zeros, filled]

theorem slice_eq_ok_iff {b c : Bytes} {start stop : Nat} :
    b.slice start stop = .ok c ↔ start ≤ stop ∧ stop ≤ b.size ∧ c = b.extract start stop := by
  unfold slice
  split
  · next h => simp [h, eq_comm]
  · next h =>
    constructor
    · intro hc
      cases hc
    · rintro ⟨h₁, h₂, _⟩
      exact absurd ⟨h₁, h₂⟩ h

theorem size_overwrite {b new : Bytes} {start : Nat} (h : start + new.size ≤ b.size) :
    (b.overwrite start new).size = b.size := by
  simp [overwrite]
  omega

/-- Inside the range the new bytes are read, outside it the old ones. -/
theorem getElem?_overwrite {b new : Bytes} {start : Nat} (h : start + new.size ≤ b.size)
    (i : Nat) :
    (b.overwrite start new)[i]? =
      if start ≤ i ∧ i < start + new.size then new[i - start]? else b[i]? := by
  have hstart : min start b.size = start := by omega
  simp only [overwrite, Array.getElem?_append, Array.size_append, Array.size_extract,
    Array.getElem?_extract, hstart, Nat.sub_zero, Nat.zero_add]
  rcases Nat.lt_or_ge i start with hlt | hge
  · rw [if_pos (by omega), if_pos hlt, if_pos (by omega), if_neg (by omega)]
  · rcases Nat.lt_or_ge i (start + new.size) with hin | hout
    · rw [if_pos (by omega), if_neg (by omega), if_pos ⟨hge, hin⟩]
    · rw [if_neg (by omega), if_neg (by omega : ¬(start ≤ i ∧ i < start + new.size))]
      have hback : start + new.size + (i - (start + new.size)) = i := by omega
      rw [hback]
      split
      · rfl
      · next hend => exact (Array.getElem?_eq_none (by omega)).symm

/-- The range that was replaced is read back as it was written. -/
theorem extract_overwrite {b new : Bytes} {start : Nat} (h : start + new.size ≤ b.size) :
    (b.overwrite start new).extract start (start + new.size) = new := by
  refine Array.ext_getElem? fun i => ?_
  rw [Array.getElem?_extract, size_overwrite h, Nat.min_eq_left h, Nat.add_sub_cancel_left]
  split
  · next hi => rw [getElem?_overwrite h, if_pos (by omega), Nat.add_sub_cancel_left]
  · next hi => exact (Array.getElem?_eq_none (Nat.not_lt.1 hi)).symm

/-- A range beside the one that was replaced is read as before. -/
theorem extract_overwrite_of_apart {b new : Bytes} {start lo hi : Nat}
    (h : start + new.size ≤ b.size) (hapart : hi ≤ start ∨ start + new.size ≤ lo) :
    (b.overwrite start new).extract lo hi = b.extract lo hi := by
  refine Array.ext_getElem? fun i => ?_
  rw [Array.getElem?_extract, Array.getElem?_extract, size_overwrite h]
  split
  · next hi => rw [getElem?_overwrite h, if_neg (by omega)]
  · rfl

end Bytes

end PlanarCrop
