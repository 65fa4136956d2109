import PlanarCrop.Fault

/-!
# Frame sizes

A size is a width and a height in pixels, each of 32 bits. In the 4:2:0 planar
form a frame of that size has one luma byte per pixel and two chroma planes of a
quarter as many bytes, rounded down. The luma count of any size fits 64 bits;
three times it may not, and then the byte count of the whole frame is a fault.
-/

namespace PlanarCrop

/-- Width and height in pixels. -/
structure Size where
  width : UInt32
  height : UInt32
deriving DecidableEq

namespace Size

def zero : Size := ⟨0, 0⟩

/-- A size with a side of zero holds no pixel. -/
def isEmpty (s : Size) : Bool := s.width == 0 || s.height == 0

/-- Width and height exchanged. -/
def transpose (s : Size) : Size := ⟨s.height, s.width⟩

/-- Bytes of the luma plane. -/
def lumaBytes (s : Size) : Nat := s.width.toNat * s.height.toNat

/-- Bytes set aside for each chroma plane. -/
def chromaBytes (s : Size) : Nat := s.lumaBytes / 4

/-- Bytes of a whole frame: three halves of the luma count, rounded down. The
threefold count has to fit 64 bits. -/
def frameBytes (s : Size) : Except Fault Nat := do
  let triple ← checkedCount (s.lumaBytes * 3)
  return triple / 2

/-- The size as it appears in messages, such as `640x480`. -/
def text (s : Size) : String := s!"{s.width}x{s.height}"

@[simp] theorem transpose_transpose (s : Size) : s.transpose.transpose = s := rfl

theorem isEmpty_transpose (s : Size) : s.transpose.isEmpty = s.isEmpty := by
  simp [isEmpty, transpose, Bool.or_comm]

theorem lumaBytes_transpose (s : Size) : s.transpose.lumaBytes = s.lumaBytes := by
  simp [lumaBytes, transpose, Nat.mul_comm]

theorem lumaBytes_lt (s : Size) : s.lumaBytes < countLimit := by
  have hw := s.width.toNat_lt
  have hh := s.height.toNat_lt
  calc s.lumaBytes ≤ (2 ^ 32 - 1) * (2 ^ 32 - 1) := Nat.mul_le_mul (by omega) (by omega)
    _ < countLimit := by decide

theorem lumaBytes_of_isEmpty {s : Size} (h : s.isEmpty = true) : s.lumaBytes = 0 := by
  rw [isEmpty, Bool.or_eq_true, beq_iff_eq, beq_iff_eq] at h
  rw [lumaBytes]
  rcases h with h | h <;> rw [h] <;> simp

theorem toNat_pos_of_isEmpty (size : Size) (h : size.isEmpty = false) :
    0 < size.width.toNat ∧ 0 < size.height.toNat := by
  rw [isEmpty, Bool.or_eq_false_iff, beq_eq_false_iff_ne, beq_eq_false_iff_ne] at h
  have hpos {a : UInt32} (ha : a ≠ 0) : 0 < a.toNat :=
    Nat.pos_of_ne_zero fun hzero => ha (UInt32.toNat_inj.1 hzero)
  exact ⟨hpos h.1, hpos h.2⟩

theorem three_mul_sides (s : Size) :
    3 * (s.width.toNat * s.height.toNat) = s.lumaBytes * 3 :=
  Nat.mul_comm _ _

theorem ext_toNat {a b : Size} (hwidth : a.width.toNat = b.width.toNat)
    (hheight : a.height.toNat = b.height.toNat) : a = b := by
  obtain ⟨w, h⟩ := a
  obtain ⟨w', h'⟩ := b
  obtain rfl : w = w' := UInt32.toNat_inj.1 hwidth
  obtain rfl : h = h' := UInt32.toNat_inj.1 hheight
  rfl

theorem frameBytes_of_lt {s : Size} (h : s.lumaBytes * 3 < countLimit) :
    s.frameBytes = .ok (s.lumaBytes * 3 / 2) := by
  simp [frameBytes, checkedCount_of_lt h, bind, Except.bind, pure, Except.pure]

theorem frameBytes_of_le {s : Size} (h : countLimit ≤ s.lumaBytes * 3) :
    s.frameBytes = .error .overflow := by
  simp [frameBytes, checkedCount_of_le h, bind, Except.bind]

end Size

end PlanarCrop
