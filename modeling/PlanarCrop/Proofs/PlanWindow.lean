import PlanarCrop.Plan
import PlanarCrop.Proofs.WindowCopy

/-!
# The windows of a plan are well formed

A plan computes three windows in 64 bits, checking as it goes. This file says
what they are in exact numbers and shows that the checks are idle: the only
one that can fail at all is the start of the last plane of the source.

`Patch` is the second description. It says which samples of a plane survive,
by the margins and the size alone, without layouts; `exactWindow` puts a patch
between the two layouts, and `window_eq_ok_iff` says that this is what the
plan computes.

What makes the checks idle is one inequality between floors. In either mode a
chroma patch is at most half the cropped width by half the cropped height, and
two halves rounded down multiply to at most a quarter rounded down, which is
the slot. On the source side each patch that is not empty ends inside the
plane it is cut from, again side by side, so no product of margins ever comes
up.
-/

namespace PlanarCrop

/-! ## Layouts in exact numbers -/

namespace Layout

/-- The layout of a plane with its start in exact numbers. -/
def exact (size : Size) : Plane → Layout
  | .y => ⟨0, size.lumaBytes, size.width.toNat, size.height.toNat⟩
  | .u => ⟨size.lumaBytes, size.chromaBytes, size.width.toNat / 2,
      size.height.toNat / 2⟩
  | .v => ⟨size.lumaBytes + size.chromaBytes, size.chromaBytes,
      size.width.toNat / 2, size.height.toNat / 2⟩

theorem of_eq_ok_iff {size : Size} {plane : Plane} {l : Layout} :
    Layout.of size plane = .ok l ↔
      (exact size plane).offset < countLimit ∧ l = exact size plane := by
  have hluma := size.lumaBytes_lt
  cases plane with
  | y =>
      have hzero : 0 < countLimit := by decide
      simp [Layout.of, exact, hzero, eq_comm]
  | u => simp [Layout.of, exact, hluma, eq_comm]
  | v =>
      simp only [Layout.of, exact]
      rw [bind_eq_ok_iff]
      constructor
      · rintro ⟨offset, hoffset, hl⟩
        obtain ⟨hlt, rfl⟩ := checkedCount_eq_ok_iff.1 hoffset
        cases hl
        exact ⟨hlt, rfl⟩
      · rintro ⟨hlt, rfl⟩
        exact ⟨_, checkedCount_of_lt hlt, rfl⟩

theorem of_eq_error_iff {size : Size} {plane : Plane} {fault : Fault} :
    Layout.of size plane = .error fault ↔
      fault = .overflow ∧ plane = .v ∧ countLimit ≤ size.lumaBytes + size.chromaBytes := by
  cases plane with
  | y => exact ⟨nofun, nofun⟩
  | u => exact ⟨nofun, nofun⟩
  | v =>
      rcases Nat.lt_or_ge (size.lumaBytes + size.chromaBytes) countLimit with hlt | hge
      · have hof : Layout.of size .v = .ok (exact size .v) := of_eq_ok_iff.2 ⟨hlt, rfl⟩
        rw [hof]
        refine ⟨nofun, fun h => ?_⟩
        obtain ⟨-, -, hge⟩ := h
        omega
      · have hof : Layout.of size .v = .error .overflow := by
          rw [Layout.of, checkedCount_of_le hge]
          rfl
        rw [hof]
        refine ⟨fun h => ?_, fun h => ?_⟩
        · cases h
          exact ⟨rfl, rfl, hge⟩
        · rw [h.1]

/-- The rows of a plane lie in the bytes set aside for it. -/
theorem exact_rows_le (size : Size) (plane : Plane) :
    (exact size plane).rowWidth * (exact size plane).rows ≤ (exact size plane).len := by
  cases plane
  case y => exact Nat.le_refl _
  case u | v => exact Nat.div_mul_div_le _ 2 _ 2

/-! The planes lie one behind the other, and the last one ends inside the bytes
of a whole frame. -/

theorem exact_y_end (size : Size) :
    (exact size .y).offset + (exact size .y).len = (exact size .u).offset :=
  Nat.zero_add _

theorem exact_u_end (size : Size) :
    (exact size .u).offset + (exact size .u).len = (exact size .v).offset := rfl

theorem exact_v_end (size : Size) :
    (exact size .v).offset + (exact size .v).len =
      size.lumaBytes + 2 * size.chromaBytes := by
  simp only [exact]
  omega

theorem exact_end_le (size : Size) (plane : Plane) :
    (exact size plane).offset + (exact size plane).len ≤ size.lumaBytes * 3 / 2 := by
  cases plane <;> simp only [exact, Size.chromaBytes] <;> omega

end Layout

/-! ## What survives of a plane -/

/-- A rectangle of a plane: `span` bytes of each of `rows` rows, behind `left`
bytes and below `top` rows. -/
structure Patch where
  left : Nat
  top : Nat
  span : Nat
  rows : Nat
deriving DecidableEq

namespace Plan

/-- Pixels of a row that are left over. -/
def keptWidth (p : Plan) : Nat := p.source.width.toNat - p.margins.horizontal

/-- Rows that are left over. -/
def keptHeight (p : Plan) : Nat := p.source.height.toNat - p.margins.vertical

/-- What survives of the luma plane. -/
def lumaPatch (p : Plan) : Patch :=
  ⟨p.margins.left.toNat, p.margins.top.toNat, p.keptWidth, p.keptHeight⟩

/-- What survives of either chroma plane. In full resolution the margins count
chroma samples; subsampled, both the margins and what is left over are halved. -/
def chromaPatch (p : Plan) : Patch :=
  match p.chroma with
  | .fullResolution =>
    ⟨p.margins.left.toNat, p.margins.top.toNat,
      p.source.width.toNat / 2 - p.margins.horizontal,
      p.source.height.toNat / 2 - p.margins.vertical⟩
  | .subsampled =>
    ⟨p.margins.left.toNat / 2, p.margins.top.toNat / 2, p.keptWidth / 2, p.keptHeight / 2⟩

/-- What survives of a plane. -/
def patch (p : Plan) : Plane → Patch
  | .y => p.lumaPatch
  | .u => p.chromaPatch
  | .v => p.chromaPatch

theorem toNat_width_cropped (p : Plan) : p.cropped.width.toNat = p.keptWidth :=
  Size.toNat_width_crop p.source p.margins

theorem toNat_height_cropped (p : Plan) : p.cropped.height.toNat = p.keptHeight :=
  Size.toNat_height_crop p.source p.margins

theorem lumaBytes_cropped (p : Plan) :
    p.cropped.lumaBytes = p.keptWidth * p.keptHeight := by
  rw [Size.lumaBytes, toNat_width_cropped, toNat_height_cropped]

theorem lumaBytes_cropped_le (p : Plan) : p.cropped.lumaBytes ≤ p.source.lumaBytes := by
  rw [lumaBytes_cropped]
  exact Nat.mul_le_mul (Nat.sub_le _ _) (Nat.sub_le _ _)

theorem chromaPatch_span_le (p : Plan) : p.chromaPatch.span ≤ p.keptWidth / 2 := by
  unfold chromaPatch keptWidth
  cases p.chroma with
  | fullResolution => simp only; omega
  | subsampled => exact Nat.le_refl _

theorem chromaPatch_rows_le (p : Plan) : p.chromaPatch.rows ≤ p.keptHeight / 2 := by
  unfold chromaPatch keptHeight
  cases p.chroma with
  | fullResolution => simp only; omega
  | subsampled => exact Nat.le_refl _

theorem patch_bytes_le (p : Plan) (plane : Plane) :
    (p.patch plane).span * (p.patch plane).rows ≤ (Layout.exact p.cropped plane).len := by
  have hchroma : p.chromaPatch.span * p.chromaPatch.rows ≤ p.cropped.chromaBytes :=
    calc p.chromaPatch.span * p.chromaPatch.rows
        ≤ p.keptWidth / 2 * (p.keptHeight / 2) :=
          Nat.mul_le_mul p.chromaPatch_span_le p.chromaPatch_rows_le
      _ ≤ p.keptWidth * p.keptHeight / 4 := Nat.div_mul_div_le _ 2 _ 2
      _ = p.cropped.chromaBytes := by rw [Size.chromaBytes, lumaBytes_cropped]
  cases plane
  case y => exact Nat.le_of_eq p.lumaBytes_cropped.symm
  case u | v => exact hchroma

/-! A patch that is not empty ends inside the plane it is cut from. The two
sides are apart: a patch of no rows may still be too wide, and the other way
round. -/

theorem patch_left_le (p : Plan) (plane : Plane) (h : 0 < (p.patch plane).span) :
    (p.patch plane).left + (p.patch plane).span ≤
      (Layout.exact p.source plane).rowWidth := by
  have hchroma : 0 < p.chromaPatch.span →
      p.chromaPatch.left + p.chromaPatch.span ≤ p.source.width.toNat / 2 := by
    unfold chromaPatch keptWidth Margins.horizontal
    cases p.chroma <;> simp only <;> omega
  cases plane
  case y =>
    simp only [patch, lumaPatch, keptWidth, Margins.horizontal, Layout.exact] at h ⊢
    omega
  case u | v => exact hchroma h

theorem patch_top_le (p : Plan) (plane : Plane) (h : 0 < (p.patch plane).rows) :
    (p.patch plane).top + (p.patch plane).rows ≤ (Layout.exact p.source plane).rows := by
  have hchroma : 0 < p.chromaPatch.rows →
      p.chromaPatch.top + p.chromaPatch.rows ≤ p.source.height.toNat / 2 := by
    unfold chromaPatch keptHeight Margins.vertical
    cases p.chroma <;> simp only <;> omega
  cases plane
  case y =>
    simp only [patch, lumaPatch, keptHeight, Margins.vertical, Layout.exact] at h ⊢
    omega
  case u | v => exact hchroma h

/-! ## The windows -/

/-- The window of a plane in exact numbers. -/
def exactWindow (p : Plan) (plane : Plane) : Window where
  source := .exact p.source plane
  dest := .exact p.cropped plane
  left := (p.patch plane).left
  top := (p.patch plane).top
  span := (p.patch plane).span
  rows := (p.patch plane).rows

theorem keep_exact (p : Plan) (plane : Plane) :
    p.keep plane (.exact p.source plane) (.exact p.cropped plane) = p.exactWindow plane := by
  unfold keep exactWindow
  cases plane
  case y => rfl
  case u | v =>
    cases hchroma : p.chroma <;>
      simp [hchroma, patch, chromaPatch, Plane.isChroma, Layout.exact, Margins.halved,
        toNat_width_cropped, toNat_height_cropped]

theorem exact_cropped_offset_le (p : Plan) (plane : Plane) :
    (Layout.exact p.cropped plane).offset ≤ (Layout.exact p.source plane).offset := by
  have hluma := p.lumaBytes_cropped_le
  cases plane <;> simp only [Layout.exact, Size.chromaBytes] <;> omega

theorem keptBytes_exactWindow (p : Plan) (plane : Plane) : (p.exactWindow plane).keptBytes =
    .ok ((p.exactWindow plane).span * (p.exactWindow plane).rows) := by
  have hkept : (p.exactWindow plane).span * (p.exactWindow plane).rows ≤
      (Layout.exact p.cropped plane).len := p.patch_bytes_le plane
  have hlen : (Layout.exact p.cropped plane).len ≤ p.cropped.lumaBytes := by
    cases plane <;> simp only [Layout.exact, Size.chromaBytes] <;> omega
  have hluma := p.cropped.lumaBytes_lt
  exact checkedCount_of_lt (by omega)

/-- A plan computes the exact window, or stops because the plane starts too far
into the source. -/
theorem window_eq_ok_iff {p : Plan} {plane : Plane} {w : Window} :
    p.window plane = .ok w ↔
      (Layout.exact p.source plane).offset < countLimit ∧ w = p.exactWindow plane := by
  have hkept : (p.exactWindow plane).span * (p.exactWindow plane).rows ≤
      (p.exactWindow plane).dest.len := p.patch_bytes_le plane
  unfold window
  constructor
  · intro h
    obtain ⟨source, hsource, h⟩ := bind_eq_ok_iff.1 h
    obtain ⟨hoffset, rfl⟩ := Layout.of_eq_ok_iff.1 hsource
    obtain ⟨dest, hdest, h⟩ := bind_eq_ok_iff.1 h
    obtain ⟨-, rfl⟩ := Layout.of_eq_ok_iff.1 hdest
    obtain ⟨kept, hcount, h⟩ := bind_eq_ok_iff.1 h
    rw [keep_exact] at hcount h
    split at h
    · cases h
      exact ⟨hoffset, rfl⟩
    · cases h
  · rintro ⟨hoffset, rfl⟩
    have hdest := Nat.lt_of_le_of_lt (p.exact_cropped_offset_le plane) hoffset
    refine bind_eq_ok_iff.2 ⟨_, Layout.of_eq_ok_iff.2 ⟨hoffset, rfl⟩, ?_⟩
    refine bind_eq_ok_iff.2 ⟨_, Layout.of_eq_ok_iff.2 ⟨hdest, rfl⟩, ?_⟩
    rw [keep_exact]
    refine bind_eq_ok_iff.2 ⟨_, p.keptBytes_exactWindow plane, ?_⟩
    exact if_pos hkept

/-- A plan without a window for a plane lacks the layout of the plane in its source. -/
theorem window_eq_error_iff {p : Plan} {plane : Plane} {fault : Fault} :
    p.window plane = .error fault ↔ Layout.of p.source plane = .error fault := by
  cases hsource : Layout.of p.source plane with
  | error e =>
      have hwindow : p.window plane = .error e := by
        rw [window, hsource]
        rfl
      rw [hwindow]
      simp
  | ok source =>
      rw [window_eq_ok_iff.2 ⟨(Layout.of_eq_ok_iff.1 hsource).1, rfl⟩]
      simp

theorem exactWindow_row_le {p : Plan} {plane : Plane} {r : Nat}
    (hspan : 0 < (p.exactWindow plane).span) (hr : r < (p.exactWindow plane).rows) :
    (p.exactWindow plane).rowStart r + (p.exactWindow plane).span ≤
      (Layout.exact p.source plane).offset + (Layout.exact p.source plane).len := by
  have hleft := p.patch_left_le plane hspan
  have htop := p.patch_top_le plane (Nat.lt_of_le_of_lt (Nat.zero_le r) hr)
  have hrow : (p.patch plane).top + r + 1 ≤ (Layout.exact p.source plane).rows :=
    Nat.le_trans (Nat.add_le_add_left hr _) htop
  calc (p.exactWindow plane).rowStart r + (p.exactWindow plane).span
      = (Layout.exact p.source plane).offset +
          ((p.patch plane).top + r) * (Layout.exact p.source plane).rowWidth +
          ((p.patch plane).left + (p.patch plane).span) := Nat.add_assoc _ _ _
    _ ≤ (Layout.exact p.source plane).offset +
          ((p.patch plane).top + r) * (Layout.exact p.source plane).rowWidth +
          (Layout.exact p.source plane).rowWidth := Nat.add_le_add_left hleft _
    _ = (Layout.exact p.source plane).offset +
          ((p.patch plane).top + r + 1) * (Layout.exact p.source plane).rowWidth := by
        rw [Nat.succ_mul, Nat.add_assoc]
    _ ≤ (Layout.exact p.source plane).offset +
          (Layout.exact p.source plane).rows * (Layout.exact p.source plane).rowWidth :=
        Nat.add_le_add_left (Nat.mul_le_mul_right _ hrow) _
    _ ≤ (Layout.exact p.source plane).offset + (Layout.exact p.source plane).len := by
        rw [Nat.mul_comm]
        exact Nat.add_le_add_left (Layout.exact_rows_le p.source plane) _

/-- The windows of a plan can be copied wherever whole frames fit. -/
theorem exactWindow_fits {p : Plan} (plane : Plane) {srcSize dstSize : Nat}
    (hcount : p.source.lumaBytes * 3 < countLimit)
    (hsrc : p.source.lumaBytes * 3 / 2 ≤ srcSize)
    (hdst : p.cropped.lumaBytes * 3 / 2 ≤ dstSize) :
    (p.exactWindow plane).Fits srcSize dstSize := by
  have hcropped := p.lumaBytes_cropped_le
  have hslot := Layout.exact_end_le p.cropped plane
  have hplane := Layout.exact_end_le p.source plane
  have hkept := p.patch_bytes_le plane
  refine
    { slot_lt := Nat.lt_of_le_of_lt hslot (by omega)
      slot_le := Nat.le_trans hslot hdst
      kept_lt := Nat.lt_of_le_of_lt hkept (by omega)
      kept_le := hkept
      rows_in := ?_ }
  rcases Nat.eq_zero_or_pos (p.exactWindow plane).span with hspan | hspan
  · exact Or.inl hspan
  · refine Or.inr fun r hr => ?_
    have hrow := exactWindow_row_le hspan hr
    have hline : (p.patch plane).top + r < countLimit := by
      have htop := p.patch_top_le plane (Nat.lt_of_le_of_lt (Nat.zero_le r) hr)
      have hrows : (Layout.exact p.source plane).rows < 2 ^ 32 := by
        have hheight := p.source.height.toNat_lt
        cases plane <;> simp only [Layout.exact] <;> omega
      have hlimit : 2 ^ 32 < countLimit := by decide
      have hr' : r < (p.patch plane).rows := hr
      omega
    exact ⟨hline, by omega, by omega⟩

end Plan

end PlanarCrop
