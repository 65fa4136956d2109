import PlanarCrop.Proofs.PictureShift

/-!
# Cropping twice

Cropping a frame and then cropping what is left is the same as cropping once by both
margins together. A patch of a patch is a patch (`Patch.inside`): its offsets add up,
and its shape is that of the inner one. For luma this is all there is to it, because the
rows that the first crop packs are just the rows that the second one reads.

Chroma is another matter. The second crop reads the frame in between through a layout of
its own, with half the width, rounded down, as the length of a row. Only with halved
margins are the packed rows that long (`patch_shape`); and even then the halves of two
margins add up to the half of their sum only if not both are odd. So the chroma planes
agree under these conditions and the luma planes always do.

Sides saturate at zero, which does not disturb any of this, since subtraction that stops
at zero can be done in two steps. What has to be kept apart are margins of zero: they
leave the frame as it is, with whatever its buffer holds behind the planes.
-/

namespace PlanarCrop

namespace Margins

/-- The margins that take away at each edge what two margins take away together. -/
def add (m n : Margins) : Margins :=
  ⟨m.left + n.left, m.right + n.right, m.top + n.top, m.bottom + n.bottom⟩

/-- Both margins together are still a margin at each edge. -/
def Addable (m n : Margins) : Prop := ∀ edge, (m.get edge).toNat + (n.get edge).toNat < UInt32.size

theorem toNat_add {a b : UInt32} (h : a.toNat + b.toNat < UInt32.size) :
    (a + b).toNat = a.toNat + b.toNat := by
  rw [UInt32.toNat_add, Nat.mod_eq_of_lt h]

theorem get_add (m n : Margins) (edge : Edge) :
    (m.add n).get edge = m.get edge + n.get edge := by
  cases edge <;> rfl

/-- Margins that are zero together are zero each. -/
theorem Addable.eq_zero {m n : Margins} (h : m.Addable n) (hsum : m.add n = zero) :
    m = zero := by
  have hedge (edge : Edge) : m.get edge = zero.get edge := by
    have hget : (zero.get edge).toNat = (m.get edge).toNat + (n.get edge).toNat := by
      rw [← hsum, get_add, toNat_add (h edge)]
    have hzero : (zero.get edge).toNat = 0 := by cases edge <;> rfl
    exact UInt32.toNat_inj.1 (by omega)
  exact ext_get hedge

theorem zero_add (m : Margins) : zero.add m = m := by
  simp [add, zero]

theorem add_zero (m : Margins) : m.add zero = m := by
  simp [add, zero]

end Margins

/-- The part of a patch that an inner patch leaves of it. -/
def Patch.inside (outer inner : Patch) : Patch :=
  ⟨outer.left + inner.left, outer.top + inner.top, inner.span, inner.rows⟩

namespace Frame

/-- Frames of one size have the same luma plane if they have the same luma bytes. -/
theorem exists_luma_of_fills {a b : Frame} {size : Size} (ha : a.Fills size)
    (hb : b.Fills size)
    (h : ∀ x < size.width.toNat, ∀ y < size.height.toNat,
      a.data[y * size.width.toNat + x]? = b.data[y * size.width.toNat + x]?) :
    ∃ luma, a.plane .y = .ok luma ∧ b.plane .y = .ok luma := by
  refine ⟨_, plane_of_fills ha .y, ?_⟩
  rw [plane_of_fills hb .y]
  refine congrArg Except.ok (Array.ext_getElem? fun i => ?_)
  have hlenA := ha.lumaBytes_le
  have hlenB := hb.lumaBytes_le
  simp only [Layout.exact, Nat.zero_add, Array.getElem?_extract]
  rw [Nat.min_eq_left (by omega), Nat.min_eq_left (by omega)]
  split
  · next hi =>
      -- Position `i` of the plane is column `i % width` of row `i / width`.
      have hi : i < size.width.toNat * size.height.toNat := hi
      obtain ⟨hrow, hcol⟩ := row_of_lt hi
      have hbyte := h _ hcol _ hrow
      rw [Nat.div_add_mod'] at hbyte
      exact hbyte.symm
  · rfl

end Frame

namespace Plan

/-! ## One frame that is taken -/

section
variable {p : Plan} {frame : Frame} {staging : Staging}

theorem cropFrame_ok_of_fills (hfills : frame.Fills p.source)
    (hstaging : p.croppedBytes = .ok staging.data.size) :
    (p.cropFrame frame staging).outcome = .ok () := by
  by_cases hzero : p.margins = .zero
  · rw [cropFrame_of_zero hzero]
  · obtain ⟨-, hsize⟩ := Size.frameBytes_eq_ok_iff.1 hstaging
    exact ((p.cropFrame_ends frame staging).ok_iff hzero hsize).2 (accepts_iff_fills.2 hfills)

theorem isCrop_of_fills (hcut : p.margins ≠ .zero) (hfills : frame.Fills p.source)
    (hstaging : p.croppedBytes = .ok staging.data.size) :
    p.IsCrop frame.data (p.cropFrame frame staging).frame :=
  (p.cropFrame_ends frame staging).isCrop hcut (cropFrame_ok_of_fills hfills hstaging)

theorem fills_cropFrame (hfills : frame.Fills p.source)
    (hstaging : p.croppedBytes = .ok staging.data.size) :
    (p.cropFrame frame staging).frame.Fills p.cropped := by
  by_cases hzero : p.margins = .zero
  · rw [cropFrame_of_zero hzero, cropped_of_zero hzero]
    exact hfills
  · exact (isCrop_of_fills hzero hfills hstaging).fills hfills.countable

end

/-! ## Crops read by their patches -/

/-- A frame is a crop if its patches are those of the source and the rest is zero. -/
theorem isCrop_of_patches {p : Plan} {src : Bytes} {out : Frame}
    (hwidth : out.size.width.toNat = p.keptWidth)
    (hheight : out.size.height.toNat = p.keptHeight)
    (hsize : out.data.size = 3 * (p.keptWidth * p.keptHeight) / 2)
    (hpatch : ∀ plane, ∀ c < (p.patch plane).span, ∀ r < (p.patch plane).rows,
      out.data[(Layout.exact p.cropped plane).offset + r * (p.patch plane).span + c]? =
        src[(Layout.exact p.source plane).offset +
          ((p.patch plane).top + r) * (Layout.exact p.source plane).rowWidth +
          (p.patch plane).left + c]?)
    (hrest : ∀ k < 2, ∀ i < p.keptWidth * p.keptHeight / 4,
      p.chromaPatch.span * p.chromaPatch.rows ≤ i →
        out.data[p.keptWidth * p.keptHeight + k * (p.keptWidth * p.keptHeight / 4) + i]? =
          some 0)
    (htail : ∀ i < out.data.size,
      p.keptWidth * p.keptHeight + 2 * (p.keptWidth * p.keptHeight / 4) ≤ i →
        out.data[i]? = some 0) : p.IsCrop src out where
  width_eq := hwidth
  height_eq := hheight
  size_eq := hsize
  luma x hx y hy := by
    have hbyte := hpatch .y x hx y hy
    simp only [Layout.exact, patch, lumaPatch, Nat.zero_add] at hbyte
    exact hbyte
  chroma k hk i hi := by
    split
    · next hin =>
        -- Position `i` of the slot is column `i % span` of row `i / span` of the patch.
        obtain ⟨hr, hc⟩ := row_of_lt hin
        have hcases : k = 0 ∨ k = 1 := by omega
        rcases hcases with rfl | rfl
        · have hbyte := hpatch .u _ hc _ hr
          simp only [Layout.exact, patch, lumaBytes_cropped, Nat.add_assoc (_ * _) (_ * _),
            Nat.div_add_mod'] at hbyte
          simp only [Nat.zero_mul, Nat.add_zero]
          exact hbyte
        · have hbyte := hpatch .v _ hc _ hr
          simp only [Layout.exact, patch, Size.chromaBytes, lumaBytes_cropped] at hbyte
          rw [Nat.add_assoc _ (_ * _) (_ % _), Nat.div_add_mod'] at hbyte
          simp only [Nat.one_mul]
          exact hbyte
    · next hin => exact hrest k hk i hi (Nat.not_lt.1 hin)
  tail := htail

/-! ## A plan after a plan -/

/-- Plan `s` takes away at once what `p` takes away first and `q` of what `p` leaves. -/
structure Joins (p q s : Plan) : Prop where
  source : s.source = p.source
  between : q.source = p.cropped
  left : s.margins.left.toNat = p.margins.left.toNat + q.margins.left.toNat
  right : s.margins.right.toNat = p.margins.right.toNat + q.margins.right.toNat
  top : s.margins.top.toNat = p.margins.top.toNat + q.margins.top.toNat
  bottom : s.margins.bottom.toNat = p.margins.bottom.toNat + q.margins.bottom.toNat

section
variable {p q s : Plan} {src : Bytes} {mid out : Frame}

theorem joins_add {r₁ r₂ r₃ : Resolution} {size : Size} {m n : Margins} {chroma : ChromaMode}
    (h : m.Addable n) :
    Joins ⟨r₁, size, m, chroma⟩ ⟨r₂, size.crop m, n, chroma⟩ ⟨r₃, size, m.add n, chroma⟩ where
  source := rfl
  between := rfl
  left := Margins.toNat_add (h .left)
  right := Margins.toNat_add (h .right)
  top := Margins.toNat_add (h .top)
  bottom := Margins.toNat_add (h .bottom)

theorem Joins.keptWidth (h : p.Joins q s) : s.keptWidth = q.keptWidth := by
  have hleft := h.left
  have hright := h.right
  unfold Plan.keptWidth Margins.horizontal
  rw [h.source, h.between, toNat_width_cropped, Plan.keptWidth, Margins.horizontal]
  omega

theorem Joins.keptHeight (h : p.Joins q s) : s.keptHeight = q.keptHeight := by
  have htop := h.top
  have hbottom := h.bottom
  unfold Plan.keptHeight Margins.vertical
  rw [h.source, h.between, toNat_height_cropped, Plan.keptHeight, Margins.vertical]
  omega

theorem Joins.cropped (h : p.Joins q s) : s.cropped = q.cropped := by
  refine Size.ext_toNat ?_ ?_
  · rw [toNat_width_cropped, toNat_width_cropped, h.keptWidth]
  · rw [toNat_height_cropped, toNat_height_cropped, h.keptHeight]

theorem Joins.patch_luma (h : p.Joins q s) :
    s.patch .y = (p.patch .y).inside (q.patch .y) := by
  simp only [patch, lumaPatch, Patch.inside, h.left, h.top, h.keptWidth, h.keptHeight]

/-- Half of a sum is the sum of the halves, unless both numbers are odd. -/
theorem Joins.patch_chroma (h : p.Joins q s) (hp : p.chroma = .subsampled)
    (hq : q.chroma = .subsampled) (hs : s.chroma = .subsampled)
    (hleft : p.margins.left.toNat % 2 = 0 ∨ q.margins.left.toNat % 2 = 0)
    (htop : p.margins.top.toNat % 2 = 0 ∨ q.margins.top.toNat % 2 = 0) :
    s.chromaPatch = p.chromaPatch.inside q.chromaPatch := by
  rw [chromaPatch_of_subsampled hp, chromaPatch_of_subsampled hq,
    chromaPatch_of_subsampled hs, Patch.inside, h.left, h.top, h.keptWidth, h.keptHeight,
    half_add (by omega), half_add (by omega), Nat.add_comm (q.margins.left.toNat / 2),
    Nat.add_comm (q.margins.top.toNat / 2)]

/-- Two crops in a row move the bytes of a plane as one does, if the first one leaves the
plane in rows that the second one can read. -/
theorem Joins.patch_byte (h : p.Joins q s) (hmid : p.IsCrop src mid)
    (hout : q.IsCrop mid.data out) {plane : Plane}
    (hpatch : s.patch plane = (p.patch plane).inside (q.patch plane))
    (hspan : (p.patch plane).span = (Layout.exact p.cropped plane).rowWidth)
    (hrows : (p.patch plane).rows = (Layout.exact p.cropped plane).rows) {c r : Nat}
    (hc : c < (s.patch plane).span) (hr : r < (s.patch plane).rows) :
    out.data[(Layout.exact s.cropped plane).offset + r * (s.patch plane).span + c]? =
      src[(Layout.exact s.source plane).offset +
        ((s.patch plane).top + r) * (Layout.exact s.source plane).rowWidth +
        (s.patch plane).left + c]? := by
  rw [hpatch] at hc hr ⊢
  simp only [Patch.inside] at hc hr ⊢
  have hleft := q.patch_left_le plane (by omega)
  have htop := q.patch_top_le plane (by omega)
  rw [h.between, ← hspan] at hleft
  rw [h.between, ← hrows] at htop
  have houter := hmid.patch_byte plane (c := (q.patch plane).left + c)
    (r := (q.patch plane).top + r) (by omega) (by omega)
  have hinner := hout.patch_byte plane hc hr
  rw [h.between, ← hspan, Nat.add_assoc _ (q.patch plane).left, houter] at hinner
  rw [h.cropped, h.source, hinner]
  simp only [Nat.add_assoc]

theorem Joins.luma (h : p.Joins q s) (hmid : p.IsCrop src mid)
    (hout : q.IsCrop mid.data out) : ∀ x < s.keptWidth, ∀ y < s.keptHeight,
      out.data[y * s.keptWidth + x]? =
        src[(s.margins.top.toNat + y) * s.source.width.toNat + s.margins.left.toNat + x]? := by
  intro x hx y hy
  have hbyte := h.patch_byte hmid hout h.patch_luma p.toNat_width_cropped.symm
    p.toNat_height_cropped.symm hx hy
  simp only [Layout.exact, patch, lumaPatch, Nat.zero_add] at hbyte
  exact hbyte

/-- The crop of a crop is a crop, if the patches of all planes lie inside each other. -/
theorem Joins.isCrop (h : p.Joins q s) (hmode : p.chroma = .subsampled)
    (hpatch : ∀ plane, s.patch plane = (p.patch plane).inside (q.patch plane))
    (hmid : p.IsCrop src mid) (hout : q.IsCrop mid.data out) : s.IsCrop src out := by
  have hchroma : s.chromaPatch = p.chromaPatch.inside q.chromaPatch := hpatch .u
  refine isCrop_of_patches ?_ ?_ ?_ ?_ ?_ ?_
  · rw [h.keptWidth, hout.width_eq]
  · rw [h.keptHeight, hout.height_eq]
  · rw [h.keptWidth, h.keptHeight, hout.size_eq]
  · intro plane c hc r hr
    obtain ⟨hspan, hrows⟩ := p.patch_shape hmode plane
    exact h.patch_byte hmid hout (hpatch plane) hspan hrows hc hr
  · intro k hk i hi hrest
    have hrest : q.chromaPatch.span * q.chromaPatch.rows ≤ i := by
      rw [hchroma] at hrest
      exact hrest
    rw [h.keptWidth, h.keptHeight] at hi ⊢
    rw [hout.chroma k hk i hi, if_neg (Nat.not_lt.2 hrest)]
  · intro i hi hge
    rw [h.keptWidth, h.keptHeight] at hge
    exact hout.tail i hi hge

end

/-! ## Two crops and one -/

/-- Neither the resolution of a plan nor the bytes of its staging buffer have a part in
what it leaves of a frame. -/
theorem frame_relabel {p : Plan} {frame : Frame} {staging other : Staging}
    (hfills : frame.Fills p.source) (h : p.croppedBytes = .ok staging.data.size)
    (h' : p.croppedBytes = .ok other.data.size) (r : Resolution) :
    (p.cropFrame frame staging).frame =
      (({ p with resolution := r } : Plan).cropFrame frame other).frame := by
  by_cases hzero : p.margins = .zero
  · rw [cropFrame_of_zero hzero, cropFrame_of_zero (p := { p with resolution := r }) hzero]
  · have hcrop := isCrop_of_fills hzero hfills h
    have hother := isCrop_of_fills (p := { p with resolution := r }) hzero hfills h'
    exact IsCrop.unique hcrop ⟨hother.width_eq, hother.height_eq, hother.size_eq,
      hother.luma, hother.chroma, hother.tail⟩

/-- If one of the crops leaves its frame alone, the other one is the crop by the sum. -/
theorem cropFrame_twice_of_zero {r₁ r₂ r₃ : Resolution} {size : Size} {m n : Margins}
    {chroma : ChromaMode} (hzero : m = .zero ∨ n = .zero) {frame : Frame}
    (hfills : frame.Fills size) {s₁ s₂ s₃ : Staging}
    (h₁ : (size.crop m).frameBytes = .ok s₁.data.size)
    (h₂ : ((size.crop m).crop n).frameBytes = .ok s₂.data.size)
    (h₃ : (size.crop (m.add n)).frameBytes = .ok s₃.data.size) :
    let first := (⟨r₁, size, m, chroma⟩ : Plan).cropFrame frame s₁
    ((⟨r₂, size.crop m, n, chroma⟩ : Plan).cropFrame first.frame s₂).frame =
      ((⟨r₃, size, m.add n, chroma⟩ : Plan).cropFrame frame s₃).frame := by
  let p : Plan := ⟨r₁, size, m, chroma⟩
  intro first
  rcases hzero with rfl | rfl
  · have hsize : size.crop .zero = size := cropped_of_zero (p := p) rfl
    have hfirst : first = ⟨.ok (), frame, s₁, []⟩ := cropFrame_of_zero (p := p) rfl
    rw [hsize] at h₂ ⊢
    rw [Margins.zero_add] at h₃ ⊢
    rw [hfirst]
    exact frame_relabel (p := ⟨r₂, size, n, chroma⟩) hfills h₂ h₃ r₃
  · rw [cropFrame_of_zero (p := ⟨r₂, size.crop m, .zero, chroma⟩) rfl]
    rw [Margins.add_zero] at h₃ ⊢
    exact frame_relabel (p := p) hfills h₁ h₃ r₃

/-- Cropping twice leaves the size and the luma plane that cropping once by both margins
together leaves, and every crop succeeds. With halved chroma margins the whole frame is
the same, unless the left margins or the top margins are both odd. -/
theorem cropFrame_twice {r₁ r₂ r₃ : Resolution} {size : Size} {m n : Margins}
    {chroma : ChromaMode} (hadd : m.Addable n) {frame : Frame} (hfills : frame.Fills size)
    {s₁ s₂ s₃ : Staging} (h₁ : (size.crop m).frameBytes = .ok s₁.data.size)
    (h₂ : ((size.crop m).crop n).frameBytes = .ok s₂.data.size)
    (h₃ : (size.crop (m.add n)).frameBytes = .ok s₃.data.size) :
    let first := (⟨r₁, size, m, chroma⟩ : Plan).cropFrame frame s₁
    let second := (⟨r₂, size.crop m, n, chroma⟩ : Plan).cropFrame first.frame s₂
    let once := (⟨r₃, size, m.add n, chroma⟩ : Plan).cropFrame frame s₃
    (first.outcome = .ok () ∧ second.outcome = .ok () ∧ once.outcome = .ok ()) ∧
      second.frame.size = once.frame.size ∧
      (∃ luma, second.frame.plane .y = .ok luma ∧ once.frame.plane .y = .ok luma) ∧
      (chroma = .subsampled → (m.left.toNat % 2 = 0 ∨ n.left.toNat % 2 = 0) →
        (m.top.toNat % 2 = 0 ∨ n.top.toNat % 2 = 0) → second.frame = once.frame) := by
  intro first second once
  let p : Plan := ⟨r₁, size, m, chroma⟩
  let q : Plan := ⟨r₂, size.crop m, n, chroma⟩
  let s : Plan := ⟨r₃, size, m.add n, chroma⟩
  have hjoins : p.Joins q s := joins_add hadd
  have hmid : first.frame.Fills q.source := fills_cropFrame (p := p) hfills h₁
  have hsecond : second.frame.Fills s.cropped := by
    rw [hjoins.cropped]
    exact fills_cropFrame (p := q) hmid h₂
  have honce : once.frame.Fills s.cropped := fills_cropFrame (p := s) hfills h₃
  refine ⟨⟨cropFrame_ok_of_fills (p := p) hfills h₁, cropFrame_ok_of_fills (p := q) hmid h₂,
    cropFrame_ok_of_fills (p := s) hfills h₃⟩, hsecond.size_eq.trans honce.size_eq.symm, ?_⟩
  by_cases hzero : m = .zero ∨ n = .zero
  · have hsame : second.frame = once.frame := cropFrame_twice_of_zero hzero hfills h₁ h₂ h₃
    rw [hsame]
    exact ⟨⟨_, Frame.plane_of_fills honce .y, Frame.plane_of_fills honce .y⟩,
      fun _ _ _ => rfl⟩
  · obtain ⟨hm, hn⟩ := not_or.1 hzero
    have hsum : m.add n ≠ .zero := fun hsum => hm (hadd.eq_zero hsum)
    have hcrop₁ : p.IsCrop frame.data first.frame := isCrop_of_fills hm hfills h₁
    have hcrop₂ : q.IsCrop first.frame.data second.frame := isCrop_of_fills hn hmid h₂
    have hcrop : s.IsCrop frame.data once.frame := isCrop_of_fills hsum hfills h₃
    refine ⟨Frame.exists_luma_of_fills hsecond honce ?_, ?_⟩
    · rw [toNat_width_cropped, toNat_height_cropped]
      intro x hx y hy
      rw [hjoins.luma hcrop₁ hcrop₂ x hx y hy, hcrop.luma x hx y hy]
    · intro hmode hleft htop
      have hchroma := hjoins.patch_chroma hmode hmode hmode hleft htop
      refine (hjoins.isCrop hmode (fun plane => ?_) hcrop₁ hcrop₂).unique hcrop
      cases plane with
      | y => exact hjoins.patch_luma
      | u => exact hchroma
      | v => exact hchroma

/-- Three columns and two rows out of seven by five, in two steps and in one. The left
margin of the first step and the top margin of the second are odd, the others even. -/
theorem seven_by_five_twice :
    let frame : Frame := ⟨⟨7, 5⟩, Array.ofFn fun i : Fin 60 => UInt8.ofNat i⟩
    let m : Margins := ⟨1, 0, 2, 0⟩
    let n : Margins := ⟨2, 1, 1, 0⟩
    let first := (⟨.normal, ⟨7, 5⟩, m, .subsampled⟩ : Plan).cropFrame frame
      ⟨.normal, .filled 27 0xEE⟩
    let second := (⟨.normal, Size.crop ⟨7, 5⟩ m, n, .subsampled⟩ : Plan).cropFrame first.frame
      ⟨.normal, .filled 9 0x55⟩
    let once := (⟨.high, ⟨7, 5⟩, m.add n, .subsampled⟩ : Plan).cropFrame frame
      ⟨.high, .filled 9 0⟩
    m.Addable n ∧ frame.Fills ⟨7, 5⟩ ∧ once.outcome = .ok () ∧
      once.frame = ⟨⟨3, 2⟩, #[24, 25, 26, 31, 32, 33, 39, 47, 0]⟩ ∧
      second.frame = once.frame := by
  intro frame m n first second once
  have hadd : m.Addable n := by
    intro edge
    cases edge <;> decide
  have hfills : frame.Fills ⟨7, 5⟩ := ⟨rfl, by decide, by decide⟩
  have hframe : ((⟨.high, ⟨7, 5⟩, m.add n, .subsampled⟩ : Plan).cropFrame frame
      ⟨.high, .filled 9 0⟩).frame = ⟨⟨3, 2⟩, #[24, 25, 26, 31, 32, 33, 39, 47, 0]⟩ := by cbv
  obtain ⟨⟨-, -, hok⟩, -, -, hsame⟩ := @cropFrame_twice .normal .normal .high ⟨7, 5⟩ m n
    .subsampled hadd frame hfills ⟨.normal, .filled 27 0xEE⟩ ⟨.normal, .filled 9 0x55⟩
    ⟨.high, .filled 9 0⟩ (by cbv) (by cbv) (by cbv)
  exact ⟨hadd, hfills, hok, hframe, hsame rfl (.inr (by decide)) (.inl (by decide))⟩

end Plan

end PlanarCrop
