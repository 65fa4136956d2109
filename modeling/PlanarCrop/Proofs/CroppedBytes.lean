import PlanarCrop.Cropping
import PlanarCrop.Proofs.PlanWindow

/-!
# The bytes of a cropped frame

`IsCrop` is what a user of the library means by the crop of a frame: a size, a
length, and for every position of the buffer the place in the source that its
byte comes from, or the statement that it is zero. It speaks of margins and
sizes only. Two facts make it worth having.

It leaves nothing open. Each position below the length falls under exactly one
of its clauses, so a frame is determined by the bytes of the source that the
clauses name (`eq_of_samples`), and by the source alone (`unique`).

And it is what staging computes, whatever the staging buffer held. Each of the
three copies writes its whole slot, the slots follow one another without a
gap, and the byte that may be left over behind the last one is cleared. So the
old content is gone when the last step is done, although no step clears the
buffer.
-/

namespace PlanarCrop

namespace Plan

/-- `out` is the crop of a frame with the bytes `src`. -/
structure IsCrop (p : Plan) (src : Bytes) (out : Frame) : Prop where
  width_eq : out.size.width.toNat = p.keptWidth
  height_eq : out.size.height.toNat = p.keptHeight
  size_eq : out.data.size = 3 * (p.keptWidth * p.keptHeight) / 2
  /-- Pixel `(x, y)` is the source pixel `(left + x, top + y)`. -/
  luma : ∀ x < p.keptWidth, ∀ y < p.keptHeight,
    out.data[y * p.keptWidth + x]? =
      src[(p.margins.top.toNat + y) * p.source.width.toNat + p.margins.left.toNat + x]?
  /-- The chroma patch is packed at the start of its slot, and zeros follow. -/
  chroma : ∀ k < 2, ∀ i < p.keptWidth * p.keptHeight / 4,
    out.data[p.keptWidth * p.keptHeight + k * (p.keptWidth * p.keptHeight / 4) + i]? =
      if i < p.chromaPatch.span * p.chromaPatch.rows then
        src[p.source.lumaBytes + k * p.source.chromaBytes
          + (p.chromaPatch.top + i / p.chromaPatch.span) * (p.source.width.toNat / 2)
          + p.chromaPatch.left + i % p.chromaPatch.span]?
      else some 0
  /-- What is left over behind the last plane is zero. -/
  tail : ∀ i < out.data.size,
    p.keptWidth * p.keptHeight + 2 * (p.keptWidth * p.keptHeight / 4) ≤ i →
      out.data[i]? = some 0

/-! ## Nothing is left open -/

/-- Crops of two sources that agree on the samples that survive are the same. -/
theorem eq_of_samples {p : Plan} {src src' : Bytes} {a b : Frame}
    (ha : p.IsCrop src a) (hb : p.IsCrop src' b)
    (hluma : ∀ x < p.keptWidth, ∀ y < p.keptHeight,
      src[(p.margins.top.toNat + y) * p.source.width.toNat + p.margins.left.toNat + x]? =
        src'[(p.margins.top.toNat + y) * p.source.width.toNat + p.margins.left.toNat
          + x]?)
    (hchroma : ∀ k < 2, ∀ i < p.chromaPatch.span * p.chromaPatch.rows,
      src[p.source.lumaBytes + k * p.source.chromaBytes
          + (p.chromaPatch.top + i / p.chromaPatch.span) * (p.source.width.toNat / 2)
          + p.chromaPatch.left + i % p.chromaPatch.span]? =
        src'[p.source.lumaBytes + k * p.source.chromaBytes
          + (p.chromaPatch.top + i / p.chromaPatch.span) * (p.source.width.toNat / 2)
          + p.chromaPatch.left + i % p.chromaPatch.span]?) :
    a = b := by
  have hslot : ∀ k < 2, ∀ i < p.keptWidth * p.keptHeight / 4,
      a.data[p.keptWidth * p.keptHeight + k * (p.keptWidth * p.keptHeight / 4) + i]? =
        b.data[p.keptWidth * p.keptHeight + k * (p.keptWidth * p.keptHeight / 4)
          + i]? := by
    intro k hk i hi
    rw [ha.chroma k hk i hi, hb.chroma k hk i hi]
    split
    · next hin => exact hchroma k hk i hin
    · rfl
  have hdata : a.data = b.data := by
    refine Array.ext_getElem? fun i => ?_
    rcases Nat.lt_or_ge i (3 * (p.keptWidth * p.keptHeight) / 2) with hi | hi
    · rcases Nat.lt_or_ge i (p.keptWidth * p.keptHeight) with hy | hy
      · -- A luma byte: its row and column are quotient and remainder.
        obtain ⟨hrow, hx⟩ := row_of_lt hy
        have hi' : i / p.keptWidth * p.keptWidth + i % p.keptWidth = i :=
          Nat.div_add_mod' i p.keptWidth
        have hsample := hluma _ hx _ hrow
        rw [← ha.luma _ hx _ hrow, ← hb.luma _ hx _ hrow, hi'] at hsample
        exact hsample
      · -- A byte of a chroma slot, or one behind the slots.
        obtain ⟨j, rfl⟩ := Nat.exists_eq_add_of_le hy
        rcases Nat.lt_or_ge j (p.keptWidth * p.keptHeight / 4) with hu | hu
        · have h := hslot 0 (by omega) j hu
          rw [Nat.zero_mul, Nat.add_zero] at h
          exact h
        · obtain ⟨j, rfl⟩ := Nat.exists_eq_add_of_le hu
          rcases Nat.lt_or_ge j (p.keptWidth * p.keptHeight / 4) with hv | hv
          · have h := hslot 1 (by omega) j hv
            rw [Nat.one_mul, Nat.add_assoc] at h
            exact h
          · rw [ha.tail _ (by rw [ha.size_eq]; exact hi) (by omega),
              hb.tail _ (by rw [hb.size_eq]; exact hi) (by omega)]
    · rw [Array.getElem?_eq_none (by rw [ha.size_eq]; exact hi),
        Array.getElem?_eq_none (by rw [hb.size_eq]; exact hi)]
  have hsize : a.size = b.size :=
    Size.ext_toNat (ha.width_eq.trans hb.width_eq.symm) (ha.height_eq.trans hb.height_eq.symm)
  cases a
  cases b
  exact congr (congrArg Frame.mk hsize) hdata

theorem IsCrop.unique {p : Plan} {src : Bytes} {a b : Frame} (ha : p.IsCrop src a)
    (hb : p.IsCrop src b) : a = b :=
  eq_of_samples ha hb (fun _ _ _ _ => rfl) (fun _ _ _ _ => rfl)

/-! ## What staging leaves -/

/-- The staging buffer after the three planes are copied into it and what is left
over is cleared, slot by slot. -/
structure Staged (p : Plan) (src out : Bytes) : Prop where
  size_eq : out.size = p.cropped.lumaBytes * 3 / 2
  slot : ∀ plane, ∀ i < (Layout.exact p.cropped plane).len,
    out[(Layout.exact p.cropped plane).offset + i]? = (p.exactWindow plane).slotByte? src i
  tail : ∀ i < out.size, p.cropped.lumaBytes + 2 * p.cropped.chromaBytes ≤ i →
    out[i]? = some 0

theorem stagePlane_eq_ok {p : Plan} {src dst : Bytes} (plane : Plane)
    (hcount : p.source.lumaBytes * 3 < countLimit)
    (hsrc : p.source.lumaBytes * 3 / 2 ≤ src.size)
    (hdst : dst.size = p.cropped.lumaBytes * 3 / 2) :
    ∃ out, p.stagePlane src dst plane = .ok out ∧
      out.size = p.cropped.lumaBytes * 3 / 2 ∧
      ∀ i, out[i]? =
        if (Layout.exact p.cropped plane).offset ≤ i ∧
            i < (Layout.exact p.cropped plane).offset
              + (Layout.exact p.cropped plane).len then
          (p.exactWindow plane).slotByte? src (i - (Layout.exact p.cropped plane).offset)
        else dst[i]? := by
  have hplane := Layout.exact_end_le p.source plane
  have hwindow : p.window plane = .ok (p.exactWindow plane) :=
    window_eq_ok_iff.2 ⟨by omega, rfl⟩
  obtain ⟨out, hout⟩ :=
    Window.exists_copy_iff.2 (exactWindow_fits plane hcount hsrc (Nat.le_of_eq hdst.symm))
  refine ⟨out, ?_, (Window.size_copy hout).trans hdst, Window.getElem?_copy hout⟩
  rw [stagePlane, hwindow]
  exact hout

theorem clearTail_eq_ok {p : Plan} {dst : Bytes}
    (hcount : p.source.lumaBytes * 3 < countLimit)
    (hdst : dst.size = p.cropped.lumaBytes * 3 / 2) :
    ∃ out, p.clearTail dst = .ok out ∧ out.size = p.cropped.lumaBytes * 3 / 2 ∧
      ∀ i, out[i]? =
        if p.cropped.lumaBytes + 2 * p.cropped.chromaBytes ≤ i ∧ i < dst.size then some 0
        else dst[i]? := by
  have hcropped := p.lumaBytes_cropped_le
  have hsource := Layout.exact_end_le p.source .v
  have hwindow : p.window .v = .ok (p.exactWindow .v) :=
    window_eq_ok_iff.2 ⟨by omega, rfl⟩
  have hend := Layout.exact_v_end p.cropped
  have hslot := Layout.exact_end_le p.cropped .v
  have hrange : (Layout.exact p.cropped .v).range =
      .ok ((Layout.exact p.cropped .v).offset,
        p.cropped.lumaBytes + 2 * p.cropped.chromaBytes) :=
    Layout.range_eq_ok_iff.2 ⟨by omega, by rw [hend]⟩
  have hle : p.cropped.lumaBytes + 2 * p.cropped.chromaBytes ≤ dst.size := by omega
  have hfill : p.cropped.lumaBytes + 2 * p.cropped.chromaBytes
      + (Bytes.zeros (dst.size
        - (p.cropped.lumaBytes + 2 * p.cropped.chromaBytes))).size = dst.size := by
    rw [Bytes.size_zeros]
    omega
  refine ⟨dst.overwrite (p.cropped.lumaBytes + 2 * p.cropped.chromaBytes)
    (Bytes.zeros (dst.size - (p.cropped.lumaBytes + 2 * p.cropped.chromaBytes))),
    ?_, ?_, ?_⟩
  · rw [clearTail, hwindow]
    refine bind_eq_ok_iff.2 ⟨_, rfl, bind_eq_ok_iff.2 ⟨_, hrange, ?_⟩⟩
    exact if_pos hle
  · rw [Bytes.size_overwrite (Nat.le_of_eq hfill)]
    exact hdst
  · intro i
    rw [Bytes.getElem?_overwrite (Nat.le_of_eq hfill), hfill]
    split
    · next hin =>
        rw [Bytes.zeros, Bytes.filled, Array.getElem?_replicate, if_pos (by omega)]
    · rfl

theorem stage_eq_ok {p : Plan} {src staging : Bytes}
    (hcount : p.source.lumaBytes * 3 < countLimit)
    (hsrc : p.source.lumaBytes * 3 / 2 ≤ src.size)
    (hstaging : staging.size = p.cropped.lumaBytes * 3 / 2) :
    ∃ out, p.stage src staging = .ok out ∧ p.Staged src out := by
  obtain ⟨withY, hy, hysize, hybyte⟩ := stagePlane_eq_ok .y hcount hsrc hstaging
  obtain ⟨withU, hu, husize, hubyte⟩ := stagePlane_eq_ok .u hcount hsrc hysize
  obtain ⟨withV, hv, hvsize, hvbyte⟩ := stagePlane_eq_ok .v hcount hsrc husize
  obtain ⟨out, hout, hsize, hbyte⟩ := clearTail_eq_ok hcount hvsize
  have hyend := Layout.exact_y_end p.cropped
  have huend := Layout.exact_u_end p.cropped
  have hvend := Layout.exact_v_end p.cropped
  refine ⟨out, ?_, hsize, ?_, ?_⟩
  · have hplanes : Plane.all.foldlM (p.stagePlane src) staging = .ok withV :=
      bind_eq_ok_iff.2 ⟨_, hy, bind_eq_ok_iff.2 ⟨_, hu, bind_eq_ok_iff.2 ⟨_, hv, rfl⟩⟩⟩
    rw [stage, hplanes]
    exact hout
  · -- The slots lie one behind the other: later steps pass a slot by.
    intro plane i hi
    rw [hbyte, hvbyte, hubyte, hybyte]
    cases plane
    case y =>
      rw [if_neg (by omega), if_neg (by omega), if_neg (by omega), if_pos (by omega),
        Nat.add_sub_cancel_left]
    case u =>
      rw [if_neg (by omega), if_neg (by omega), if_pos (by omega),
        Nat.add_sub_cancel_left]
    case v => rw [if_neg (by omega), if_pos (by omega), Nat.add_sub_cancel_left]
  · intro i hi hge
    rw [hbyte, if_pos ⟨hge, by omega⟩]

theorem Staged.isCrop {p : Plan} {src out : Bytes} (h : p.Staged src out) :
    p.IsCrop src ⟨p.cropped, out⟩ where
  width_eq := p.toNat_width_cropped
  height_eq := p.toNat_height_cropped
  size_eq := by rw [h.size_eq, lumaBytes_cropped, Nat.mul_comm]
  luma x hx y hy := by
    have hkept : y * p.keptWidth + x <
        (p.exactWindow .y).span * (p.exactWindow .y).rows := row_lt hx hy
    have hslot := h.slot .y (y * p.keptWidth + x)
      (Nat.lt_of_lt_of_le hkept (p.patch_bytes_le .y))
    rw [Window.slotByte?, if_pos hkept] at hslot
    have hrow : (p.exactWindow .y).keptByte? src (y * p.keptWidth + x) =
        src[(p.exactWindow .y).rowStart y + x]? := Window.keptByte?_row hx
    simp only [Window.rowStart, exactWindow, Layout.exact, patch, lumaPatch,
      Nat.zero_add] at hslot hrow ⊢
    rw [hslot, ← hrow]
  chroma k hk i hi := by
    have hlen : i < p.cropped.chromaBytes := by
      rw [Size.chromaBytes, lumaBytes_cropped]
      exact hi
    rw [← lumaBytes_cropped]
    have hcases : k = 0 ∨ k = 1 := by omega
    rcases hcases with rfl | rfl
    · have hslot := h.slot .u i hlen
      simp only [Layout.exact, Window.slotByte?, Window.keptByte?, Window.rowStart,
        exactWindow, patch, Nat.zero_mul, Nat.add_zero] at hslot ⊢
      exact hslot
    · have hslot := h.slot .v i hlen
      simp only [Layout.exact, Window.slotByte?, Window.keptByte?, Window.rowStart,
        exactWindow, patch, Nat.one_mul] at hslot ⊢
      exact hslot
  tail i hi hge := by
    rw [← lumaBytes_cropped] at hge
    exact h.tail i hi hge

end Plan

end PlanarCrop
