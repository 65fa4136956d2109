import PlanarCrop.Proofs.PictureShift

/-!
# Planes in a buffer

The three planes of a frame are slices of one buffer. That they may be written to one at a
time rests on where they lie: one behind the other from the first byte on, so no two of
them share a byte, and all of them inside the bytes that a frame is made to have. Behind
the last plane there can be one byte that is in no plane. A chroma plane has a quarter of
the luma bytes, rounded down, and a frame three halves of them, rounded down once; the two
roundings differ by one if the luma count leaves two or three when divided by four.

A frame is accepted if its buffer covers it, which is `Fills`, and nothing more is needed:
the end of every plane is inside the buffer then and its position can be counted. So a
plane of an accepted frame is always there to be read or to be changed, and changing it is
one `overwrite`. What that leaves alone is a matter of bytes, and was settled with the
buffers: a range is read back as it was written, and a range beside it as it was before.
-/

namespace PlanarCrop

/-! ## Where the planes lie -/

/-- First byte of a plane in a frame of the given size, and the first byte after it, in
exact numbers. -/
def Size.planeRange (size : Size) (p : Plane) : Nat × Nat :=
  ((Layout.exact size p).offset, (Layout.exact size p).offset + (Layout.exact size p).len)

/-- The planes of a frame of the given size take up the bytes `range` of its `total` bytes:
one behind the other, with at most one byte left over at the end. -/
structure Size.Tiled (size : Size) (range : Plane → Nat × Nat) (total : Nat) : Prop where
  frame : size.frameBytes = .ok total
  /-- The rows of a plane lie in the bytes set aside for it. -/
  layout : ∀ p, ∃ l, Layout.of size p = .ok l ∧ l.range = .ok (range p) ∧
    l.rowWidth * l.rows ≤ l.len
  y_start : (range .y).1 = 0
  u_start : (range .u).1 = (range .y).2
  v_start : (range .v).1 = (range .u).2
  apart : ∀ p q, p ≠ q → (range p).2 ≤ (range q).1 ∨ (range q).2 ≤ (range p).1
  v_stop : (range .v).2 = total ∨ (range .v).2 + 1 = total
  gap_iff : (range .v).2 + 1 = total ↔
    size.width.toNat * size.height.toNat % 4 = 2 ∨
      size.width.toNat * size.height.toNat % 4 = 3

theorem Size.planeRange_apart {size : Size} {p q : Plane} (h : p ≠ q) :
    (size.planeRange p).2 ≤ (size.planeRange q).1 ∨
      (size.planeRange q).2 ≤ (size.planeRange p).1 := by
  cases p <;> cases q <;> simp only [planeRange, Layout.exact, ne_eq, reduceCtorEq,
    not_true_eq_false, not_false_eq_true] at h ⊢ <;> omega

theorem Size.planeRange_v_stop (size : Size) :
    (size.planeRange .v).2 = size.lumaBytes + 2 * (size.lumaBytes / 4) :=
  Layout.exact_v_end size

theorem Size.tiled_of_lt {size : Size} (hcount : size.lumaBytes * 3 < countLimit) :
    size.Tiled size.planeRange (size.lumaBytes * 3 / 2) where
  frame := frameBytes_of_lt hcount
  layout p := by
    have hend := Layout.exact_end_le size p
    exact ⟨_, Layout.of_eq_ok_iff.2 ⟨by omega, rfl⟩,
      Layout.range_eq_ok_iff.2 ⟨by omega, rfl⟩, Layout.exact_rows_le size p⟩
  y_start := rfl
  u_start := (Layout.exact_y_end size).symm
  v_start := (Layout.exact_u_end size).symm
  apart _ _ := planeRange_apart
  v_stop := by
    rw [planeRange_v_stop]
    omega
  gap_iff := by
    rw [planeRange_v_stop]
    show _ ↔ size.lumaBytes % 4 = 2 ∨ size.lumaBytes % 4 = 3
    omega

namespace Frame

/-! ## What is accepted -/

theorem checkLength_eq_ok_iff {f : Frame} : f.checkLength = .ok () ↔ f.Fills f.size := by
  rcases Nat.lt_or_ge (f.size.lumaBytes * 3) countLimit with hcount | hcount
  · rw [checkLength_of_lt rfl hcount]
    split
    · next hshort =>
        refine ⟨fun h => ?_, fun h => ?_⟩
        · cases h
        · have hlen := h.lumaBytes_le
          omega
    · next hlong =>
        refine ⟨fun _ => ⟨rfl, ?_, ?_⟩, fun _ => rfl⟩
        · rw [f.size.three_mul_sides]
          exact hcount
        · rw [f.size.three_mul_sides]
          exact Nat.not_lt.1 hlong
  · rw [checkLength, validBytes, Size.frameBytes_of_le hcount]
    refine ⟨fun h => ?_, fun h => ?_⟩
    · cases h
    · have hlt := h.lumaBytes_lt
      omega

theorem ofBytes_eq_ok_iff {size : Size} {data : Bytes} {f : Frame} :
    ofBytes size data = .ok f ↔ f = ⟨size, data⟩ ∧ f.Fills size := by
  unfold ofBytes
  rw [bind_eq_ok_iff]
  constructor
  · rintro ⟨_, hcheck, hf⟩
    cases hf
    exact ⟨rfl, checkLength_eq_ok_iff.1 hcheck⟩
  · rintro ⟨rfl, hfills⟩
    exact ⟨(), checkLength_eq_ok_iff.2 hfills, rfl⟩

/-! ## Changing one plane -/

/-- `g` is the frame `f` with the bytes of one plane replaced by `new`, and nothing else
about it changed. -/
structure Rewritten (f : Frame) (p : Plane) (new : Bytes) (g : Frame) : Prop where
  size_eq : g.size = f.size
  length_eq : g.data.size = f.data.size
  plane_eq : g.plane p = .ok new
  others : ∀ q, q ≠ p → g.plane q = f.plane q
  behind : ∀ i, (f.size.planeRange .v).2 ≤ i → g.data[i]? = f.data[i]?

section
variable {f : Frame} {size : Size} {p : Plane} {new : Bytes}

theorem planeRange_stop_le (h : f.Fills size) (p : Plane) :
    (size.planeRange p).2 ≤ f.data.size :=
  Nat.le_trans (Layout.exact_end_le size p) h.lumaBytes_le

theorem size_plane (h : f.Fills size) (p : Plane) :
    (f.data.extract (size.planeRange p).1 (size.planeRange p).2).size =
      (Layout.exact size p).len := by
  rw [Array.size_extract, Nat.min_eq_left (planeRange_stop_le h p)]
  exact Nat.add_sub_cancel_left _ _

theorem changePlane_of_fills (h : f.Fills size) {change : Bytes → Except Fault Bytes}
    (hchange : change (f.data.extract (size.planeRange p).1 (size.planeRange p).2) = .ok new)
    (hnew : new.size = (Layout.exact size p).len) :
    f.changePlane p change =
      .ok { f with data := f.data.overwrite (size.planeRange p).1 new } := by
  have hcount := h.lumaBytes_lt
  have hend := Layout.exact_end_le size p
  have hold := size_plane h p
  rw [changePlane, h.size_eq]
  refine bind_eq_ok_iff.2 ⟨_, Layout.of_eq_ok_iff.2 ⟨by omega, rfl⟩, ?_⟩
  refine bind_eq_ok_iff.2 ⟨_, Layout.range_eq_ok_iff.2 ⟨by omega, rfl⟩, ?_⟩
  refine bind_eq_ok_iff.2 ⟨_, Bytes.slice_eq_ok_iff.2
    ⟨Nat.le_add_right _ _, planeRange_stop_le h p, rfl⟩, ?_⟩
  refine bind_eq_ok_iff.2 ⟨new, hchange, ?_⟩
  exact if_pos (hnew.trans hold.symm)

theorem rewritten_of_fills (h : f.Fills size) (hnew : new.size = (Layout.exact size p).len) :
    f.Rewritten p new { f with data := f.data.overwrite (size.planeRange p).1 new } := by
  have hstop : (size.planeRange p).1 + new.size = (size.planeRange p).2 := by
    rw [hnew]
    rfl
  have hin : (size.planeRange p).1 + new.size ≤ f.data.size := by
    rw [hstop]
    exact planeRange_stop_le h p
  have hsize := Bytes.size_overwrite hin
  have hfills : { f with data := f.data.overwrite (size.planeRange p).1 new }.Fills size :=
    ⟨h.size_eq, h.countable, by rw [hsize]; exact h.long_enough⟩
  refine ⟨rfl, hsize, ?_, fun q hq => ?_, fun i hi => ?_⟩
  · rw [plane_of_fills hfills p, ← hnew]
    exact congrArg _ (Bytes.extract_overwrite hin)
  · rw [plane_of_fills hfills q, plane_of_fills h q]
    refine congrArg _ (Bytes.extract_overwrite_of_apart hin ?_)
    rw [hstop]
    exact Size.planeRange_apart hq
  · rw [h.size_eq] at hi
    rw [Bytes.getElem?_overwrite hin, if_neg]
    have hlast : (size.planeRange p).2 ≤ (size.planeRange .v).2 := by
      cases p <;> simp only [Size.planeRange, Layout.exact] <;> omega
    omega

end

end Frame

/-- The planes of a frame whose bytes can be counted tile its buffer. A buffer that is long
enough is accepted as a frame, whatever else it holds, and every plane of that frame can be
read and can be changed: any change that answers with as many bytes as it was given
succeeds, and it replaces the bytes of its plane and leaves everything else alone. -/
theorem planes_tile {size : Size}
    (hcount : 3 * (size.width.toNat * size.height.toNat) < countLimit) :
    size.Tiled size.planeRange (size.lumaBytes * 3 / 2) ∧
      (∀ data f, Frame.ofBytes size data = .ok f ↔
        f = ⟨size, data⟩ ∧ size.lumaBytes * 3 / 2 ≤ data.size) ∧
      ∀ data f, Frame.ofBytes size data = .ok f → ∀ p, ∃ old,
        old = f.data.extract (size.planeRange p).1 (size.planeRange p).2 ∧
          f.plane p = .ok old ∧
          ∀ change new, change old = .ok new → new.size = old.size →
            ∃ g, f.changePlane p change = .ok g ∧ f.Rewritten p new g := by
  have hluma : size.lumaBytes * 3 < countLimit := by
    rw [← size.three_mul_sides]
    exact hcount
  refine ⟨Size.tiled_of_lt hluma, fun data f => ?_, fun data f hf p => ?_⟩
  · rw [Frame.ofBytes_eq_ok_iff]
    refine and_congr_right fun hf => ?_
    subst hf
    refine ⟨fun h => h.lumaBytes_le, fun hlen => ⟨rfl, hcount, ?_⟩⟩
    rw [size.three_mul_sides]
    exact hlen
  · obtain ⟨-, hfills⟩ := Frame.ofBytes_eq_ok_iff.1 hf
    refine ⟨_, rfl, Frame.plane_of_fills hfills p, fun change new hchange hsize => ?_⟩
    have hnew : new.size = (Layout.exact size p).len := hsize.trans (Frame.size_plane hfills p)
    exact ⟨_, Frame.changePlane_of_fills hfills hchange hnew,
      Frame.rewritten_of_fills hfills hnew⟩

/-- Fifteen luma bytes leave three when they are divided by four, so the last plane ends one
byte before the frame does. In a buffer that is two bytes longer than the frame the middle
byte of the second plane is set. -/
theorem tiles_of_three_by_five :
    let size : Size := ⟨3, 5⟩
    let f : Frame := ⟨size, Array.ofFn fun i : Fin 24 => UInt8.ofNat i⟩
    3 * (size.width.toNat * size.height.toNat) < countLimit ∧
      size.Tiled (fun | .y => (0, 15) | .u => (15, 18) | .v => (18, 21)) 22 ∧
      Frame.ofBytes size f.data = .ok f ∧
      ∃ g, f.setByte .u 1 200 = .ok g ∧ f.Rewritten .u #[15, 200, 17] g := by
  intro size f
  have hcount : 3 * (size.width.toNat * size.height.toNat) < countLimit := by decide
  obtain ⟨htiled, haccept, hplanes⟩ := planes_tile hcount
  have htotal : size.lumaBytes * 3 / 2 = 22 := by decide
  have hrange : size.planeRange = fun | .y => (0, 15) | .u => (15, 18) | .v => (18, 21) := by
    funext p
    cases p <;> decide
  have hf : Frame.ofBytes size f.data = .ok f := (haccept f.data f).2 ⟨rfl, by decide⟩
  obtain ⟨old, hold, -, hchange⟩ := hplanes f.data f hf .u
  obtain rfl : old = #[15, 16, 17] := hold.trans (by decide +kernel)
  rw [hrange, htotal] at htiled
  refine ⟨hcount, htiled, hf, hchange _ _ ?_ rfl⟩
  cbv

end PlanarCrop
