import PlanarCrop.Proofs.PictureShift

/-!
# Nothing of the border is left

What a crop takes away has to be gone. The law is one of two runs: frames that look the
same wherever a pixel is retained crop to the very same frame, whatever else is in them
and whatever their staging buffers held. The bytes that cannot matter are listed by
`Hidden`: samples of the border, bytes of a plane that belong to no row, and everything
behind the planes.

That a crop is read from its patches alone is known already (`eq_of_samples`), so what
is left is to look at the patches. The border is drawn in pixels, but no chroma plane is
cut along it: in full resolution a chroma patch is a good deal smaller than the picture
that is retained, and with halved margins it may begin one sample further out, because
half of an odd margin is rounded down. Neither reads a sample of which no pixel is
retained. Column `c` of a patch stands over the pixel column `2 * (left + c)` in the one
mode and over `left + 2 * c` in the other, and both of these are inside the margins.
-/

namespace PlanarCrop

/-! ## Places in a buffer -/

namespace Layout

/-- The planes do not share a byte. -/
theorem exact_disjoint {size : Size} {p q : Plane} {i j : Nat}
    (hi : i < (exact size p).len) (hj : j < (exact size q).len)
    (h : (exact size p).offset + i = (exact size q).offset + j) : p = q ∧ i = j := by
  cases p <;> cases q <;> simp only [exact] at hi hj h <;>
    first
      | exact ⟨rfl, by omega⟩
      | omega

end Layout

theorem row_inj {span r c r' c' : Nat} (hc : c < span) (hc' : c' < span)
    (h : r * span + c = r' * span + c') : r = r' ∧ c = c' := by
  constructor
  · rw [← row_div (r := r) hc, h, row_div hc']
  · rw [← row_mod (r := r) hc, h, row_mod hc']

namespace Plan

/-! ## What is retained -/

/-- Pixel `(x, y)` of the source is not in the border. -/
structure Retains (p : Plan) (x y : Nat) : Prop where
  left_le : p.margins.left.toNat ≤ x
  right_lt : x + p.margins.right.toNat < p.source.width.toNat
  top_le : p.margins.top.toNat ≤ y
  bottom_lt : y + p.margins.bottom.toNat < p.source.height.toNat

/-- Sample `(x, y)` of a plane belongs to a pixel that is retained. A chroma sample
belongs to the pixels of a block of two by two. -/
def Shows (p : Plan) : Plane → Nat → Nat → Prop
  | .y, x, y => p.Retains x y
  | .u, x, y => ∃ px py, p.Retains px py ∧ px / 2 = x ∧ py / 2 = y
  | .v, x, y => ∃ px py, p.Retains px py ∧ px / 2 = x ∧ py / 2 = y

/-- The two frames have the same samples wherever a pixel is retained. -/
def SameView (p : Plan) (a b : Frame) : Prop :=
  ∀ plane x y, p.Shows plane x y → a.sample? plane x y = b.sample? plane x y

/-- The bytes of a source buffer that no retained pixel has a part in. -/
inductive Hidden (p : Plan) : Nat → Prop where
  /-- A sample of the border. -/
  | sample {plane : Plane} {x y : Nat} (hx : x < (Layout.exact p.source plane).rowWidth)
      (hy : y < (Layout.exact p.source plane).rows) (hborder : ¬ p.Shows plane x y) :
      Hidden p ((Layout.exact p.source plane).offset
        + (y * (Layout.exact p.source plane).rowWidth + x))
  /-- A byte set aside for a plane, behind its last row. -/
  | unused {plane : Plane} {i : Nat}
      (hrows : (Layout.exact p.source plane).rowWidth * (Layout.exact p.source plane).rows
        ≤ i) (hi : i < (Layout.exact p.source plane).len) :
      Hidden p ((Layout.exact p.source plane).offset + i)
  /-- A byte behind the last plane. -/
  | behind {i : Nat} (hi : p.source.lumaBytes + 2 * p.source.chromaBytes ≤ i) : Hidden p i

variable {p : Plan}

theorem not_hidden_of_shows {plane : Plane} {x y : Nat} (hshows : p.Shows plane x y)
    (hx : x < (Layout.exact p.source plane).rowWidth)
    (hy : y < (Layout.exact p.source plane).rows) :
    ¬ p.Hidden ((Layout.exact p.source plane).offset
      + (y * (Layout.exact p.source plane).rowWidth + x)) := by
  have hlen := Frame.sample_lt hx hy
  intro h
  generalize hi : (Layout.exact p.source plane).offset
    + (y * (Layout.exact p.source plane).rowWidth + x) = i at h
  cases h with
  | sample hx' hy' hborder =>
      obtain ⟨rfl, hpos⟩ := Layout.exact_disjoint hlen (Frame.sample_lt hx' hy') hi
      obtain ⟨rfl, rfl⟩ := row_inj hx hx' hpos
      exact hborder hshows
  | unused hrows hi' =>
      obtain ⟨rfl, rfl⟩ := Layout.exact_disjoint hlen hi' hi
      exact absurd (row_lt hx hy) (Nat.not_lt.2 hrows)
  | behind hbehind =>
      have hend : (Layout.exact p.source plane).offset + (Layout.exact p.source plane).len ≤
          p.source.lumaBytes + 2 * p.source.chromaBytes := by
        cases plane <;> simp only [Layout.exact] <;> omega
      omega

/-! ## Patches lie inside the picture that is retained -/

theorem exists_retained_column {c : Nat} (hc : c < p.chromaPatch.span) :
    ∃ x, p.margins.left.toNat ≤ x ∧ x + p.margins.right.toNat < p.source.width.toNat ∧
      x / 2 = p.chromaPatch.left + c := by
  unfold chromaPatch keptWidth Margins.horizontal at *
  cases hmode : p.chroma with
  | fullResolution =>
      rw [hmode] at hc
      simp only at hc ⊢
      exact ⟨2 * (p.margins.left.toNat + c), by omega, by omega, by omega⟩
  | subsampled =>
      rw [hmode] at hc
      simp only at hc ⊢
      exact ⟨p.margins.left.toNat + 2 * c, by omega, by omega, by omega⟩

theorem exists_retained_row {r : Nat} (hr : r < p.chromaPatch.rows) :
    ∃ y, p.margins.top.toNat ≤ y ∧ y + p.margins.bottom.toNat < p.source.height.toNat ∧
      y / 2 = p.chromaPatch.top + r := by
  unfold chromaPatch keptHeight Margins.vertical at *
  cases hmode : p.chroma with
  | fullResolution =>
      rw [hmode] at hr
      simp only at hr ⊢
      exact ⟨2 * (p.margins.top.toNat + r), by omega, by omega, by omega⟩
  | subsampled =>
      rw [hmode] at hr
      simp only at hr ⊢
      exact ⟨p.margins.top.toNat + 2 * r, by omega, by omega, by omega⟩

theorem shows_patch {plane : Plane} {c r : Nat} (hc : c < (p.patch plane).span)
    (hr : r < (p.patch plane).rows) :
    p.Shows plane ((p.patch plane).left + c) ((p.patch plane).top + r) := by
  have hchroma (hc : c < p.chromaPatch.span) (hr : r < p.chromaPatch.rows) :
      ∃ px py, p.Retains px py ∧ px / 2 = p.chromaPatch.left + c ∧
        py / 2 = p.chromaPatch.top + r := by
    obtain ⟨px, hleft, hright, hpx⟩ := exists_retained_column hc
    obtain ⟨py, htop, hbottom, hpy⟩ := exists_retained_row hr
    exact ⟨px, py, ⟨hleft, hright, htop, hbottom⟩, hpx, hpy⟩
  cases plane with
  | y =>
      simp only [patch, lumaPatch, keptWidth, keptHeight, Margins.horizontal,
        Margins.vertical] at hc hr ⊢
      exact ⟨by omega, by omega, by omega, by omega⟩
  | u => exact hchroma hc hr
  | v => exact hchroma hc hr

/-! ## Two runs -/

/-- Crops are the same if their sources are the same on every patch. -/
theorem eq_of_patches {src src' : Bytes} {a b : Frame} (ha : p.IsCrop src a)
    (hb : p.IsCrop src' b)
    (h : ∀ plane, ∀ c < (p.patch plane).span, ∀ r < (p.patch plane).rows,
      src[(Layout.exact p.source plane).offset
          + ((p.patch plane).top + r) * (Layout.exact p.source plane).rowWidth
          + ((p.patch plane).left + c)]? =
        src'[(Layout.exact p.source plane).offset
          + ((p.patch plane).top + r) * (Layout.exact p.source plane).rowWidth
          + ((p.patch plane).left + c)]?) : a = b := by
  refine eq_of_samples ha hb ?_ ?_
  · intro x hx y hy
    have hbyte := h .y x hx y hy
    simp only [Layout.exact, patch, lumaPatch, Nat.zero_add, ← Nat.add_assoc] at hbyte
    exact hbyte
  · intro k hk i hi
    obtain ⟨hr, hc⟩ := row_of_lt hi
    have hcases : k = 0 ∨ k = 1 := by omega
    rcases hcases with rfl | rfl
    · have hbyte := h .u _ hc _ hr
      simp only [Layout.exact, patch, ← Nat.add_assoc] at hbyte
      simp only [Nat.zero_mul, Nat.add_zero]
      exact hbyte
    · have hbyte := h .v _ hc _ hr
      simp only [Layout.exact, patch, ← Nat.add_assoc] at hbyte
      simp only [Nat.one_mul]
      exact hbyte

theorem eq_of_sameView {a b a' b' : Frame} (hview : p.SameView a b)
    (ha : a.Fills p.source) (hb : b.Fills p.source) (ha' : p.IsCrop a.data a')
    (hb' : p.IsCrop b.data b') : a' = b' := by
  refine eq_of_patches ha' hb' fun plane c hc r hr => ?_
  have hleft := p.patch_left_le plane (by omega)
  have htop := p.patch_top_le plane (by omega)
  have hsample := hview plane _ _ (shows_patch hc hr)
  rw [Frame.sample?_of_fills ha (by omega) (by omega),
    Frame.sample?_of_fills hb (by omega) (by omega)] at hsample
  exact hsample

theorem sameView_of_bytes {a b : Frame} (ha : a.Fills p.source) (hb : b.Fills p.source)
    (h : ∀ i, p.Hidden i ∨ a.data[i]? = b.data[i]?) : p.SameView a b := by
  intro plane x y hshows
  by_cases hin : x < (Layout.exact p.source plane).rowWidth ∧
      y < (Layout.exact p.source plane).rows
  · have hbyte := (h _).resolve_left (not_hidden_of_shows hshows hin.1 hin.2)
    rw [Frame.sample?_of_fills ha hin.1 hin.2, Frame.sample?_of_fills hb hin.1 hin.2,
      Nat.add_assoc]
    exact hbyte
  · -- Odd sides leave pixels without a chroma sample; neither frame has one there.
    rw [Frame.sample?, Frame.sample?, ha.size_eq, hb.size_eq, if_neg hin, if_neg hin]

/-- Frames that look the same wherever a pixel is retained crop to the same frame. So do
frames whose buffers differ in hidden bytes only: no byte of the border, none between or
behind the rows of the planes and none behind the frame has any effect. -/
theorem cropFrame_hides_border {a b : Frame} {s t : Staging} (hcut : p.margins ≠ .zero)
    (ha : (p.cropFrame a s).outcome = .ok ()) (hb : (p.cropFrame b t).outcome = .ok ()) :
    (p.SameView a b → (p.cropFrame a s).frame = (p.cropFrame b t).frame) ∧
      ((∀ i, p.Hidden i ∨ a.data[i]? = b.data[i]?) →
        (p.cropFrame a s).frame = (p.cropFrame b t).frame) := by
  have hendA := p.cropFrame_ends a s
  have hendB := p.cropFrame_ends b t
  have hfillsA : a.Fills p.source := accepts_iff_fills.1 (hendA.accepts_of_ok hcut ha)
  have hfillsB : b.Fills p.source := accepts_iff_fills.1 (hendB.accepts_of_ok hcut hb)
  have hcropA := hendA.isCrop hcut ha
  have hcropB := hendB.isCrop hcut hb
  constructor
  · intro hview
    exact eq_of_sameView hview hfillsA hfillsB hcropA hcropB
  · intro hbytes
    have hview := sameView_of_bytes hfillsA hfillsB hbytes
    exact eq_of_sameView hview hfillsA hfillsB hcropA hcropB

/-- Two columns and three rows taken out of seven by five. Of the second frame only the
bytes that show are those of the first, and its buffer is longer. -/
theorem border_of_seven_by_five_hidden :
    let p : Plan := ⟨.normal, ⟨7, 5⟩, ⟨3, 2, 2, 0⟩, .subsampled⟩
    let a : Frame := ⟨⟨7, 5⟩, Array.ofFn fun i : Fin 52 => UInt8.ofNat i⟩
    let b : Frame := ⟨⟨7, 5⟩, Array.ofFn fun i : Fin 60 =>
      if i.val ∈ [17, 18, 24, 25, 31, 32, 39, 40, 47, 48] then UInt8.ofNat i else 0xEE⟩
    p.SameView a b ∧
      (p.cropFrame a ⟨.normal, .filled 9 0⟩).frame =
        (p.cropFrame b ⟨.normal, .filled 9 0x55⟩).frame := by
  intro p a b
  have hbounds {x y : Nat} (h : p.Retains x y) : x ∈ [3, 4] ∧ y ∈ [2, 3, 4] := by
    have hleft : 3 ≤ x := h.left_le
    have hright : x + 2 < 7 := h.right_lt
    have htop : 2 ≤ y := h.top_le
    have hbottom : y + 0 < 5 := h.bottom_lt
    simp only [List.mem_cons, List.not_mem_nil, or_false]
    omega
  have hluma : ∀ x ∈ [3, 4], ∀ y ∈ [2, 3, 4], a.sample? .y x y = b.sample? .y x y := by
    decide +kernel
  have hchroma : ∀ plane ∈ [Plane.u, .v], ∀ x ∈ [3, 4], ∀ y ∈ [2, 3, 4],
      a.sample? plane (x / 2) (y / 2) = b.sample? plane (x / 2) (y / 2) := by
    decide +kernel
  have hview : p.SameView a b := by
    intro plane x y hshows
    cases plane with
    | y =>
        obtain ⟨hx, hy⟩ := hbounds hshows
        exact hluma x hx y hy
    | u =>
        obtain ⟨px, py, hretains, rfl, rfl⟩ := hshows
        obtain ⟨hx, hy⟩ := hbounds hretains
        exact hchroma .u (by decide) px hx py hy
    | v =>
        obtain ⟨px, py, hretains, rfl, rfl⟩ := hshows
        obtain ⟨hx, hy⟩ := hbounds hretains
        exact hchroma .v (by decide) px hx py hy
  have ha : (p.cropFrame a ⟨.normal, .filled 9 0⟩).outcome = .ok () := by cbv
  have hb : (p.cropFrame b ⟨.normal, .filled 9 0x55⟩).outcome = .ok () := by cbv
  exact ⟨hview, (cropFrame_hides_border (by decide) ha hb).1 hview⟩

end Plan

end PlanarCrop
