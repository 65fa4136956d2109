import PlanarCrop.Proofs.PictureShift

/-!
# What the windows of a plan promise

Any plan has its three windows, except that a source can be so large that the start of its
last plane is no longer a count. That stops a plan before it has computed anything of its
own: once the layouts are there, the number of kept bytes can be counted and is no larger
than the slot, whatever the margins are.

A window that is there lies in its plane as a rectangle. It ends at a column and at a row
that the plane has, and each of the two matters for the rows: the rectangle ends at a
column of the plane, so a row of it stays within its line and is over before the next one
begins; and it ends at a row of the plane, so the last line is still inside the bytes set
aside for the plane. The two sides are asked for apart, because a window with no rows may
be wider than its plane, and one with no columns higher.
-/

namespace PlanarCrop

namespace Window

/-- The window has room in its slot and is a rectangle inside its plane. -/
structure WellFormed (w : Window) : Prop where
  kept_eq : w.keptBytes = .ok (w.span * w.rows)
  kept_le : w.span * w.rows ≤ w.dest.len
  right_le : 0 < w.span → w.left + w.span ≤ w.source.rowWidth
  bottom_le : 0 < w.rows → w.top + w.rows ≤ w.source.rows
  row_in : 0 < w.span → ∀ r < w.rows, w.source.offset ≤ w.rowStart r ∧
    w.rowStart r + w.span ≤ w.source.offset + w.source.len
  rows_apart : 0 < w.span → ∀ r < w.rows, ∀ r' < r, w.rowStart r' + w.span ≤ w.rowStart r

end Window

namespace Plan

variable {p : Plan} {plane : Plane}

/-- The kept bytes of a window whose layouts are there can be counted and fit the slot. -/
theorem exists_keptBytes {source dest : Layout} (hsource : Layout.of p.source plane = .ok source)
    (hdest : Layout.of p.cropped plane = .ok dest) :
    ∃ kept, (p.keep plane source dest).keptBytes = .ok kept ∧ kept ≤ dest.len := by
  obtain ⟨-, rfl⟩ := Layout.of_eq_ok_iff.1 hsource
  obtain ⟨-, rfl⟩ := Layout.of_eq_ok_iff.1 hdest
  rw [keep_exact]
  exact ⟨_, keptBytes_exactWindow p plane, p.patch_bytes_le plane⟩

/-- What is kept of the luma plane, and with halved margins of any plane, fills the rows of
its slot. -/
theorem patch_bytes_eq (h : plane = .y ∨ p.chroma = .subsampled) :
    (p.patch plane).span * (p.patch plane).rows =
      (Layout.exact p.cropped plane).rowWidth * (Layout.exact p.cropped plane).rows := by
  rcases h with rfl | hmode
  · exact p.lumaBytes_cropped.symm
  · obtain ⟨hspan, hrows⟩ := patch_shape hmode plane
    rw [hspan, hrows]

theorem exactWindow_wellFormed (p : Plan) (plane : Plane) :
    (p.exactWindow plane).WellFormed where
  kept_eq := keptBytes_exactWindow p plane
  kept_le := p.patch_bytes_le plane
  right_le := p.patch_left_le plane
  bottom_le := p.patch_top_le plane
  row_in hspan r hr := by
    refine ⟨?_, exactWindow_row_le hspan hr⟩
    rw [Window.rowStart, Nat.add_assoc]
    exact Nat.le_add_right _ _
  rows_apart hspan r _ r' hlt := by
    have hright : (p.exactWindow plane).left + (p.exactWindow plane).span ≤
        (p.exactWindow plane).source.rowWidth := p.patch_left_le plane hspan
    -- The later row starts at least one line further on.
    obtain ⟨n, rfl⟩ := Nat.exists_eq_add_of_lt hlt
    have hline := (p.exactWindow plane).rowStart_add r' (n + 1)
    rw [Nat.succ_mul, ← Nat.add_assoc r'] at hline
    omega

/-- A plan has no window for a plane exactly if the plane is the last one and starts too far
into the source to be counted; the count of the kept bytes is never at fault and never more
than the slot. A window that is there is well formed, and it keeps as many bytes as the rows
of its slot have wherever it does not cut chroma planes by the margins of the luma plane. -/
theorem window_wellFormed (p : Plan) (plane : Plane) :
    (∀ fault, p.window plane = .error fault ↔
      fault = .overflow ∧ plane = .v ∧
        countLimit ≤ p.source.width.toNat * p.source.height.toNat +
          p.source.width.toNat * p.source.height.toNat / 4) ∧
      (∀ source dest, Layout.of p.source plane = .ok source →
        Layout.of p.cropped plane = .ok dest →
          ∃ kept, (p.keep plane source dest).keptBytes = .ok kept ∧ kept ≤ dest.len) ∧
      ∀ w, p.window plane = .ok w →
        Layout.of p.source plane = .ok w.source ∧ Layout.of p.cropped plane = .ok w.dest ∧
          w.WellFormed ∧
          (plane = .y ∨ p.chroma = .subsampled →
            w.span * w.rows = w.dest.rowWidth * w.dest.rows) := by
  refine ⟨fun fault => window_eq_error_iff.trans Layout.of_eq_error_iff,
    fun source dest => exists_keptBytes, fun w hw => ?_⟩
  obtain ⟨hoffset, rfl⟩ := window_eq_ok_iff.1 hw
  have hcropped := Nat.lt_of_le_of_lt (p.exact_cropped_offset_le plane) hoffset
  exact ⟨Layout.of_eq_ok_iff.2 ⟨hoffset, rfl⟩, Layout.of_eq_ok_iff.2 ⟨hcropped, rfl⟩,
    exactWindow_wellFormed p plane, patch_bytes_eq⟩

/-- The window of the last plane where odd margins are cut off an odd size, and no such window
where the size is the largest that there is. -/
theorem wellFormed_of_nine_by_seven :
    ∃ w : Window,
      (⟨.normal, ⟨9, 7⟩, ⟨3, 2, 3, 0⟩, .subsampled⟩ : Plan).window .v = .ok w ∧
        w.WellFormed ∧ w.left = 1 ∧ w.span * w.rows = w.dest.rowWidth * w.dest.rows ∧
        (⟨.normal, ⟨0xFFFFFFFF, 0xFFFFFFFF⟩, ⟨3, 2, 3, 0⟩, .subsampled⟩ : Plan).window .v =
          .error .overflow := by
  let p : Plan := ⟨.normal, ⟨9, 7⟩, ⟨3, 2, 3, 0⟩, .subsampled⟩
  let huge : Plan := ⟨.normal, ⟨0xFFFFFFFF, 0xFFFFFFFF⟩, ⟨3, 2, 3, 0⟩, .subsampled⟩
  have hw : p.window .v = .ok ⟨⟨78, 15, 4, 3⟩, ⟨20, 4, 2, 2⟩, 1, 1, 2, 2⟩ := by cbv
  obtain ⟨-, -, hshape⟩ := window_wellFormed p .v
  obtain ⟨-, -, hwell, hfull⟩ := hshape _ hw
  have hhuge : huge.window .v = .error .overflow :=
    ((window_wellFormed huge .v).1 .overflow).2 ⟨rfl, rfl, by decide⟩
  exact ⟨_, hw, hwell, rfl, hfull (.inr rfl), hhuge⟩

end Plan

end PlanarCrop
