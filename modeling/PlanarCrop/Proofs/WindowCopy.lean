import PlanarCrop.Window

/-!
# What copying a window writes

`Window.copy` is a loop over rows inside a checked write into a slot, and
every caller wants to know the same two things about it: when it gets
through, and which byte ends up where. This file answers both in exact
numbers, so that nobody after it has to look at a row again.

The loop carries one invariant, `PackedRows`: after `n` rows the buffer holds
`n * span` bytes, and byte `i` of it is byte `i % span` of row `i / span`. A
row adds `span` bytes behind those, whose quotient is `n` and whose remainder
counts from zero, so the invariant steps without a case distinction on the
width of a row.

Whether the loop gets through is a matter of each row on its own (`RowIn`),
and `Fits` is the conjunction of all that the copy checks. It is exact:
`Fits` and success are the same thing, in both directions.
-/

namespace PlanarCrop

/-! Position `c` of row `r` in rows of `span` bytes that lie one behind the other. -/

theorem row_div {span r c : Nat} (hc : c < span) : (r * span + c) / span = r := by
  rw [Nat.mul_comm, Nat.mul_add_div (by omega), Nat.div_eq_of_lt hc, Nat.add_zero]

theorem row_mod {span r c : Nat} (hc : c < span) : (r * span + c) % span = c := by
  rw [Nat.mul_comm, Nat.mul_add_mod, Nat.mod_eq_of_lt hc]

theorem row_lt {span rows r c : Nat} (hc : c < span) (hr : r < rows) :
    r * span + c < span * rows :=
  calc r * span + c < (r + 1) * span := by
        rw [Nat.succ_mul]
        exact Nat.add_lt_add_left hc _
    _ ≤ rows * span := Nat.mul_le_mul_right _ hr
    _ = span * rows := Nat.mul_comm _ _

theorem row_of_lt {span rows i : Nat} (h : i < span * rows) :
    i / span < rows ∧ i % span < span :=
  ⟨Nat.div_lt_of_lt_mul h, Nat.mod_lt i (Nat.pos_of_lt_mul_right h)⟩

namespace Window

/-- Where retained row `r` starts in the source buffer, in exact numbers. -/
def rowStart (w : Window) (r : Nat) : Nat :=
  w.source.offset + (w.top + r) * w.source.rowWidth + w.left

theorem rowStart_add (w : Window) (r n : Nat) :
    w.rowStart (r + n) = w.rowStart r + n * w.source.rowWidth := by
  unfold rowStart
  rw [← Nat.add_assoc w.top, Nat.add_mul]
  omega

/-- Retained row `r` can be read from a buffer of `n` bytes. -/
structure RowIn (w : Window) (n r : Nat) : Prop where
  line_lt : w.top + r < countLimit
  stop_lt : w.rowStart r + w.span < countLimit
  stop_le : w.rowStart r + w.span ≤ n

/-- The byte of the source that is packed at position `i`. -/
def keptByte? (w : Window) (src : Bytes) (i : Nat) : Option UInt8 :=
  src[w.rowStart (i / w.span) + i % w.span]?

theorem keptByte?_row {w : Window} {src : Bytes} {r c : Nat} (hc : c < w.span) :
    w.keptByte? src (r * w.span + c) = src[w.rowStart r + c]? := by
  rw [keptByte?, row_div hc, row_mod hc]

/-- The byte at position `i` of the slot once the window is copied. -/
def slotByte? (w : Window) (src : Bytes) (i : Nat) : Option UInt8 :=
  if i < w.span * w.rows then w.keptByte? src i else some 0

/-! ## The loop over the rows -/

theorem appendRow_eq_ok_iff {w : Window} {src packed out : Bytes} {r : Nat} :
    w.appendRow src packed r = .ok out ↔
      w.RowIn src.size r ∧
        out = packed ++ src.extract (w.rowStart r) (w.rowStart r + w.span) := by
  unfold appendRow
  rw [bind_eq_ok_iff]
  constructor
  · rintro ⟨⟨start, stop⟩, hrow, h⟩
    obtain ⟨hline, hstop, hp⟩ := sourceRow_eq_ok_iff.1 hrow
    obtain ⟨rfl, rfl⟩ := Prod.mk.inj hp
    obtain ⟨row, hslice, hout⟩ := bind_eq_ok_iff.1 h
    obtain ⟨-, hle, rfl⟩ := Bytes.slice_eq_ok_iff.1 hslice
    cases hout
    exact ⟨⟨hline, hstop, hle⟩, rfl⟩
  · rintro ⟨⟨hline, hstop, hle⟩, rfl⟩
    refine ⟨_, sourceRow_eq_ok_iff.2 ⟨hline, hstop, rfl⟩, ?_⟩
    exact bind_eq_ok_iff.2
      ⟨_, Bytes.slice_eq_ok_iff.2 ⟨Nat.le_add_right _ _, hle, rfl⟩, rfl⟩

/-- What the loop has built after `n` rows: `n * span` bytes, row after row. -/
structure PackedRows (w : Window) (src : Bytes) (n : Nat) (packed : Bytes) : Prop where
  size_eq : packed.size = n * w.span
  byte : ∀ i < n * w.span, packed[i]? = w.keptByte? src i

theorem PackedRows.zero (w : Window) (src : Bytes) : w.PackedRows src 0 #[] where
  size_eq := by simp
  byte i hi := by
    rw [Nat.zero_mul] at hi
    exact absurd hi (Nat.not_lt_zero i)

theorem PackedRows.append {w : Window} {src packed : Bytes} {n : Nat}
    (h : w.PackedRows src n packed) (hrow : w.RowIn src.size n) :
    w.PackedRows src (n + 1)
      (packed ++ src.extract (w.rowStart n) (w.rowStart n + w.span)) where
  size_eq := by
    have hle := hrow.stop_le
    rw [Array.size_append, h.size_eq, Array.size_extract, Nat.min_eq_left hle,
      Nat.add_sub_cancel_left, Nat.succ_mul]
  byte i hi := by
    have hle := hrow.stop_le
    rw [Nat.succ_mul] at hi
    rw [Array.getElem?_append, h.size_eq]
    split
    · next hlt => exact h.byte i hlt
    · next hge =>
        -- Position `i` lies in the row just added, so its row is `n`.
        obtain ⟨c, rfl⟩ := Nat.exists_eq_add_of_le (Nat.not_lt.1 hge)
        have hc : c < w.span := by omega
        rw [keptByte?_row hc, Nat.add_sub_cancel_left, Array.getElem?_extract,
          if_pos (by omega)]

theorem packRows_of_rowIn {w : Window} {src : Bytes} {n : Nat}
    (h : ∀ r < n, w.RowIn src.size r) :
    ∃ packed, w.packRows src n = .ok packed ∧ w.PackedRows src n packed := by
  induction n with
  | zero => exact ⟨#[], packRows_zero w src, PackedRows.zero w src⟩
  | succ n ih =>
      obtain ⟨packed, hpacked, hbytes⟩ := ih fun r hr => h r (by omega)
      have hrow : w.RowIn src.size n := h n (by omega)
      refine ⟨_, ?_, hbytes.append hrow⟩
      rw [packRows_succ, hpacked]
      exact appendRow_eq_ok_iff.2 ⟨hrow, rfl⟩

theorem rowIn_of_packRows {w : Window} {src : Bytes} :
    ∀ {n : Nat} {packed : Bytes}, w.packRows src n = .ok packed →
      ∀ r < n, w.RowIn src.size r := by
  intro n
  induction n with
  | zero =>
      intro packed _ r hr
      exact absurd hr (Nat.not_lt_zero r)
  | succ n ih =>
      intro packed h r hr
      rw [packRows_succ] at h
      obtain ⟨before, hbefore, hrow⟩ := bind_eq_ok_iff.1 h
      rcases Nat.lt_succ_iff_lt_or_eq.1 hr with hlt | rfl
      · exact ih hbefore r hlt
      · exact (appendRow_eq_ok_iff.1 hrow).1

/-! ## The slot

The packed rows are written at the start of the slot and zeros behind them.
A window whose rows have no bytes is not looked up at all, which is why the
rows matter only for a positive span. -/

/-- All that copying a window from a buffer of `srcSize` bytes into one of
`dstSize` bytes asks for. -/
structure Fits (w : Window) (srcSize dstSize : Nat) : Prop where
  slot_lt : w.dest.offset + w.dest.len < countLimit
  slot_le : w.dest.offset + w.dest.len ≤ dstSize
  kept_lt : w.span * w.rows < countLimit
  kept_le : w.span * w.rows ≤ w.dest.len
  rows_in : w.span = 0 ∨ ∀ r < w.rows, w.RowIn srcSize r

theorem packed_of_rows {w : Window} {src : Bytes}
    (h : w.span = 0 ∨ ∀ r < w.rows, w.RowIn src.size r) :
    ∃ body, w.packed src = .ok body ∧ w.PackedRows src w.rows body := by
  unfold packed
  by_cases hspan : w.span = 0
  · rw [if_pos hspan]
    refine ⟨#[], rfl, ?_, ?_⟩
    · rw [hspan]
      rfl
    · intro i hi
      rw [hspan] at hi
      exact absurd hi (Nat.not_lt_zero i)
  · rw [if_neg hspan]
    exact packRows_of_rowIn (h.resolve_left hspan)

theorem rows_of_packed {w : Window} {src body : Bytes} (h : w.packed src = .ok body) :
    w.span = 0 ∨ ∀ r < w.rows, w.RowIn src.size r := by
  unfold packed at h
  split at h
  · next hspan => exact Or.inl hspan
  · exact Or.inr (rowIn_of_packRows h)

theorem copy_eq_ok_iff {w : Window} {src dst out : Bytes} :
    w.copy src dst = .ok out ↔
      w.Fits src.size dst.size ∧ ∃ body, w.packed src = .ok body ∧
        out = dst.overwrite w.dest.offset
          (body ++ Bytes.zeros (w.dest.len - w.span * w.rows)) := by
  unfold copy
  constructor
  · intro h
    obtain ⟨⟨start, stop⟩, hrange, h⟩ := bind_eq_ok_iff.1 h
    obtain ⟨hslot, hp⟩ := Layout.range_eq_ok_iff.1 hrange
    obtain ⟨rfl, rfl⟩ := Prod.mk.inj hp
    obtain ⟨kept, hkept, h⟩ := bind_eq_ok_iff.1 h
    obtain ⟨hkeptlt, rfl⟩ := checkedCount_eq_ok_iff.1 hkept
    split at h
    · next hin =>
        obtain ⟨body, hbody, hout⟩ := bind_eq_ok_iff.1 h
        cases hout
        exact ⟨⟨hslot, hin.1, hkeptlt, hin.2, rows_of_packed hbody⟩, body, hbody, rfl⟩
    · cases h
  · rintro ⟨hfits, body, hbody, rfl⟩
    refine bind_eq_ok_iff.2 ⟨_, Layout.range_eq_ok_iff.2 ⟨hfits.slot_lt, rfl⟩, ?_⟩
    refine bind_eq_ok_iff.2 ⟨_, checkedCount_eq_ok_iff.2 ⟨hfits.kept_lt, rfl⟩, ?_⟩
    rw [if_pos ⟨hfits.slot_le, hfits.kept_le⟩, hbody]
    rfl

theorem exists_copy_iff {w : Window} {src dst : Bytes} :
    (∃ out, w.copy src dst = .ok out) ↔ w.Fits src.size dst.size := by
  constructor
  · rintro ⟨out, h⟩
    exact (copy_eq_ok_iff.1 h).1
  · intro h
    obtain ⟨body, hbody, -⟩ := packed_of_rows h.rows_in
    exact ⟨_, copy_eq_ok_iff.2 ⟨h, body, hbody, rfl⟩⟩

/-- A copy replaces its slot, and the new content of the slot owes nothing to the
destination. -/
theorem exists_slot_of_copy {w : Window} {src dst out : Bytes}
    (h : w.copy src dst = .ok out) :
    w.dest.offset + w.dest.len ≤ dst.size ∧
      ∃ slot : Bytes, slot.size = w.dest.len ∧
        (∀ i < w.dest.len, slot[i]? = w.slotByte? src i) ∧
        out = dst.overwrite w.dest.offset slot := by
  obtain ⟨hfits, body, hbody, hout⟩ := copy_eq_ok_iff.1 h
  obtain ⟨body', hbody', hrows⟩ := packed_of_rows hfits.rows_in
  obtain rfl : body = body' := Except.ok.inj (hbody.symm.trans hbody')
  have hkept := hfits.kept_le
  have hsize : body.size = w.span * w.rows := by rw [hrows.size_eq, Nat.mul_comm]
  refine ⟨hfits.slot_le, _, ?_, ?_, hout⟩
  · rw [Array.size_append, hsize, Bytes.size_zeros]
    omega
  · intro i hi
    rw [Array.getElem?_append, hsize, slotByte?]
    split
    · next hlt => exact hrows.byte i (by rw [Nat.mul_comm]; exact hlt)
    · next hge =>
        rw [Bytes.zeros, Bytes.filled, Array.getElem?_replicate, if_pos (by omega)]

theorem size_copy {w : Window} {src dst out : Bytes} (h : w.copy src dst = .ok out) :
    out.size = dst.size := by
  obtain ⟨hslot, slot, hsize, -, rfl⟩ := exists_slot_of_copy h
  exact Bytes.size_overwrite (by omega)

theorem getElem?_copy {w : Window} {src dst out : Bytes} (h : w.copy src dst = .ok out)
    (i : Nat) :
    out[i]? =
      if w.dest.offset ≤ i ∧ i < w.dest.offset + w.dest.len then
        w.slotByte? src (i - w.dest.offset)
      else dst[i]? := by
  obtain ⟨hslot, slot, hsize, hbyte, rfl⟩ := exists_slot_of_copy h
  rw [Bytes.getElem?_overwrite (by omega), hsize]
  split
  · next hin => exact hbyte _ (by omega)
  · rfl

end Window

end PlanarCrop
