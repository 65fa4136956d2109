import PlanarCrop.Proofs.WindowCopy

/-!
# Windows of any numbers

The windows of a plan fit their buffers, but a window is a record of plain numbers, and
anybody can fill one in. This file says for which numbers copying gets through and what
it leaves in the destination then.

`Fits` says the first of these row by row and keeps every position on the way below the
limit of a count. Most of that is idle. A later row starts no earlier than the one before
it, so the last row speaks for all of them (`RowIn.of_le`), and a position inside a buffer
is below the limit because the length of the buffer is. The number of the last line is
not idle: rows of the source that have no bytes all start at one place, and the line
number counts up all the same. On the other side a window that keeps nothing asks for its
slot only, however far its rows are away.

`Copied` describes the destination by the places of its bytes. Each position is in a row
that was kept, behind the rows in the slot, or outside the slot, so there is one such
buffer and no other, and copying a window that lies within its buffers is what makes it.
-/

namespace PlanarCrop

/-- Memory holds no buffer of this many bytes, which is `2 ^ 63`. -/
def Bytes.sizeLimit : Nat := 0x8000000000000000

namespace Window

/-! ## The last row -/

theorem RowIn.of_le {w : Window} {n r r' : Nat} (h : w.RowIn n r') (hle : r ≤ r') :
    w.RowIn n r := by
  obtain ⟨n, rfl⟩ := Nat.exists_eq_add_of_le hle
  have hstart := w.rowStart_add r n
  obtain ⟨hline, hlt, hin⟩ := h
  exact ⟨by omega, by omega, by omega⟩

/-- The slot lies in a destination of `dstSize` bytes and has room for what is kept, and
the last row, if anything of it is kept, ends inside a source of `srcSize` bytes. -/
structure Within (w : Window) (srcSize dstSize : Nat) : Prop where
  slot_le : w.dest.offset + w.dest.len ≤ dstSize
  kept_le : w.span * w.rows ≤ w.dest.len
  last_row : w.span = 0 ∨ w.rows = 0 ∨
    w.top + w.rows - 1 < countLimit ∧
      w.source.offset + (w.top + w.rows - 1) * w.source.rowWidth + w.left + w.span ≤ srcSize

instance (w : Window) (srcSize dstSize : Nat) : Decidable (w.Within srcSize dstSize) :=
  decidable_of_iff
    (w.dest.offset + w.dest.len ≤ dstSize ∧ w.span * w.rows ≤ w.dest.len ∧
      (w.span = 0 ∨ w.rows = 0 ∨
        w.top + w.rows - 1 < countLimit ∧
          w.source.offset + (w.top + w.rows - 1) * w.source.rowWidth + w.left + w.span
            ≤ srcSize))
    ⟨fun h => ⟨h.1, h.2.1, h.2.2⟩, fun h => ⟨h.slot_le, h.kept_le, h.last_row⟩⟩

/-- For buffers whose bytes can be counted, what copying checks comes down to the slot and
the last row. -/
theorem fits_iff_within {w : Window} {srcSize dstSize : Nat} (hsrc : srcSize < countLimit)
    (hdst : dstSize < countLimit) : w.Fits srcSize dstSize ↔ w.Within srcSize dstSize := by
  constructor
  · intro h
    refine ⟨h.slot_le, h.kept_le, ?_⟩
    rcases h.rows_in with hspan | hrows
    · exact .inl hspan
    rcases Nat.eq_zero_or_pos w.rows with hzero | hpos
    · exact .inr (.inl hzero)
    obtain ⟨hline, -, hstop⟩ := hrows (w.rows - 1) (by omega)
    rw [rowStart] at hstop
    rw [← Nat.add_sub_assoc hpos] at hline hstop
    exact .inr (.inr ⟨hline, hstop⟩)
  · intro ⟨hslot, hkept, hlast⟩
    refine ⟨by omega, hslot, by omega, hkept, ?_⟩
    rcases hlast with hspan | hzero | ⟨hline, hstop⟩
    · exact .inl hspan
    · refine .inr fun r hr => ?_
      rw [hzero] at hr
      exact absurd hr (Nat.not_lt_zero r)
    · refine .inr fun r hr => ?_
      have hpos : 1 ≤ w.rows := by omega
      rw [Nat.add_sub_assoc hpos] at hline hstop
      have hin : w.RowIn srcSize (w.rows - 1) := ⟨hline, Nat.lt_of_le_of_lt hstop hsrc, hstop⟩
      exact hin.of_le (by omega)

/-! ## What is left in the destination -/

/-- `out` is the destination `dst` after the window was copied into it from `src`. -/
structure Copied (w : Window) (src dst out : Bytes) : Prop where
  size_eq : out.size = dst.size
  /-- Byte `c` of row `r` is at its place in the packed rows. -/
  kept : ∀ r < w.rows, ∀ c < w.span,
    out[w.dest.offset + r * w.span + c]? =
      src[w.source.offset + (w.top + r) * w.source.rowWidth + w.left + c]?
  cleared : ∀ i, w.span * w.rows ≤ i → i < w.dest.len → out[w.dest.offset + i]? = some 0
  outside : ∀ i, i < w.dest.offset ∨ w.dest.offset + w.dest.len ≤ i → out[i]? = dst[i]?

theorem copied_of_copy {w : Window} {src dst out : Bytes} (h : w.copy src dst = .ok out) :
    w.Copied src dst out := by
  have hkept := (copy_eq_ok_iff.1 h).1.kept_le
  have hslot (i : Nat) (hi : i < w.dest.len) :
      out[w.dest.offset + i]? = w.slotByte? src i := by
    rw [getElem?_copy h, if_pos ⟨by omega, by omega⟩, Nat.add_sub_cancel_left]
  refine ⟨size_copy h, fun r hr c hc => ?_, fun i hge hi => ?_, fun i hi => ?_⟩
  · have hin : r * w.span + c < w.span * w.rows := row_lt hc hr
    rw [Nat.add_assoc, hslot _ (by omega), slotByte?, if_pos hin, keptByte?_row hc, rowStart]
  · rw [hslot i hi, slotByte?, if_neg (by omega)]
  · rw [getElem?_copy h, if_neg (by omega)]

theorem Copied.unique {w : Window} {src dst a b : Bytes} (ha : w.Copied src dst a)
    (hb : w.Copied src dst b) : a = b := by
  refine Array.ext_getElem? fun i => ?_
  by_cases hout : i < w.dest.offset ∨ w.dest.offset + w.dest.len ≤ i
  · rw [ha.outside i hout, hb.outside i hout]
  obtain ⟨j, rfl⟩ : ∃ j, i = w.dest.offset + j := ⟨i - w.dest.offset, by omega⟩
  rcases Nat.lt_or_ge j (w.span * w.rows) with hj | hj
  · -- A byte that was kept: its row and column are quotient and remainder.
    obtain ⟨hrow, hcol⟩ := row_of_lt hj
    rw [← Nat.div_add_mod' j w.span, ← Nat.add_assoc, ha.kept _ hrow _ hcol,
      hb.kept _ hrow _ hcol]
  · rw [ha.cleared j hj (by omega), hb.cleared j hj (by omega)]

/-- Copying a window of any numbers gets through exactly if the window lies within its
buffers, and then it leaves the one buffer that holds the kept bytes row by row at the
start of the slot, zeros in the rest of it, and the old bytes everywhere else. -/
theorem copy_finishes_iff {w : Window} {src dst : Bytes} (hsrc : src.size < Bytes.sizeLimit)
    (hdst : dst.size < Bytes.sizeLimit) :
    ((∃ out, w.copy src dst = .ok out) ↔ w.Within src.size dst.size) ∧
      ∀ out, w.copy src dst = .ok out ↔
        w.Within src.size dst.size ∧ w.Copied src dst out := by
  have hlimit : Bytes.sizeLimit < countLimit := by decide
  have hwithin : w.Fits src.size dst.size ↔ w.Within src.size dst.size :=
    fits_iff_within (Nat.lt_trans hsrc hlimit) (Nat.lt_trans hdst hlimit)
  have hfinish : (∃ out, w.copy src dst = .ok out) ↔ w.Within src.size dst.size :=
    exists_copy_iff.trans hwithin
  refine ⟨hfinish, fun out => ⟨fun h => ⟨hfinish.1 ⟨out, h⟩, copied_of_copy h⟩, ?_⟩⟩
  intro ⟨hin, hcopied⟩
  obtain ⟨out', h⟩ := hfinish.2 hin
  obtain rfl : out = out' := hcopied.unique (copied_of_copy h)
  exact h

/-- Two rows of a source whose lines have no bytes, the second of them in the last line that
can be counted: both are copied, from one and the same place. A third row is one line too
many, although its bytes would be there too. -/
theorem copy_of_rows_without_bytes :
    let w : Window := ⟨⟨2, 0, 0, 0⟩, ⟨1, 5, 2, 2⟩, 1, 0xFFFFFFFFFFFFFFFE, 2, 2⟩
    let src : Bytes := #[10, 11, 12, 13, 14]
    let dst : Bytes := .filled 7 0xEE
    src.size < Bytes.sizeLimit ∧ dst.size < Bytes.sizeLimit ∧
      w.Copied src dst #[0xEE, 13, 14, 13, 14, 0, 0xEE] ∧
      ¬ ∃ out, { w with rows := 3, dest := ⟨1, 6, 2, 3⟩ }.copy src dst = .ok out := by
  intro w src dst
  have hsrc : src.size < Bytes.sizeLimit := by decide
  have hdst : dst.size < Bytes.sizeLimit := by decide
  have hcopy : w.copy src dst = .ok #[0xEE, 13, 14, 13, 14, 0, 0xEE] := by cbv
  refine ⟨hsrc, hdst, (((copy_finishes_iff hsrc hdst).2 _).1 hcopy).2, ?_⟩
  rw [(copy_finishes_iff hsrc hdst).1]
  decide

end Window

end PlanarCrop
