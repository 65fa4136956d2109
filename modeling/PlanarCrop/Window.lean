import PlanarCrop.Bytes
import PlanarCrop.Plane

/-!
# Windows

A window says which part of a plane is kept and which bytes of another buffer it
goes to: a rectangle of `span` bytes by `rows` rows, `left` bytes and `top` rows
into the source plane. Copying a window packs the retained rows one after the
other at the start of the slot and fills the rest of the slot with zeros, so no
byte that was in the slot before is left there.

A window can be made up of any numbers. Each position that is computed on the
way has to fit 64 bits and each range has to lie inside its buffer.
-/

namespace PlanarCrop

/-- The part of a source plane that is kept, and the slot it goes to. -/
structure Window where
  /-- The plane in the source buffer. -/
  source : Layout
  /-- The slot in the destination buffer. -/
  dest : Layout
  /-- Bytes skipped at the start of a retained row. -/
  left : Nat
  /-- Rows skipped at the start of the plane. -/
  top : Nat
  /-- Bytes kept of a retained row. -/
  span : Nat
  /-- Number of retained rows. -/
  rows : Nat
deriving DecidableEq

namespace Window

/-- Number of bytes that are kept. -/
def keptBytes (w : Window) : Except Fault Nat := checkedCount (w.span * w.rows)

/-- Where retained row `r` starts in the source buffer, and the first byte after
it. The line number is a count of its own: it has to fit even if the rows of the
source have no bytes. -/
def sourceRow (w : Window) (r : Nat) : Except Fault (Nat × Nat) := do
  let line ← checkedCount (w.top + r)
  let start ← checkedCount (w.source.offset + line * w.source.rowWidth + w.left)
  let stop ← checkedCount (start + w.span)
  return (start, stop)

/-- The packed rows so far, followed by retained row `r`. -/
def appendRow (w : Window) (src packed : Bytes) (r : Nat) : Except Fault Bytes := do
  let (start, stop) ← w.sourceRow r
  let row ← src.slice start stop
  return packed ++ row

/-- The first `n` retained rows, one after the other. -/
def packRows (w : Window) (src : Bytes) (n : Nat) : Except Fault Bytes :=
  (List.range n).foldlM (w.appendRow src) #[]

/-- The retained part of the plane. Rows of no bytes are not looked up. -/
def packed (w : Window) (src : Bytes) : Except Fault Bytes :=
  if w.span = 0 then .ok #[] else w.packRows src w.rows

/-- The destination with the slot of the window filled from `src`. -/
def copy (w : Window) (src dst : Bytes) : Except Fault Bytes := do
  let (start, stop) ← w.dest.range
  let kept ← w.keptBytes
  if stop ≤ dst.size ∧ kept ≤ w.dest.len then
    let body ← w.packed src
    return dst.overwrite start (body ++ Bytes.zeros (w.dest.len - kept))
  else
    throw .outOfBounds

theorem packRows_zero (w : Window) (src : Bytes) : w.packRows src 0 = .ok #[] := rfl

theorem packRows_succ (w : Window) (src : Bytes) (n : Nat) :
    w.packRows src (n + 1) = w.packRows src n >>= fun packed => w.appendRow src packed n := by
  simp [packRows, List.range_succ, List.foldlM_append]

theorem sourceRow_eq_ok_iff {w : Window} {r : Nat} {p : Nat × Nat} :
    w.sourceRow r = .ok p ↔
      w.top + r < countLimit ∧
      w.source.offset + (w.top + r) * w.source.rowWidth + w.left + w.span < countLimit ∧
      p = (w.source.offset + (w.top + r) * w.source.rowWidth + w.left,
        w.source.offset + (w.top + r) * w.source.rowWidth + w.left + w.span) := by
  unfold sourceRow
  by_cases hline : w.top + r < countLimit
  · rw [checkedCount_of_lt hline]
    by_cases hstop : w.source.offset + (w.top + r) * w.source.rowWidth + w.left + w.span
        < countLimit
    · have hstart : w.source.offset + (w.top + r) * w.source.rowWidth + w.left
          < countLimit := by omega
      simp [bind, Except.bind, checkedCount_of_lt hstart, checkedCount_of_lt hstop, hline,
        hstop, pure, Except.pure, eq_comm]
    · simp only [hstop, false_and, and_false, iff_false, bind, Except.bind]
      by_cases hstart : w.source.offset + (w.top + r) * w.source.rowWidth + w.left
          < countLimit
      · simp [checkedCount_of_lt hstart, checkedCount_of_le (Nat.not_lt.1 hstop)]
      · simp [checkedCount_of_le (Nat.not_lt.1 hstart)]
  · rw [checkedCount_of_le (Nat.not_lt.1 hline)]
    simp [hline, bind, Except.bind]

end Window

end PlanarCrop
