import PlanarCrop.Cropper
import PlanarCrop.Proofs.FrameCrop

/-!
# What a cropper remembers

A cropper keeps its staging buffers from one call to the next and never clears
them, so in principle every frame could see what the frames before it left
there. This file shows that none does, by an erasure: `blank` forgets the bytes
of the staging buffers and keeps how many there are.

The argument has two halves, and both go through the resolutions one by one.
What a caller sees of a call is the same for croppers with the same `blank`
(`crop_agrees`), because the rules of a single crop ask a staging buffer for
its length and for nothing else. And a call does not change the `blank` of its
cropper (`blank_crop`), because a staging buffer is overwritten and never
resized. The induction over a run is then one line.
-/

namespace PlanarCrop

/-- The staging buffer with its bytes forgotten. -/
def Staging.blank (s : Staging) : Staging := { s with data := Bytes.zeros s.data.size }

theorem Staging.blank_congr {s t : Staging} (hresolution : s.resolution = t.resolution)
    (hsize : s.data.size = t.data.size) : s.blank = t.blank := by
  rw [Staging.blank, Staging.blank, hresolution, hsize]

theorem Staging.size_blank (s : Staging) : s.blank.data.size = s.data.size :=
  Bytes.size_zeros _

/-- The slot with the bytes of its staging buffer forgotten. -/
def Slot.blank (s : Slot) : Slot := { s with staging := s.staging.blank }

/-- Two attempts that a caller cannot tell apart. -/
structure CropStep.Agrees (a b : CropStep) : Prop where
  outcome : a.outcome = b.outcome
  frames : a.frames = b.frames
  events : a.events = b.events

/-! ## One frame -/

namespace Plan

theorem FrameEnd.blank_staging {p : Plan} {frame : Frame} {staging : Staging}
    {done : FrameCrop} (h : p.FrameEnd frame staging done) :
    done.staging.blank = staging.blank := by
  cases h with
  | identity _ => rfl
  | wrongSize _ _ => rfl
  | tooLarge _ _ _ => rfl
  | shortBuffer _ _ _ _ => rfl
  | wrongStaging _ _ _ _ _ => rfl
  | cropped _ _ _ _ _ _ hbytes => exact Staging.blank_congr rfl hbytes

/-- A frame and a staging buffer that pass every check leave no rule but the last. -/
theorem FrameEnd.eq_of_checked {p : Plan} {frame : Frame} {staging : Staging}
    {done : FrameCrop} (h : p.FrameEnd frame staging done) (hid : p.margins ≠ .zero)
    (hsize : frame.size = p.source) (hcount : p.source.lumaBytes * 3 < countLimit)
    (hlen : p.source.lumaBytes * 3 / 2 ≤ frame.data.size)
    (hstaging : staging.data.size = p.cropped.lumaBytes * 3 / 2) :
    ∃ bytes, p.IsCrop frame.data ⟨p.cropped, bytes⟩ ∧
      done = ⟨.ok (), ⟨p.cropped, bytes⟩, { staging with data := bytes },
        [.frameCropped p.resolution p.source p.cropped]⟩ := by
  cases h with
  | identity hzero => exact absurd hzero hid
  | wrongSize _ hother => exact absurd hsize hother
  | tooLarge _ _ hlarge => exact absurd hlarge (Nat.not_le.2 hcount)
  | shortBuffer _ _ _ hshort => exact absurd hlen (Nat.not_le.2 hshort)
  | wrongStaging _ _ _ _ hother => exact absurd hstaging hother
  | cropped _ _ _ _ _ hcrop _ => exact ⟨_, hcrop, rfl⟩

/-- A crop asks a staging buffer for its length and for nothing else. -/
theorem cropFrame_congr (p : Plan) (frame : Frame) {s t : Staging}
    (hsize : s.data.size = t.data.size) :
    (p.cropFrame frame s).outcome = (p.cropFrame frame t).outcome ∧
      (p.cropFrame frame s).frame = (p.cropFrame frame t).frame ∧
      (p.cropFrame frame s).events = (p.cropFrame frame t).events := by
  have hend := p.cropFrame_ends frame s
  generalize p.cropFrame frame s = done at hend ⊢
  -- The check by which the one call ended is made again in the other.
  cases hend with
  | identity hzero =>
      rw [cropFrame_of_zero hzero]
      exact ⟨rfl, rfl, rfl⟩
  | wrongSize hid hother =>
      rw [cropFrame_of_check hid (check_of_wrongSize hother)]
      exact ⟨rfl, rfl, rfl⟩
  | tooLarge hid hsource hcount =>
      rw [cropFrame_of_check hid (check_of_tooLarge hsource hcount)]
      exact ⟨rfl, rfl, rfl⟩
  | shortBuffer hid hsource hcount hlen =>
      rw [cropFrame_of_check hid (check_of_shortBuffer hsource hcount hlen)]
      exact ⟨rfl, rfl, rfl⟩
  | wrongStaging hid hsource hcount hlen hstaging =>
      rw [hsize] at hstaging ⊢
      rw [cropFrame_of_check hid ((check_of_long hsource hcount hlen).trans (if_pos hstaging))]
      exact ⟨rfl, rfl, rfl⟩
  | cropped hid hsource hcount hlen hstaging hcrop _ =>
      obtain ⟨bytes, hcrop', hdone⟩ := (p.cropFrame_ends frame t).eq_of_checked hid hsource
        hcount hlen (hsize.symm.trans hstaging)
      rw [hdone]
      exact ⟨rfl, hcrop.unique hcrop', rfl⟩

end Plan

namespace Cropper

/-- The cropper with the bytes of its staging buffers forgotten. -/
def blank (c : Cropper) : Cropper :=
  { c with normal := c.normal.map Slot.blank, high := c.high.map Slot.blank }

theorem slot?_blank (c : Cropper) (r : Resolution) :
    c.blank.slot? r = (c.slot? r).map Slot.blank := by
  cases r <;> rfl

theorem blank_setSlot (c : Cropper) (r : Resolution) (slot : Slot) :
    (c.setSlot r slot).blank = c.blank.setSlot r slot.blank := by
  cases r <;> rfl

theorem setSlot_of_slot? {c : Cropper} {r : Resolution} {slot : Slot}
    (h : c.slot? r = some slot) : c.setSlot r slot = c := by
  obtain ⟨margins, chroma, source, output, warnings, normal, high⟩ := c
  cases r with
  | normal =>
      obtain rfl : normal = some slot := h
      rfl
  | high =>
      obtain rfl : high = some slot := h
      rfl

/-- A slot that has worked on a frame is the same but for its bytes. -/
theorem blank_setSlot_cropFrame {c : Cropper} {r : Resolution} {slot : Slot}
    (frame : Frame) (h : c.slot? r = some slot) :
    (c.setSlot r { slot with
      staging := (slot.plan.cropFrame frame slot.staging).staging }).blank = c.blank := by
  have hslot : ({ slot with
      staging := (slot.plan.cropFrame frame slot.staging).staging } : Slot).blank =
      slot.blank := by
    rw [Slot.blank, Slot.blank, (slot.plan.cropFrame_ends frame slot.staging).blank_staging]
  rw [blank_setSlot, hslot]
  exact setSlot_of_slot? (by rw [slot?_blank, h]; rfl)

/-! ## One call -/

theorem blank_cropEach : ∀ {rs : List Resolution} {c : Cropper} {frames : Capture},
    (cropEach rs c frames).cropper.blank = c.blank := by
  intro rs
  induction rs with
  | nil => intro c frames; rfl
  | cons r rest ih =>
      intro c frames
      rw [cropEach]
      split
      · next slot frame hslot hframe =>
          have hset := blank_setSlot_cropFrame frame hslot
          simp only []
          split
          · exact hset
          · exact ih.trans hset
      · exact ih
      · rfl
      · rfl

theorem cropEach_agrees : ∀ {rs : List Resolution} {c d : Cropper} {frames : Capture},
    c.blank = d.blank → (cropEach rs c frames).Agrees (cropEach rs d frames) := by
  intro rs
  induction rs with
  | nil => intro c d frames _; exact ⟨rfl, rfl, rfl⟩
  | cons r rest ih =>
      intro c d frames hcd
      have hslots : (c.slot? r).map Slot.blank = (d.slot? r).map Slot.blank := by
        rw [← slot?_blank, hcd, slot?_blank]
      rw [cropEach, cropEach]
      cases hc : c.slot? r with
      | none =>
          rw [hc] at hslots
          have hd : d.slot? r = none := by simpa using hslots.symm
          rw [hd]
          cases frames.get? r with
          | none => exact ih hcd
          | some frame => exact ⟨rfl, rfl, rfl⟩
      | some s =>
          rw [hc] at hslots
          obtain ⟨⟨plan, staging⟩, hd, hblank⟩ := Option.map_eq_some_iff.1 hslots.symm
          obtain ⟨hplan, hstaging⟩ := Slot.mk.inj hblank
          obtain rfl : plan = s.plan := hplan
          rw [hd]
          cases frames.get? r with
          | none => exact ⟨rfl, rfl, rfl⟩
          | some frame =>
              have hsize : s.staging.data.size = staging.data.size := by
                rw [← Staging.size_blank s.staging, ← Staging.size_blank staging,
                  hstaging]
              obtain ⟨houtcome, hframe, hevents⟩ := s.plan.cropFrame_congr frame hsize
              simp only []
              rw [← houtcome, ← hframe, ← hevents]
              split
              · exact ⟨rfl, rfl, rfl⟩
              · have hleft := blank_setSlot_cropFrame frame hc
                have hright := blank_setSlot_cropFrame frame hd
                obtain ⟨hoc, hfr, hev⟩ :
                    (cropEach rest _ _).Agrees (cropEach rest _ _) :=
                  ih (hleft.trans (hcd.trans hright.symm))
                exact ⟨hoc, hfr,
                  congrArg ((s.plan.cropFrame frame s.staging).events ++ ·) hev⟩

theorem isEnabled_blank (c : Cropper) : c.blank.isEnabled = c.isEnabled := rfl

theorem blank_crop (c : Cropper) (frames : Capture) :
    (c.crop frames).cropper.blank = c.blank := by
  rw [crop]
  split
  · exact blank_cropEach
  · rfl

theorem crop_agrees {c d : Cropper} (h : c.blank = d.blank) (frames : Capture) :
    (c.crop frames).Agrees (d.crop frames) := by
  rw [crop, crop, ← isEnabled_blank c, h, isEnabled_blank d]
  split
  · exact cropEach_agrees h
  · exact ⟨rfl, rfl, rfl⟩

/-! ## A run of calls -/

/-- The cropper after a sequence of calls, whichever way each of them ended. -/
def run (c : Cropper) (past : List Capture) : Cropper :=
  past.foldl (fun c frames => (c.crop frames).cropper) c

theorem blank_run (c : Cropper) (past : List Capture) : (c.run past).blank = c.blank := by
  induction past generalizing c with
  | nil => rfl
  | cons frames rest ih => exact (ih _).trans (c.blank_crop frames)

end Cropper

end PlanarCrop
