import Mathlib.Data.Nat.Basic
import PlanarCrop.Proofs.CroppedBytes

/-!
# How cropping one frame ends

`cropFrame` looks at its input in a fixed order and then writes. `FrameEnd`
lists the ways it can end, one rule each, with everything the function has
found out by then and everything it leaves behind. `cropFrame_ends` says that
these are all, and it is the only place where the function is opened: a fact
about cropping a frame is a case analysis over six rules.

There is no rule for a frame that is refused half way. Once the checks are
through, staging cannot fail any more, which is what `stage_eq_ok` is for; so a
rule either leaves frame and staging buffer as they were or describes the crop.
-/

namespace PlanarCrop

theorem Frame.checkLength_of_lt {frame : Frame} {size : Size} (hsize : frame.size = size)
    (hcount : size.lumaBytes * 3 < countLimit) :
    frame.checkLength =
      if frame.data.size < size.lumaBytes * 3 / 2 then
        .error (.invalid (.shortBuffer frame.size (size.lumaBytes * 3 / 2) frame.data.size))
      else .ok () := by
  rw [checkLength, validBytes, hsize, Size.frameBytes_of_lt hcount]
  rfl

namespace Plan

/-- The ways in which cropping a frame ends. -/
inductive FrameEnd (p : Plan) (frame : Frame) (staging : Staging) : FrameCrop → Prop where
  | identity (hid : p.margins = .zero) :
      FrameEnd p frame staging ⟨.ok (), frame, staging, []⟩
  | wrongSize (hid : p.margins ≠ .zero) (hsize : frame.size ≠ p.source) :
      FrameEnd p frame staging
        ⟨.error (.invalid (.sizeMismatch p.resolution frame.size p.source)), frame,
          staging, []⟩
  | tooLarge (hid : p.margins ≠ .zero) (hsize : frame.size = p.source)
      (hcount : countLimit ≤ p.source.lumaBytes * 3) :
      FrameEnd p frame staging ⟨.error (.fault .overflow), frame, staging, []⟩
  | shortBuffer (hid : p.margins ≠ .zero) (hsize : frame.size = p.source)
      (hcount : p.source.lumaBytes * 3 < countLimit)
      (hlen : frame.data.size < p.source.lumaBytes * 3 / 2) :
      FrameEnd p frame staging
        ⟨.error (.invalid (.shortBuffer frame.size (p.source.lumaBytes * 3 / 2)
          frame.data.size)), frame, staging, []⟩
  | wrongStaging (hid : p.margins ≠ .zero) (hsize : frame.size = p.source)
      (hcount : p.source.lumaBytes * 3 < countLimit)
      (hlen : p.source.lumaBytes * 3 / 2 ≤ frame.data.size)
      (hstaging : staging.data.size ≠ p.cropped.lumaBytes * 3 / 2) :
      FrameEnd p frame staging
        ⟨.error (.invalid (.stagingMismatch p.resolution staging.data.size
          (p.cropped.lumaBytes * 3 / 2))), frame, staging, []⟩
  | cropped (hid : p.margins ≠ .zero) (hsize : frame.size = p.source)
      (hcount : p.source.lumaBytes * 3 < countLimit)
      (hlen : p.source.lumaBytes * 3 / 2 ≤ frame.data.size)
      (hstaging : staging.data.size = p.cropped.lumaBytes * 3 / 2)
      {bytes : Bytes} (hcrop : p.IsCrop frame.data ⟨p.cropped, bytes⟩)
      (hbytes : bytes.size = staging.data.size) :
      FrameEnd p frame staging
        ⟨.ok (), ⟨p.cropped, bytes⟩, { staging with data := bytes },
          [.frameCropped p.resolution p.source p.cropped]⟩

/-! ## The checks -/

section
variable {p : Plan} {frame : Frame} {staging : Staging}

theorem check_of_wrongSize (hsize : frame.size ≠ p.source) :
    p.check frame staging =
      .error (.invalid (.sizeMismatch p.resolution frame.size p.source)) := by
  unfold check
  rw [if_pos hsize]
  rfl

theorem check_of_tooLarge (hsize : frame.size = p.source)
    (hcount : countLimit ≤ p.source.lumaBytes * 3) :
    p.check frame staging = .error (.fault .overflow) := by
  have hlength : frame.checkLength = .error (.fault .overflow) := by
    rw [Frame.checkLength, Frame.validBytes, hsize, Size.frameBytes_of_le hcount]
    rfl
  unfold check
  rw [if_neg (not_not_intro hsize), hlength]
  rfl

theorem check_of_shortBuffer (hsize : frame.size = p.source)
    (hcount : p.source.lumaBytes * 3 < countLimit)
    (hlen : frame.data.size < p.source.lumaBytes * 3 / 2) :
    p.check frame staging =
      .error (.invalid (.shortBuffer frame.size (p.source.lumaBytes * 3 / 2)
        frame.data.size)) := by
  unfold check
  rw [if_neg (not_not_intro hsize), Frame.checkLength_of_lt hsize hcount, if_pos hlen]
  rfl

theorem check_of_long (hsize : frame.size = p.source)
    (hcount : p.source.lumaBytes * 3 < countLimit)
    (hlen : p.source.lumaBytes * 3 / 2 ≤ frame.data.size) :
    p.check frame staging =
      if staging.data.size ≠ p.cropped.lumaBytes * 3 / 2 then
        .error (.invalid (.stagingMismatch p.resolution staging.data.size
          (p.cropped.lumaBytes * 3 / 2)))
      else .ok (p.cropped.lumaBytes * 3 / 2) := by
  have hcropped := p.lumaBytes_cropped_le
  unfold check
  rw [if_neg (not_not_intro hsize), Frame.checkLength_of_lt hsize hcount,
    if_neg (Nat.not_lt.2 hlen), croppedBytes, Size.frameBytes_of_lt (by omega)]
  show (if staging.data.size ≠ p.cropped.lumaBytes * 3 / 2 then _ else _ : Except Failure Nat) =
    if staging.data.size ≠ p.cropped.lumaBytes * 3 / 2 then _ else _
  split
  · rfl
  · rfl

end

theorem cropFrame_of_zero {p : Plan} {frame : Frame} {staging : Staging}
    (hzero : p.margins = .zero) :
    p.cropFrame frame staging = ⟨.ok (), frame, staging, []⟩ :=
  if_pos (show p.isIdentity = true from Margins.isZero_iff.2 hzero)

theorem cropFrame_of_check {p : Plan} {frame : Frame} {staging : Staging}
    {failure : Failure} (hid : p.margins ≠ .zero)
    (hcheck : p.check frame staging = .error failure) :
    p.cropFrame frame staging = ⟨.error failure, frame, staging, []⟩ := by
  have hmargins : ¬ p.isIdentity = true := fun h => hid (Margins.isZero_iff.1 h)
  rw [cropFrame, if_neg hmargins, hcheck]

/-- Every call ends by one of the rules. -/
theorem cropFrame_ends (p : Plan) (frame : Frame) (staging : Staging) :
    p.FrameEnd frame staging (p.cropFrame frame staging) := by
  by_cases hid : p.margins = .zero
  · rw [cropFrame_of_zero hid]
    exact .identity hid
  by_cases hsize : frame.size = p.source
  case neg =>
    rw [cropFrame_of_check hid (check_of_wrongSize hsize)]
    exact .wrongSize hid hsize
  rcases Nat.lt_or_ge (p.source.lumaBytes * 3) countLimit with hcount | hcount
  case inr =>
    rw [cropFrame_of_check hid (check_of_tooLarge hsize hcount)]
    exact .tooLarge hid hsize hcount
  rcases Nat.lt_or_ge frame.data.size (p.source.lumaBytes * 3 / 2) with hlen | hlen
  · rw [cropFrame_of_check hid (check_of_shortBuffer hsize hcount hlen)]
    exact .shortBuffer hid hsize hcount hlen
  have hcheck : p.check frame staging = _ := check_of_long hsize hcount hlen
  by_cases hstaging : staging.data.size = p.cropped.lumaBytes * 3 / 2
  case neg =>
    rw [if_pos hstaging] at hcheck
    rw [cropFrame_of_check hid hcheck]
    exact .wrongStaging hid hsize hcount hlen hstaging
  rw [if_neg (not_not_intro hstaging)] at hcheck
  obtain ⟨bytes, hstage, hstaged⟩ := stage_eq_ok hcount hlen hstaging
  have hmargins : ¬ p.isIdentity = true := fun h => hid (Margins.isZero_iff.1 h)
  have hcropped := p.lumaBytes_cropped_le
  have hroom : p.cropped.lumaBytes * 3 / 2 ≤ frame.data.size := by omega
  rw [cropFrame, if_neg hmargins, hcheck]
  simp only [hstage]
  rw [if_pos hroom]
  exact .cropped hid hsize hcount hlen hstaging hstaged.isCrop
    (hstaged.size_eq.trans hstaging.symm)

/-! ## What follows at once -/

namespace FrameEnd

variable {p : Plan} {frame : Frame} {staging : Staging} {done : FrameCrop}

/-- Where something is cut, success is the crop of a frame that got through the checks. -/
theorem eq_of_ok (h : p.FrameEnd frame staging done) (hid : p.margins ≠ .zero)
    (hok : done.outcome = .ok ()) :
    frame.size = p.source ∧ p.source.lumaBytes * 3 < countLimit ∧
      p.source.lumaBytes * 3 / 2 ≤ frame.data.size ∧
      ∃ bytes, p.IsCrop frame.data ⟨p.cropped, bytes⟩ ∧
        done = ⟨.ok (), ⟨p.cropped, bytes⟩, { staging with data := bytes },
          [.frameCropped p.resolution p.source p.cropped]⟩ := by
  cases h with
  | identity hzero => exact absurd hzero hid
  | wrongSize _ _ => cases hok
  | tooLarge _ _ _ => cases hok
  | shortBuffer _ _ _ _ => cases hok
  | wrongStaging _ _ _ _ _ => cases hok
  | cropped _ hsize hcount hlen _ hcrop _ => exact ⟨hsize, hcount, hlen, _, hcrop, rfl⟩

/-- Failure leaves everything as it was, and the log without an entry. -/
theorem eq_of_error {failure : Failure} (h : p.FrameEnd frame staging done)
    (herror : done.outcome = .error failure) : done = ⟨.error failure, frame, staging, []⟩ := by
  cases h with
  | identity _ => cases herror
  | wrongSize _ _ => rw [← herror]
  | tooLarge _ _ _ => rw [← herror]
  | shortBuffer _ _ _ _ => rw [← herror]
  | wrongStaging _ _ _ _ _ => rw [← herror]
  | cropped _ _ _ _ _ _ _ => cases herror

theorem isCrop (h : p.FrameEnd frame staging done) (hid : p.margins ≠ .zero)
    (hok : done.outcome = .ok ()) : p.IsCrop frame.data done.frame := by
  obtain ⟨-, -, -, bytes, hcrop, rfl⟩ := h.eq_of_ok hid hok
  exact hcrop

end FrameEnd

/-- Cropping a frame by margins that are not all zero leaves, if it succeeds, the
crop of the frame: every byte of it is given by the source, whatever the staging
buffer held. -/
theorem cropFrame_isCrop {p : Plan} {frame : Frame} {staging : Staging}
    (hid : p.margins ≠ .zero) (hok : (p.cropFrame frame staging).outcome = .ok ()) :
    p.IsCrop frame.data (p.cropFrame frame staging).frame :=
  (p.cropFrame_ends frame staging).isCrop hid hok

/-- A row and a column cut off six columns and four rows, over a staging buffer that
is full of other bytes. -/
theorem isCrop_six_by_four :
    (⟨.normal, ⟨6, 4⟩, ⟨1, 0, 1, 0⟩, .fullResolution⟩ : Plan).IsCrop
      (Array.ofFn fun i : Fin 36 => UInt8.ofNat i)
      ⟨⟨5, 3⟩, #[7, 8, 9, 10, 11, 13, 14, 15, 16, 17, 19, 20, 21, 22, 23,
        28, 29, 0, 34, 35, 0, 0]⟩ := by
  let p : Plan := ⟨.normal, ⟨6, 4⟩, ⟨1, 0, 1, 0⟩, .fullResolution⟩
  let frame : Frame := ⟨⟨6, 4⟩, Array.ofFn fun i : Fin 36 => UInt8.ofNat i⟩
  let staging : Staging := ⟨.normal, .filled 22 0xEE⟩
  have hok : (p.cropFrame frame staging).outcome = .ok () := by cbv
  have hframe : (p.cropFrame frame staging).frame = ⟨⟨5, 3⟩, #[7, 8, 9, 10, 11, 13, 14,
      15, 16, 17, 19, 20, 21, 22, 23, 28, 29, 0, 34, 35, 0, 0]⟩ := by cbv
  rw [← hframe]
  exact cropFrame_isCrop (by decide) hok

/-- Cropping a frame stops without an answer exactly when it gets as far as
counting the bytes of a source that is too large for the count. In every other
case the frame is cropped or refused. -/
theorem cropFrame_fault_iff (p : Plan) (frame : Frame) (staging : Staging) :
    ((∃ fault, (p.cropFrame frame staging).outcome = .error (.fault fault)) ↔
      p.margins ≠ .zero ∧ frame.size = p.source ∧
        countLimit ≤ 3 * (p.source.width.toNat * p.source.height.toNat)) ∧
    (((p.cropFrame frame staging).outcome = .ok () ∨
        ∃ cause, (p.cropFrame frame staging).outcome = .error (.invalid cause)) ↔
      ¬ (p.margins ≠ .zero ∧ frame.size = p.source ∧
        countLimit ≤ 3 * (p.source.width.toNat * p.source.height.toNat))) := by
  have hcomm : 3 * (p.source.width.toNat * p.source.height.toNat) =
      p.source.lumaBytes * 3 := Nat.mul_comm _ _
  rw [hcomm]
  have hend := p.cropFrame_ends frame staging
  generalize p.cropFrame frame staging = done at hend ⊢
  cases hend with
  | identity hid => simp [hid]
  | wrongSize hid hsize => simp [hsize, Failure.invalid]
  | tooLarge hid hsize hcount => simp [hid, hsize, hcount, Failure.invalid]
  | shortBuffer hid hsize hcount hlen => simp [hcount, Failure.invalid]
  | wrongStaging hid hsize hcount hlen hstaging => simp [hcount, Failure.invalid]
  | cropped hid hsize hcount hlen hstaging hcrop hbytes => simp [hcount]

end Plan

end PlanarCrop
