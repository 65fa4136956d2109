import PlanarCrop.Proofs.PictureShift

/-!
# Two resolutions are two streams

A stream with a high resolution is worked on as two streams that happen to arrive in one
capture. This file says so in full: the cropper of such a stream does to the normal
frame what the cropper of a stream without a high resolution does to it, whatever comes
with it, and to the high frame what that cropper would do to it as a normal frame.

What cropping does to one frame is written down once, as `Leaves`: a relation between a
frame and what is left of it, without a staging buffer, and blind to the resolution that
a plan is for. It is a function of the frame (`Leaves.unique`), so it is enough to find
it at both ends.

The two resolutions are not treated alike, though. The normal one comes first and is
left as `Leaves` says however the call goes on (`Started.leaves_normal`). The high one is
got to only if the normal one went through, which is why its half speaks of calls that
succeed.
-/

namespace PlanarCrop

/-! ## What is left of a frame -/

namespace Plan

/-- What is left of a frame when a plan is worked on it. -/
inductive Leaves (p : Plan) (frame : Frame) : Frame → Prop where
  | untouched (hid : p.margins = .zero) : Leaves p frame frame
  | refused (hid : p.margins ≠ .zero) (hrefused : ¬ p.Accepts frame) : Leaves p frame frame
  | cropped (hid : p.margins ≠ .zero) (haccepts : p.Accepts frame) {out : Frame}
      (hcrop : p.IsCrop frame.data out) : Leaves p frame out

theorem Leaves.unique {p : Plan} {frame a b : Frame} (ha : p.Leaves frame a)
    (hb : p.Leaves frame b) : a = b := by
  cases ha with
  | untouched hid =>
      cases hb with
      | untouched _ => rfl
      | refused hcut _ => exact absurd hid hcut
      | cropped hcut _ _ => exact absurd hid hcut
  | refused hcut hrefused =>
      cases hb with
      | untouched hid => exact absurd hid hcut
      | refused _ _ => rfl
      | cropped _ haccepts _ => exact absurd haccepts hrefused
  | cropped hcut haccepts hcrop =>
      cases hb with
      | untouched hid => exact absurd hid hcut
      | refused _ hrefused => exact absurd haccepts hrefused
      | cropped _ _ hcrop' => exact hcrop.unique hcrop'

/-- The resolution of a plan has no part in what it does to a frame. -/
theorem Leaves.relabel {p : Plan} {frame out : Frame} (h : p.Leaves frame out)
    (r : Resolution) : ({ p with resolution := r } : Plan).Leaves frame out := by
  cases h with
  | untouched hid => exact .untouched hid
  | refused hid hrefused =>
      exact .refused hid fun h => hrefused ⟨h.size_eq, h.countable, h.long_enough⟩
  | cropped hid haccepts hcrop =>
      exact .cropped (p := { p with resolution := r }) hid
        ⟨haccepts.size_eq, haccepts.countable, haccepts.long_enough⟩
        ⟨hcrop.width_eq, hcrop.height_eq, hcrop.size_eq, hcrop.luma, hcrop.chroma,
          hcrop.tail⟩

end Plan

namespace StreamSizes

variable {source : StreamSizes} {margins : Margins} {chroma : ChromaMode} {r : Resolution}

theorem leavingSize_of_has (hhas : source.has r = true) :
    source.leavingSize margins chroma r = (source.sizeOf r).crop margins := by
  by_cases hcut : margins = .zero
  · rw [hcut, leavingSize_of_none (planFor?_zero source chroma r)]
    exact (Plan.cropped_of_zero (p := ⟨r, source.sizeOf r, .zero, chroma⟩) rfl).symm
  · exact leavingSize_of_some (planFor?_of_has hcut hhas)

theorem conforms_normalOnly {size : Size} {frame : Frame} :
    (normalOnly size).Conforms (.normalOnly frame) ↔ frame.Fills size := by
  constructor
  · intro h
    exact h.fills .normal frame rfl
  · intro h
    refine ⟨fun r => by cases r <;> rfl, fun r captured hcaptured => ?_⟩
    cases r with
    | normal =>
        cases hcaptured
        exact h
    | high => cases hcaptured

theorem conforms_both {N H : Size} (hhigh : H.isEmpty = false) {normal high : Frame} :
    (⟨N, H⟩ : StreamSizes).Conforms ⟨normal, some high⟩ ↔ normal.Fills N ∧ high.Fills H := by
  constructor
  · intro h
    exact ⟨h.fills .normal normal rfl, h.fills .high high rfl⟩
  · rintro ⟨hnormal, hfills⟩
    refine ⟨fun r => ?_, fun r captured hcaptured => ?_⟩
    · cases r with
      | normal => rfl
      | high =>
          show true = !H.isEmpty
          rw [hhigh]
          rfl
    · cases r with
      | normal =>
          cases hcaptured
          exact hnormal
      | high =>
          cases hcaptured
          exact hfills

end StreamSizes

namespace Cropper

section
variable {source : StreamSizes} {request : MarginRequest} {chroma : ChromaMode}
  {c : Cropper}

/-! ## What a call leaves of each frame -/

theorem get?_cropEach_head {r : Resolution} {rest : List Resolution} {c : Cropper}
    {frames : Capture} (hr : r ∉ rest) :
    (cropEach (r :: rest) c frames).frames.get? r =
      (cropEach [r] c frames).frames.get? r := by
  cases hone : (cropEach [r] c frames).outcome with
  | error failure => rw [cropEach_cons_of_error rest hone]
  | ok _ =>
      rw [cropEach_cons_of_ok rest hone]
      exact get?_cropEach_of_notMem hr

theorem leaves_single (hc : c.blank = planned source request chroma)
    (hcut : Margins.ofRequest request ≠ .zero) {r : Resolution} {frames : Capture}
    {frame : Frame} (hhas : source.has r = true) (hframe : frames.get? r = some frame) :
    ∃ out, (cropEach [r] c frames).frames.get? r = some out ∧
      (⟨r, source.sizeOf r, .ofRequest request, chroma⟩ : Plan).Leaves frame out := by
  have hplan : source.planFor? (.ofRequest request) chroma r =
      some ⟨r, source.sizeOf r, .ofRequest request, chroma⟩ :=
    StreamSizes.planFor?_of_has hcut hhas
  have haccepts : source.Accepts (.ofRequest request) chroma r (some frame) ↔
      (⟨r, source.sizeOf r, .ofRequest request, chroma⟩ : Plan).Accepts frame :=
    StreamSizes.accepts_some_iff hplan
  cases hone : (cropEach [r] c frames).outcome with
  | ok _ =>
      obtain ⟨out, hout, hcrop⟩ := isCrop_cropEach_single hc hplan hframe hone
      have htaken := (cropEach_single_ok_iff hc r frames).1 hone
      rw [hframe] at htaken
      exact ⟨out, hout, .cropped hcut (haccepts.1 htaken) hcrop⟩
  | error failure =>
      have hrefused := not_accepts_of_single_error hc hone
      rw [hframe] at hrefused
      refine ⟨frame, ?_, .refused hcut fun h => hrefused (haccepts.2 h)⟩
      rw [cropEach_single_error_frames hone]
      exact hframe

theorem crop_of_zero (h : Started source request chroma c)
    (hzero : Margins.ofRequest request = .zero) (past : List Capture) (frames : Capture) :
    (c.run past).crop frames = ⟨.ok (), c.run past, frames, []⟩ :=
  if_neg fun henabled => (h.isEnabled_run past).1 henabled hzero

/-- However a call ends, the normal frame is left as its plan leaves it. -/
theorem Started.leaves_normal (h : Started source request chroma c) (past : List Capture)
    (frames : Capture) :
    (⟨.normal, source.normal, .ofRequest request, chroma⟩ : Plan).Leaves frames.normal
      ((c.run past).crop frames).frames.normal := by
  by_cases hcut : Margins.ofRequest request = .zero
  · rw [crop_of_zero h hcut]
    exact .untouched hcut
  · rw [crop_of_isEnabled ((h.isEnabled_run past).2 hcut)]
    have hframe : frames.get? .normal = some frames.normal := rfl
    obtain ⟨out, hout, hleaves⟩ := leaves_single (h.blank_run past) hcut rfl hframe
    have hhead : Resolution.normal ∉ [Resolution.high] := by decide
    rw [← get?_cropEach_head hhead] at hout
    obtain rfl := Option.some.inj hout
    exact hleaves

/-- A call that succeeds leaves the high frame as its plan leaves it. -/
theorem Started.leaves_high (h : Started source request chroma c) (past : List Capture)
    (hhigh : source.has .high = true) {frames : Capture} {frame : Frame}
    (hframe : frames.high = some frame) (hok : ((c.run past).crop frames).outcome = .ok ()) :
    ∃ out, ((c.run past).crop frames).frames.high = some out ∧
      (⟨.high, source.high, .ofRequest request, chroma⟩ : Plan).Leaves frame out := by
  by_cases hcut : Margins.ofRequest request = .zero
  · rw [crop_of_zero h hcut]
    exact ⟨frame, hframe, .untouched hcut⟩
  · rw [crop_of_isEnabled ((h.isEnabled_run past).2 hcut)] at hok ⊢
    have hdelivers := cropEach_delivers (h.blank_run past) Resolution.nodup_all hok .high
      (Resolution.mem_all .high)
    rw [Delivers, StreamSizes.planFor?_of_has hcut hhigh] at hdelivers
    obtain ⟨captured, out, hcaptured, hout, haccepts, hcrop⟩ := hdelivers
    obtain rfl := Option.some.inj (hframe.symm.trans hcaptured)
    exact ⟨out, hout, .cropped hcut haccepts hcrop⟩

theorem Started.crop_ok_iff_fills (h : Started source request chroma c)
    (past : List Capture) (frames : Capture) :
    ((c.run past).crop frames).outcome = .ok () ↔
      Margins.ofRequest request = .zero ∨ source.Conforms frames := by
  by_cases hcut : Margins.ofRequest request = .zero
  · rw [crop_of_zero h hcut]
    simp [hcut]
  · rw [h.crop_ok_iff hcut]
    simp [hcut]

/-! ## What is set up for each resolution -/

theorem Started.sizeOf_output (h : Started source request chroma c) {r : Resolution}
    (hhas : source.has r = true) :
    c.output.sizeOf r = (source.sizeOf r).crop (.ofRequest request) := by
  have houtput : c.output = _ := (h.frozen_planned []).output
  rw [houtput, sizeOf_output_planned]
  exact StreamSizes.leavingSize_of_has hhas

theorem Started.stagingBytes?_eq (h : Started source request chroma c) {r : Resolution}
    (hhas : source.has r = true) :
    c.stagingBytes? r =
      if Margins.ofRequest request = .zero then none
      else some (((source.sizeOf r).crop (.ofRequest request)).lumaBytes * 3 / 2) := by
  have hstaging : c.stagingBytes? r = _ := (h.frozen_planned []).stagingBytes? r
  rw [hstaging, stagingBytes?_planned]
  split
  · next hzero =>
      rw [hzero, StreamSizes.planFor?_zero]
      rfl
  · next hcut =>
      rw [StreamSizes.planFor?_of_has hcut hhas]
      rfl

end

/-- A stream with two resolutions is two streams with one. Its normal frames are left as
those of a stream without a high resolution, whatever high frame comes with them. A call
succeeds if it would have in both streams, and the high frame is then left as a normal
frame would be. The sizes announced and the buffers are those of the two streams. -/
theorem crop_is_product {request : MarginRequest} {chroma : ChromaMode} {N H : Size}
    (hhigh : H.isEmpty = false) {s a b : Cropper} (hs : Started ⟨N, H⟩ request chroma s)
    (ha : Started (.normalOnly N) request chroma a)
    (hb : Started (.normalOnly H) request chroma b)
    (pastS pastA pastB : List Capture) (normal high : Frame) :
    let both := (s.run pastS).crop ⟨normal, some high⟩
    let first := (a.run pastA).crop (.normalOnly normal)
    let second := (b.run pastB).crop (.normalOnly high)
    both.frames.normal = first.frames.normal ∧
      (both.outcome = .ok () ↔ first.outcome = .ok () ∧ second.outcome = .ok ()) ∧
      (both.outcome = .ok () → both.frames.high = some second.frames.normal) ∧
      (s.output.normal = a.output.normal ∧ s.output.high = b.output.normal) ∧
      s.stagingBytes? .normal = a.stagingBytes? .normal ∧
      s.stagingBytes? .high = b.stagingBytes? .normal := by
  intro both first second
  have hhas : (⟨N, H⟩ : StreamSizes).has .high = true := by
    show (!H.isEmpty) = true
    rw [hhigh]
    rfl
  refine ⟨?_, ?_, ?_, ⟨?_, ?_⟩, ?_, ?_⟩
  · exact (hs.leaves_normal pastS ⟨normal, some high⟩).unique
      (ha.leaves_normal pastA (.normalOnly normal))
  · rw [hs.crop_ok_iff_fills, ha.crop_ok_iff_fills, hb.crop_ok_iff_fills,
      StreamSizes.conforms_both hhigh, StreamSizes.conforms_normalOnly,
      StreamSizes.conforms_normalOnly]
    exact or_and_left
  · intro hok
    obtain ⟨out, hout, hleaves⟩ := hs.leaves_high pastS hhas rfl hok
    rw [show both.frames.high = some out from hout]
    exact congrArg some ((hleaves.relabel .normal).unique
      (hb.leaves_normal pastB (.normalOnly high)))
  · exact (hs.sizeOf_output (r := .normal) rfl).trans (ha.sizeOf_output (r := .normal) rfl).symm
  · exact (hs.sizeOf_output hhas).trans (hb.sizeOf_output (r := .normal) rfl).symm
  · rw [hs.stagingBytes?_eq rfl, ha.stagingBytes?_eq rfl]
    rfl
  · rw [hs.stagingBytes?_eq hhas, hb.stagingBytes?_eq rfl]
    rfl

/-- After a capture without its high frame, a high frame in a capture is cropped as the
normal frame of a stream of its own. -/
theorem high_frame_on_its_own :
    ∃ s b : Cropper,
      Started ⟨⟨4, 2⟩, ⟨3, 5⟩⟩ ⟨2, 0, 0, 1⟩ .subsampled s ∧
      Started (.normalOnly ⟨3, 5⟩) ⟨2, 0, 0, 1⟩ .subsampled b ∧
      s.stagingBytes? .high = b.stagingBytes? .normal ∧
      ((s.run [.normalOnly ⟨⟨4, 2⟩, .filled 12 7⟩]).crop
          ⟨⟨⟨4, 2⟩, .filled 12 1⟩, some ⟨⟨3, 5⟩, .filled 24 2⟩⟩).frames.high =
        some (b.crop (.normalOnly ⟨⟨3, 5⟩, .filled 24 2⟩)).frames.normal := by
  obtain ⟨s, hs⟩ : ∃ s : Cropper, (start .system ⟨⟨4, 2⟩, ⟨3, 5⟩⟩ ⟨2, 0, 0, 1⟩
      .subsampled).outcome = .ok s := ⟨_, by cbv⟩
  obtain ⟨a, ha, hfirst⟩ : ∃ a : Cropper,
      (start .system (.normalOnly ⟨4, 2⟩) ⟨2, 0, 0, 1⟩ .subsampled).outcome = .ok a ∧
        (a.crop (.normalOnly ⟨⟨4, 2⟩, .filled 12 1⟩)).outcome = .ok () :=
    ⟨_, by cbv, by cbv⟩
  obtain ⟨b, hb, hsecond⟩ : ∃ b : Cropper,
      (start .system (.normalOnly ⟨3, 5⟩) ⟨2, 0, 0, 1⟩ .subsampled).outcome = .ok b ∧
        (b.crop (.normalOnly ⟨⟨3, 5⟩, .filled 24 2⟩)).outcome = .ok () :=
    ⟨_, by cbv, by cbv⟩
  obtain ⟨-, hok, hhigh, -, -, hstaging⟩ := crop_is_product (by decide) (.upright hs)
    (.upright ha) (.upright hb) [.normalOnly ⟨⟨4, 2⟩, .filled 12 7⟩] [] []
    ⟨⟨4, 2⟩, .filled 12 1⟩ ⟨⟨3, 5⟩, .filled 24 2⟩
  exact ⟨s, b, .upright hs, .upright hb, hstaging, hhigh (hok.2 ⟨hfirst, hsecond⟩)⟩

end Cropper

end PlanarCrop
