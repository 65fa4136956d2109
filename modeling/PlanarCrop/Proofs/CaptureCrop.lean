import PlanarCrop.Proofs.PlannedCropper

/-!
# Cropping a capture

A call goes through the resolutions and crops each frame in place, so when it
fails it may have done some of its work already. What it leaves is settled here
by cutting the pass over the resolutions into steps: a step is the pass over a
single resolution, a pass is its steps one after the other, and a pass that
fails has completed the steps before some resolution and done nothing from there
on (`cropEach_stops`). A step touches no frame but its own.

Whether a step succeeds can be read off the capture. `Accepts` says what a frame
has to be like for its plan, and, for a stream, which resolutions have to be
there at all; the staging buffer has no say in it, because it always has the
length that its plan needs.
-/

namespace PlanarCrop

/-! ## The frames that a plan takes -/

namespace Plan

/-- What a frame has to be like for its plan. -/
structure Accepts (p : Plan) (frame : Frame) : Prop where
  size_eq : frame.size = p.source
  countable : p.source.lumaBytes * 3 < countLimit
  long_enough : p.source.lumaBytes * 3 / 2 ≤ frame.data.size

theorem FrameEnd.accepts_of_ok {p : Plan} {frame : Frame} {staging : Staging}
    {done : FrameCrop} (h : p.FrameEnd frame staging done) (hid : p.margins ≠ .zero)
    (hok : done.outcome = .ok ()) : p.Accepts frame := by
  obtain ⟨hsize, hcount, hlen, -⟩ := h.eq_of_ok hid hok
  exact ⟨hsize, hcount, hlen⟩

theorem FrameEnd.ok_iff {p : Plan} {frame : Frame} {staging : Staging} {done : FrameCrop}
    (h : p.FrameEnd frame staging done) (hid : p.margins ≠ .zero)
    (hstaging : staging.data.size = p.cropped.lumaBytes * 3 / 2) :
    done.outcome = .ok () ↔ p.Accepts frame := by
  refine ⟨h.accepts_of_ok hid, fun haccepts => ?_⟩
  cases h with
  | identity _ => rfl
  | wrongSize _ hsize => exact absurd haccepts.size_eq hsize
  | tooLarge _ _ hcount => exact absurd haccepts.countable (Nat.not_lt.2 hcount)
  | shortBuffer _ _ _ hlen => exact absurd haccepts.long_enough (Nat.not_le.2 hlen)
  | wrongStaging _ _ _ _ hwrong => exact absurd hstaging hwrong
  | cropped _ _ _ _ _ _ _ => rfl

end Plan

/-- What a capture has to hold in one resolution: an acceptable frame if the stream
has a plan for it, and no frame otherwise. -/
def StreamSizes.Accepts (source : StreamSizes) (margins : Margins) (chroma : ChromaMode)
    (r : Resolution) (captured : Option Frame) : Prop :=
  match source.planFor? margins chroma r, captured with
  | some plan, some frame => plan.Accepts frame
  | none, none => True
  | _, _ => False

theorem StreamSizes.margins_of_planFor? {source : StreamSizes} {margins : Margins}
    {chroma : ChromaMode} {r : Resolution} {plan : Plan}
    (h : source.planFor? margins chroma r = some plan) :
    plan.margins = margins ∧ margins ≠ .zero := by
  constructor
  · rw [eq_of_planFor? h]
  · rintro rfl
    rw [planFor?_zero] at h
    cases h

theorem StreamSizes.accepts_some_iff {source : StreamSizes} {margins : Margins}
    {chroma : ChromaMode} {r : Resolution} {plan : Plan} {frame : Frame}
    (h : source.planFor? margins chroma r = some plan) :
    source.Accepts margins chroma r (some frame) ↔ plan.Accepts frame := by
  unfold Accepts
  rw [h]

theorem Capture.set_of_get? {s : Capture} {r : Resolution} {frame : Frame}
    (h : s.get? r = some frame) : s.set r frame = s := by
  obtain ⟨normal, high⟩ := s
  cases r with
  | normal =>
      obtain rfl : normal = frame := Option.some.inj h
      rfl
  | high =>
      obtain rfl : high = some frame := h
      rfl

namespace Cropper

/-! ## A pass is its steps -/

section
variable {r : Resolution} {c : Cropper} {frames : Capture}

theorem cropEach_single {slot : Slot} {frame : Frame} (hslot : c.slot? r = some slot)
    (hframe : frames.get? r = some frame) :
    let done := slot.plan.cropFrame frame slot.staging
    cropEach [r] c frames =
      ⟨done.outcome, c.setSlot r { slot with staging := done.staging },
        frames.set r done.frame, done.events⟩ := by
  rw [cropEach, hslot, hframe]
  simp only []
  split
  · next herror => rw [herror]
  · next hok => rw [hok, cropEach, List.append_nil]

theorem cropEach_cons_of_error (rest : List Resolution) {failure : Failure}
    (h : (cropEach [r] c frames).outcome = .error failure) :
    cropEach (r :: rest) c frames = cropEach [r] c frames := by
  rw [cropEach] at h ⊢
  rw [cropEach]
  split
  · next slot frame hslot hframe =>
      rw [hslot, hframe] at h
      simp only [] at h ⊢
      split
      · rfl
      · next hok =>
          rw [hok] at h
          cases h
  · next hslot hframe =>
      rw [hslot, hframe] at h
      cases h
  · rfl
  · rfl

theorem cropEach_cons_of_ok (rest : List Resolution)
    (h : (cropEach [r] c frames).outcome = .ok ()) :
    let one := cropEach [r] c frames
    let after := cropEach rest one.cropper one.frames
    cropEach (r :: rest) c frames = { after with events := one.events ++ after.events } := by
  rw [cropEach] at h
  simp only []
  rw [cropEach, cropEach]
  split
  · next slot frame hslot hframe =>
      rw [hslot, hframe] at h
      simp only [] at h ⊢
      split
      · next herror =>
          rw [herror] at h
          cases h
      · rw [cropEach, List.append_nil]
  · rw [cropEach, List.nil_append]
  · next hslot hframe =>
      rw [hslot, hframe] at h
      cases h
  · next hslot hframe =>
      rw [hslot, hframe] at h
      cases h

/-- A step that fails leaves the capture as it was. -/
theorem cropEach_single_error_frames {failure : Failure}
    (h : (cropEach [r] c frames).outcome = .error failure) :
    (cropEach [r] c frames).frames = frames := by
  cases hslot : c.slot? r with
  | none =>
      cases hframe : frames.get? r with
      | none => simp only [cropEach, hslot, hframe]
      | some frame => simp only [cropEach, hslot, hframe]
  | some slot =>
      cases hframe : frames.get? r with
      | none => simp only [cropEach, hslot, hframe]
      | some frame =>
          rw [cropEach_single hslot hframe] at h ⊢
          simp only [] at h ⊢
          rw [(slot.plan.cropFrame_ends frame slot.staging).eq_of_error h]
          exact Capture.set_of_get? hframe

end

/-- A pass touches no frame but those of its resolutions. -/
theorem get?_cropEach_of_notMem {q : Resolution} : ∀ {rs : List Resolution} {c : Cropper}
    {frames : Capture}, q ∉ rs → (cropEach rs c frames).frames.get? q = frames.get? q := by
  intro rs
  induction rs with
  | nil => intro c frames _; rfl
  | cons r rest ih =>
      intro c frames hq
      have hne : q ≠ r := fun h => hq (h ▸ List.mem_cons_self)
      have hrest : q ∉ rest := fun h => hq (List.mem_cons_of_mem r h)
      have hset (frame : Frame) : (frames.set r frame).get? q = frames.get? q := by
        rw [Capture.get?_set, if_neg hne]
      rw [cropEach]
      split
      · simp only []
        split
        · exact hset _
        · exact (ih hrest).trans (hset _)
      · exact ih hrest
      · rfl
      · rfl

/-- A pass that fails has completed the steps before some resolution, failed on that
one, and left the frames as those steps have left them. -/
theorem cropEach_stops {failure : Failure} : ∀ {rs : List Resolution} {c : Cropper}
    {frames : Capture}, (cropEach rs c frames).outcome = .error failure →
      ∃ done r rest, rs = done ++ r :: rest ∧
        (cropEach done c frames).outcome = .ok () ∧
        (cropEach [r] (cropEach done c frames).cropper
          (cropEach done c frames).frames).outcome = .error failure ∧
        (cropEach rs c frames).frames = (cropEach done c frames).frames := by
  intro rs
  induction rs with
  | nil => intro c frames h; cases h
  | cons r rest ih =>
      intro c frames h
      cases hone : (cropEach [r] c frames).outcome with
      | error other =>
          rw [cropEach_cons_of_error rest hone] at h ⊢
          exact ⟨[], r, rest, rfl, rfl, h, cropEach_single_error_frames h⟩
      | ok _ =>
          rw [cropEach_cons_of_ok rest hone] at h ⊢
          obtain ⟨done, q, later, rfl, hdone, hq, hframes⟩ := ih h
          refine ⟨r :: done, q, later, rfl, ?_⟩
          rw [cropEach_cons_of_ok done hone]
          exact ⟨hdone, hq, hframes⟩

/-! ## The steps of a planned cropper -/

section
variable {source : StreamSizes} {request : MarginRequest} {chroma : ChromaMode}
  {c : Cropper}

/-- The slots of a cropper that is the planned one, up to the bytes in its staging
buffers: as many as there are plans, each with a buffer that fits. -/
theorem slot?_of_planned (hc : c.blank = planned source request chroma) (r : Resolution) :
    (source.planFor? (.ofRequest request) chroma r = none ∧ c.slot? r = none) ∨
      ∃ plan staging, source.planFor? (.ofRequest request) chroma r = some plan ∧
        c.slot? r = some ⟨plan, staging⟩ ∧
        staging.data.size = plan.cropped.lumaBytes * 3 / 2 := by
  have hslots : (c.slot? r).map Slot.blank =
      (source.planFor? (.ofRequest request) chroma r).map Plan.freshSlot := by
    rw [← slot?_blank, hc, slot?_planned]
  cases hplan : source.planFor? (.ofRequest request) chroma r with
  | none =>
      rw [hplan] at hslots
      exact .inl ⟨rfl, by simpa using hslots⟩
  | some plan =>
      rw [hplan] at hslots
      obtain ⟨⟨held, staging⟩, hslot, hblank⟩ := Option.map_eq_some_iff.1 hslots
      obtain ⟨hheld, hstaging⟩ := Slot.mk.inj hblank
      obtain rfl : held = plan := hheld
      refine .inr ⟨held, staging, rfl, hslot, ?_⟩
      have hsize := congrArg (fun s => s.data.size) hstaging
      simpa [Staging.size_blank] using hsize

/-- A step succeeds exactly if the capture holds what it has to hold there. -/
theorem cropEach_single_ok_iff (hc : c.blank = planned source request chroma)
    (r : Resolution) (frames : Capture) :
    (cropEach [r] c frames).outcome = .ok () ↔
      source.Accepts (.ofRequest request) chroma r (frames.get? r) := by
  unfold StreamSizes.Accepts
  obtain ⟨hplan, hslot⟩ | ⟨plan, staging, hplan, hslot, hsize⟩ := slot?_of_planned hc r
  · cases hframe : frames.get? r with
    | none => simp [cropEach, hslot, hframe, hplan]
    | some frame => simp [cropEach, hslot, hframe, hplan]
  · cases hframe : frames.get? r with
    | none => simp [cropEach, hslot, hframe, hplan]
    | some frame =>
        obtain ⟨hmargins, hid⟩ := StreamSizes.margins_of_planFor? hplan
        rw [cropEach_single hslot hframe, hplan]
        exact (plan.cropFrame_ends frame staging).ok_iff (hmargins ▸ hid) hsize

theorem not_accepts_of_single_error (hc : c.blank = planned source request chroma)
    {r : Resolution} {frames : Capture} {failure : Failure}
    (h : (cropEach [r] c frames).outcome = .error failure) :
    ¬ source.Accepts (.ofRequest request) chroma r (frames.get? r) := by
  intro haccepts
  rw [(cropEach_single_ok_iff hc r frames).2 haccepts] at h
  cases h

/-- A step that succeeds leaves the crop of its frame. -/
theorem isCrop_cropEach_single (hc : c.blank = planned source request chroma)
    {r : Resolution} {frames : Capture} {plan : Plan} {frame : Frame}
    (hplan : source.planFor? (.ofRequest request) chroma r = some plan)
    (hframe : frames.get? r = some frame)
    (hok : (cropEach [r] c frames).outcome = .ok ()) :
    ∃ cropped, (cropEach [r] c frames).frames.get? r = some cropped ∧
      plan.IsCrop frame.data cropped := by
  obtain ⟨hnone, -⟩ | ⟨held, staging, hheld, hslot, -⟩ := slot?_of_planned hc r
  · rw [hplan] at hnone
    cases hnone
  · obtain rfl : held = plan := Option.some.inj (hheld.symm.trans hplan)
    obtain ⟨hmargins, hid⟩ := StreamSizes.margins_of_planFor? hplan
    rw [cropEach_single hslot hframe] at hok ⊢
    refine ⟨_, ?_, (held.cropFrame_ends frame staging).isCrop (hmargins ▸ hid) hok⟩
    rw [Capture.get?_set, if_pos rfl]

end

/-! ## A call that fails -/

theorem cropEach_of_crop_error {c : Cropper} {frames : Capture} {failure : Failure}
    (h : (c.crop frames).outcome = .error failure) :
    c.margins ≠ .zero ∧ c.crop frames = cropEach Resolution.all c frames := by
  rw [crop] at h ⊢
  split
  · next henabled =>
      refine ⟨fun hzero => ?_, rfl⟩
      rw [isEnabled, Margins.isZero_iff.2 hzero] at henabled
      cases henabled
  · next hdisabled =>
      rw [if_neg hdisabled] at h
      cases h

/-- The normal resolution comes first and the high one last, so a pass over both
that stops at one of them has done nothing or just the normal one. -/
theorem stops_of_all {done rest : List Resolution} {r : Resolution}
    (h : Resolution.all = done ++ r :: rest) :
    (done = [] ∧ r = .normal) ∨ (done = [.normal] ∧ r = .high) := by
  rcases done with _ | ⟨q, _ | ⟨q', later⟩⟩
  · cases h
    exact .inl ⟨rfl, rfl⟩
  · cases h
    exact .inr ⟨rfl, rfl⟩
  · have hlength := congrArg List.length h
    simp only [Resolution.all, List.length_cons, List.length_append, List.length_nil] at hlength
    omega

/-- A call that fails never touches the high frame, and it touches the normal frame
only if that one was acceptable and the high resolution was not. Even then no frame
is left half done: the normal one is completely cropped. -/
theorem frames_of_crop_error {allocator : Allocator} {source : StreamSizes}
    {request : MarginRequest} {chroma : ChromaMode} {c : Cropper}
    (hstart : (start allocator source request chroma).outcome = .ok c)
    (past : List Capture) (frames : Capture) {failure : Failure}
    (herror : ((c.run past).crop frames).outcome = .error failure) :
    let plan : Plan := ⟨.normal, source.normal, .ofRequest request, chroma⟩
    let after := ((c.run past).crop frames).frames
    after.high = frames.high ∧
      ((¬ plan.Accepts frames.normal ∧ after.normal = frames.normal) ∨
        (plan.Accepts frames.normal ∧ plan.IsCrop frames.normal.data after.normal ∧
          ¬ source.Accepts (.ofRequest request) chroma .high frames.high)) := by
  have hc := blank_run_of_start hstart past
  generalize c.run past = c at hc herror ⊢
  obtain ⟨hid, hcrop⟩ := cropEach_of_crop_error herror
  rw [hcrop] at herror ⊢
  intro plan after
  have hmargins : c.margins = .ofRequest request := congrArg Cropper.margins hc
  have hplan : source.planFor? (.ofRequest request) chroma .normal = some plan := by
    rw [StreamSizes.planFor?, if_neg (hmargins ▸ hid)]
    rfl
  have hnormal : source.Accepts (.ofRequest request) chroma .normal (some frames.normal) ↔
      plan.Accepts frames.normal := StreamSizes.accepts_some_iff hplan
  obtain ⟨done, r, rest, hall, hdone, hr, hframes⟩ := cropEach_stops herror
  obtain ⟨rfl, rfl⟩ | ⟨rfl, rfl⟩ := stops_of_all hall
  · have hafter : after = frames := hframes
    have hrefused : ¬ source.Accepts _ chroma .normal (frames.get? .normal) :=
      not_accepts_of_single_error hc hr
    rw [hafter]
    exact ⟨rfl, .inl ⟨fun haccepts => hrefused (hnormal.2 haccepts), rfl⟩⟩
  · have hafter : after = (cropEach [.normal] c frames).frames := hframes
    have hhigh : (cropEach [.normal] c frames).frames.get? .high = frames.get? .high :=
      get?_cropEach_of_notMem (by decide)
    have hrefused := not_accepts_of_single_error (blank_cropEach.trans hc) hr
    obtain ⟨cropped, hget, hiscrop⟩ := isCrop_cropEach_single hc hplan rfl hdone
    obtain rfl : (cropEach [.normal] c frames).frames.normal = cropped := Option.some.inj hget
    have haccepts := (cropEach_single_ok_iff hc .normal frames).1 hdone
    rw [hhigh] at hrefused
    rw [hafter]
    exact ⟨hhigh, .inr ⟨hnormal.1 haccepts, hiscrop, hrefused⟩⟩

/-- A set without its high frame, after a normal frame that is fine. -/
theorem frames_of_missing_high :
    ∃ c : Cropper,
      (start .system ⟨⟨2, 2⟩, ⟨2, 2⟩⟩ ⟨1, 0, 0, 0⟩ .fullResolution).outcome = .ok c ∧
      (c.crop (.normalOnly ⟨⟨2, 2⟩, .filled 6 5⟩)).outcome =
        .error (.invalid (.missingFrame .high)) ∧
      (⟨.normal, ⟨2, 2⟩, ⟨1, 0, 0, 0⟩, .fullResolution⟩ : Plan).IsCrop (.filled 6 5)
        (c.crop (.normalOnly ⟨⟨2, 2⟩, .filled 6 5⟩)).frames.normal := by
  refine ⟨planned ⟨⟨2, 2⟩, ⟨2, 2⟩⟩ ⟨1, 0, 0, 0⟩ .fullResolution, by cbv, by cbv, ?_⟩
  have hstart : (start .system ⟨⟨2, 2⟩, ⟨2, 2⟩⟩ ⟨1, 0, 0, 0⟩ .fullResolution).outcome =
      .ok (planned ⟨⟨2, 2⟩, ⟨2, 2⟩⟩ ⟨1, 0, 0, 0⟩ .fullResolution) := by cbv
  have herror : ((planned ⟨⟨2, 2⟩, ⟨2, 2⟩⟩ ⟨1, 0, 0, 0⟩ .fullResolution).crop
      (.normalOnly ⟨⟨2, 2⟩, .filled 6 5⟩)).outcome =
      .error (.invalid (.missingFrame .high)) := by cbv
  obtain ⟨-, ⟨hrefused, -⟩ | ⟨-, hcrop, -⟩⟩ := frames_of_crop_error hstart [] _ herror
  · exact absurd ⟨rfl, by decide, by decide⟩ hrefused
  · exact hcrop

/-- A failed call does not always leave the frames alone. -/
theorem crop_not_atomic :
    ¬ ∀ (allocator : Allocator) (source : StreamSizes) (request : MarginRequest)
        (chroma : ChromaMode) (c : Cropper) (past : List Capture) (frames : Capture)
        (error : CropError),
      (start allocator source request chroma).outcome = .ok c →
        ((c.run past).crop frames).outcome = .error (.rejected error) →
          ((c.run past).crop frames).frames = frames := by
  intro h
  have hsame := h .system ⟨⟨2, 2⟩, ⟨2, 2⟩⟩ ⟨1, 0, 0, 0⟩ .fullResolution _ []
    (.normalOnly ⟨⟨2, 2⟩, .filled 6 5⟩) _ (by cbv) (by cbv)
  revert hsame
  decide +kernel

end Cropper

end PlanarCrop
