import PlanarCrop.Proofs.CaptureCrop
import PlanarCrop.Proofs.CropperInvariant

/-!
# What a call takes and what it hands on

Which captures a cropper takes depends on the sizes that the stream was started
for and on nothing else: not on the captures before, and not on what became of
them. `Conforms` says what a stream is promised of a capture, and it is exactly
what is taken. What is refused is refused for a cause that lies in the capture;
the length of a staging buffer is checked in every call and is never the cause,
because no call changes it.

Both halves go along a pass through any list of resolutions that names none of
them twice. A step looks at the frame of its own resolution and touches no other,
so each step finds the frame that was handed in. Hence a pass succeeds just if all
its steps would have (`cropEach_ok_iff`), the step by which it fails could have
failed on the capture as it came (`cropEach_refusal`), and a pass that succeeds
leaves the crop of every frame (`cropEach_delivers`).

What is handed on has the sizes that the cropper announces. The two ways of being
absent do not agree everywhere, though: a frame is absent if it was not captured,
but among sizes the high resolution is absent if one of its sides is zero. Margins
that take away a whole side of the high frames make it absent in the second sense
and leave an empty frame in the first.
-/

namespace PlanarCrop

/-! ## The promise -/

/-- The frame has the size `size` and a buffer that covers it. -/
structure Frame.Fills (frame : Frame) (size : Size) : Prop where
  size_eq : frame.size = size
  countable : 3 * (size.width.toNat * size.height.toNat) < countLimit
  long_enough : 3 * (size.width.toNat * size.height.toNat) / 2 ≤ frame.data.size

/-- What a stream with these sizes is promised of a capture: a frame in each of its
resolutions and in no other, and each frame of its size. -/
structure StreamSizes.Conforms (source : StreamSizes) (frames : Capture) : Prop where
  present : ∀ r, (frames.get? r).isSome = source.has r
  fills : ∀ r frame, frames.get? r = some frame → frame.Fills (source.sizeOf r)

theorem Frame.Fills.lumaBytes_lt {frame : Frame} {size : Size} (h : frame.Fills size) :
    size.lumaBytes * 3 < countLimit := by
  rw [← size.three_mul_sides]
  exact h.countable

theorem Frame.Fills.lumaBytes_le {frame : Frame} {size : Size} (h : frame.Fills size) :
    size.lumaBytes * 3 / 2 ≤ frame.data.size := by
  rw [← size.three_mul_sides]
  exact h.long_enough

theorem Plan.accepts_iff_fills {p : Plan} {frame : Frame} :
    p.Accepts frame ↔ frame.Fills p.source := by
  constructor
  · intro h
    refine ⟨h.size_eq, ?_, ?_⟩
    · rw [p.source.three_mul_sides]
      exact h.countable
    · rw [p.source.three_mul_sides]
      exact h.long_enough
  · intro h
    exact ⟨h.size_eq, h.lumaBytes_lt, h.lumaBytes_le⟩

namespace StreamSizes

variable {source : StreamSizes} {margins : Margins} {chroma : ChromaMode}

theorem accepts_iff (hcut : margins ≠ .zero) {r : Resolution} {captured : Option Frame} :
    source.Accepts margins chroma r captured ↔
      captured.isSome = source.has r ∧
        ∀ frame, captured = some frame → frame.Fills (source.sizeOf r) := by
  have hhas : (source.planFor? margins chroma r).isSome = source.has r :=
    isSome_planFor? hcut
  unfold Accepts
  rw [← hhas]
  cases hplan : source.planFor? margins chroma r with
  | none => cases captured <;> simp
  | some plan =>
      obtain rfl := eq_of_planFor? hplan
      cases captured <;> simp [Plan.accepts_iff_fills]

theorem conforms_iff_accepts (hcut : margins ≠ .zero) {frames : Capture} :
    source.Conforms frames ↔
      ∀ r ∈ Resolution.all, source.Accepts margins chroma r (frames.get? r) := by
  constructor
  · intro h r _
    exact (accepts_iff hcut).2 ⟨h.present r, h.fills r⟩
  · intro h
    have hall (r : Resolution) := (accepts_iff hcut).1 (h r r.mem_all)
    exact ⟨fun r => (hall r).1, fun r => (hall r).2⟩

end StreamSizes

/-! ## A pass takes what its steps take -/

namespace Cropper

section
variable {source : StreamSizes} {request : MarginRequest} {chroma : ChromaMode}

theorem get?_cropEach_single {q r : Resolution} {c : Cropper} {frames : Capture}
    (hne : q ≠ r) : (cropEach [r] c frames).frames.get? q = frames.get? q :=
  get?_cropEach_of_notMem fun hq => hne (List.mem_singleton.1 hq)

theorem cropEach_ok_iff : ∀ {rs : List Resolution} {c : Cropper} {frames : Capture},
    c.blank = planned source request chroma → rs.Nodup →
      ((cropEach rs c frames).outcome = .ok () ↔
        ∀ r ∈ rs, source.Accepts (.ofRequest request) chroma r (frames.get? r)) := by
  intro rs
  induction rs with
  | nil =>
      intro c frames _ _
      exact ⟨fun _ r hr => absurd hr List.not_mem_nil, fun _ => rfl⟩
  | cons r rest ih =>
      intro c frames hc hnodup
      obtain ⟨hr, hrest⟩ := List.nodup_cons.1 hnodup
      rw [List.forall_mem_cons, ← cropEach_single_ok_iff hc r frames]
      cases hone : (cropEach [r] c frames).outcome with
      | error failure =>
          rw [cropEach_cons_of_error rest hone, hone]
          exact ⟨nofun, fun h => nomatch h.1⟩
      | ok _ =>
          have hlater : ∀ q ∈ rest,
              (cropEach [r] c frames).frames.get? q = frames.get? q := by
            intro q hq
            exact get?_cropEach_single fun h => hr (h ▸ hq)
          rw [cropEach_cons_of_ok rest hone]
          show (cropEach rest _ _).outcome = .ok () ↔ _
          rw [ih (blank_cropEach.trans hc) hrest]
          constructor
          · intro h
            exact ⟨rfl, fun q hq => hlater q hq ▸ h q hq⟩
          · rintro ⟨-, h⟩ q hq
            rw [hlater q hq]
            exact h q hq

/-! ## Why a pass fails -/

/-- The ways in which a step fails on what was captured for frames of `size`. The
length of a staging buffer is not among the causes. -/
inductive Refusal (size : Size) (captured : Option Frame) : Failure → Prop where
  | invalid {cause : InvalidData}
      (hcause : ∀ r held needed, cause ≠ .stagingMismatch r held needed) :
      Refusal size captured (.invalid cause)
  | tooLarge {frame : Frame} (hframe : captured = some frame) (hsize : frame.size = size)
      (hcount : countLimit ≤ 3 * (size.width.toNat * size.height.toNat)) :
      Refusal size captured (.fault .overflow)

theorem refusal_of_frameEnd {p : Plan} {frame : Frame} {staging : Staging}
    {done : FrameCrop} {failure : Failure} (h : p.FrameEnd frame staging done)
    (hstaging : staging.data.size = p.cropped.lumaBytes * 3 / 2)
    (herror : done.outcome = .error failure) :
    Refusal p.source (some frame) failure := by
  cases h with
  | identity _ => cases herror
  | wrongSize _ _ =>
      cases herror
      exact .invalid nofun
  | tooLarge _ hsize hcount =>
      cases herror
      refine .tooLarge rfl hsize ?_
      rw [Nat.mul_comm]
      exact hcount
  | shortBuffer _ _ _ _ =>
      cases herror
      exact .invalid nofun
  | wrongStaging _ _ _ _ hwrong => exact absurd hstaging hwrong
  | cropped _ _ _ _ _ _ _ => cases herror

theorem refusal_of_single {c : Cropper} (hc : c.blank = planned source request chroma)
    {r : Resolution} {frames : Capture} {failure : Failure}
    (herror : (cropEach [r] c frames).outcome = .error failure) :
    Refusal (source.sizeOf r) (frames.get? r) failure := by
  obtain ⟨-, hslot⟩ | ⟨plan, staging, hplan, hslot, hstaging⟩ := slot?_of_planned hc r
  · cases hframe : frames.get? r with
    | none =>
        simp only [cropEach, hslot, hframe] at herror
        cases herror
    | some frame =>
        simp only [cropEach, hslot, hframe] at herror
        cases herror
        exact .invalid (by simp)
  · obtain rfl := StreamSizes.eq_of_planFor? hplan
    cases hframe : frames.get? r with
    | none =>
        simp only [cropEach, hslot, hframe] at herror
        cases herror
        exact .invalid (by simp)
    | some frame =>
        rw [cropEach_single hslot hframe] at herror
        exact refusal_of_frameEnd (Plan.cropFrame_ends _ frame staging) hstaging herror

/-- A pass that fails could have failed on the capture as it came. -/
theorem cropEach_refusal {rs : List Resolution} {c : Cropper} {frames : Capture}
    {failure : Failure} (hc : c.blank = planned source request chroma) (hrs : rs.Nodup)
    (herror : (cropEach rs c frames).outcome = .error failure) :
    ∃ r, Refusal (source.sizeOf r) (frames.get? r) failure := by
  obtain ⟨done, r, rest, rfl, -, hr, -⟩ := cropEach_stops herror
  have hnotMem : r ∉ done := by
    intro hmem
    exact (List.nodup_append.1 hrs).2.2 r hmem r List.mem_cons_self rfl
  have hrefusal := refusal_of_single (blank_cropEach.trans hc) hr
  rw [get?_cropEach_of_notMem hnotMem] at hrefusal
  exact ⟨r, hrefusal⟩

/-! ## What a pass leaves -/

/-- What is left in a resolution when its frame is cropped: the crop of an acceptable
frame if there is a plan, and nothing otherwise. -/
def Delivers (source : StreamSizes) (margins : Margins) (chroma : ChromaMode)
    (r : Resolution) (captured left : Option Frame) : Prop :=
  match source.planFor? margins chroma r with
  | none => left = none
  | some plan => ∃ frame out, captured = some frame ∧ left = some out ∧
      plan.Accepts frame ∧ plan.IsCrop frame.data out

theorem delivers_single {c : Cropper} (hc : c.blank = planned source request chroma)
    {r : Resolution} {frames : Capture} (hok : (cropEach [r] c frames).outcome = .ok ()) :
    Delivers source (.ofRequest request) chroma r (frames.get? r)
      ((cropEach [r] c frames).frames.get? r) := by
  have haccepts := (cropEach_single_ok_iff hc r frames).1 hok
  unfold StreamSizes.Accepts at haccepts
  obtain ⟨hplan, hslot⟩ | ⟨plan, staging, hplan, hslot, -⟩ := slot?_of_planned hc r
  · rw [Delivers, hplan]
    rw [hplan] at haccepts
    cases hframe : frames.get? r with
    | none => simp only [cropEach, hslot, hframe]
    | some frame =>
        rw [hframe] at haccepts
        exact haccepts.elim
  · rw [Delivers, hplan]
    rw [hplan] at haccepts
    cases hframe : frames.get? r with
    | none =>
        rw [hframe] at haccepts
        exact haccepts.elim
    | some frame =>
        obtain ⟨out, hout, hcrop⟩ := isCrop_cropEach_single hc hplan hframe hok
        rw [hframe] at haccepts
        exact ⟨frame, out, rfl, hout, haccepts, hcrop⟩

theorem cropEach_delivers : ∀ {rs : List Resolution} {c : Cropper} {frames : Capture},
    c.blank = planned source request chroma → rs.Nodup →
      (cropEach rs c frames).outcome = .ok () →
        ∀ r ∈ rs, Delivers source (.ofRequest request) chroma r (frames.get? r)
          ((cropEach rs c frames).frames.get? r) := by
  intro rs
  induction rs with
  | nil => intro c frames _ _ _ r hr; exact absurd hr List.not_mem_nil
  | cons r rest ih =>
      intro c frames hc hnodup hok q hq
      obtain ⟨hr, hrest⟩ := List.nodup_cons.1 hnodup
      cases hone : (cropEach [r] c frames).outcome with
      | error failure =>
          rw [cropEach_cons_of_error rest hone, hone] at hok
          cases hok
      | ok _ =>
          rw [cropEach_cons_of_ok rest hone] at hok ⊢
          rcases List.mem_cons.1 hq with rfl | hmem
          · -- The steps behind it pass this frame by.
            have hlast : (cropEach rest (cropEach [q] c frames).cropper
                (cropEach [q] c frames).frames).frames.get? q =
                  (cropEach [q] c frames).frames.get? q := get?_cropEach_of_notMem hr
            show Delivers _ _ _ _ _ ((cropEach rest _ _).frames.get? q)
            rw [hlast]
            exact delivers_single hc hone
          · -- The step before them has passed this frame by.
            have hne : q ≠ r := fun h => hr (h ▸ hmem)
            have hdelivers := ih (blank_cropEach.trans hc) hrest hok q hmem
            rw [get?_cropEach_single hne] at hdelivers
            exact hdelivers

/-! ## The contract of a call -/

variable {c : Cropper}

theorem run_append (c : Cropper) (past later : List Capture) :
    c.run (past ++ later) = (c.run past).run later :=
  List.foldl_append

theorem crop_of_isEnabled {d : Cropper} (hcut : d.isEnabled = true) (frames : Capture) :
    d.crop frames = cropEach Resolution.all d frames :=
  if_pos hcut

theorem Started.isEnabled_run (h : Started source request chroma c)
    (past : List Capture) :
    (c.run past).isEnabled = true ↔ Margins.ofRequest request ≠ .zero := by
  rw [(h.frozen_planned past).isEnabled]
  exact isEnabled_planned source request chroma

theorem Started.crop_ok_iff (h : Started source request chroma c)
    (hcut : Margins.ofRequest request ≠ .zero) (past : List Capture) (frames : Capture) :
    ((c.run past).crop frames).outcome = .ok () ↔ source.Conforms frames := by
  rw [crop_of_isEnabled ((h.isEnabled_run past).2 hcut),
    cropEach_ok_iff (h.blank_run past) Resolution.nodup_all,
    StreamSizes.conforms_iff_accepts hcut]

/-- A cropper that cuts takes exactly the captures that conform to the sizes it works
for, at any time. What it does not take it refuses as invalid, and never for a staging
buffer; only a frame too large to be counted stops it. No call, whichever way it ended,
makes it refuse a capture that conforms later on. -/
theorem crop_ok_iff_conforms (h : Started source request chroma c) (past : List Capture)
    (hcut : (c.run past).isEnabled = true) (frames : Capture) :
    let d := c.run past
    ((d.crop frames).outcome = .ok () ↔ d.source.Conforms frames) ∧
      (∀ error, (d.crop frames).outcome = .error (.rejected error) →
        ∃ cause, error = .invalidData cause ∧
          ∀ r held needed, cause ≠ .stagingMismatch r held needed) ∧
      (∀ fault, (d.crop frames).outcome = .error (.fault fault) →
        ∃ r frame, frames.get? r = some frame ∧ frame.size = d.source.sizeOf r ∧
          countLimit ≤ 3 * (frame.size.width.toNat * frame.size.height.toNat)) ∧
      ∀ between later, d.source.Conforms later →
        (((d.crop frames).cropper.run between).crop later).outcome = .ok () := by
  intro d
  have hmargins := (h.isEnabled_run past).1 hcut
  have hsource : d.source = source := (h.frozen_planned past).source
  have hrefusal {failure : Failure} (herror : (d.crop frames).outcome = .error failure) :
      ∃ r, Refusal (source.sizeOf r) (frames.get? r) failure := by
    rw [crop_of_isEnabled hcut] at herror
    exact cropEach_refusal (h.blank_run past) Resolution.nodup_all herror
  rw [hsource]
  refine ⟨h.crop_ok_iff hmargins past frames, ?_, ?_, ?_⟩
  · intro error herror
    obtain ⟨r, hr⟩ := hrefusal herror
    cases hr with
    | invalid hcause => exact ⟨_, rfl, hcause⟩
  · intro fault hfault
    obtain ⟨r, hr⟩ := hrefusal hfault
    cases hr with
    | tooLarge hframe hsize hcount => exact ⟨r, _, hframe, hsize, hsize ▸ hcount⟩
  · intro between later hlater
    have hrun : (d.crop frames).cropper.run between = c.run (past ++ frames :: between) := by
      rw [run_append]
      rfl
    rw [hrun]
    exact (h.crop_ok_iff hmargins _ later).2 hlater

end

/-- After a capture without its high frame, and one whose normal frame is too short, a
capture that conforms is taken. -/
theorem conforming_after_refusals :
    ∃ c : Cropper,
      Started ⟨⟨4, 2⟩, ⟨3, 5⟩⟩ ⟨1, 0, 0, 0⟩ .subsampled c ∧
      c.isEnabled = true ∧
      (c.crop ⟨⟨⟨4, 2⟩, .filled 12 7⟩, none⟩).outcome =
        .error (.invalid (.missingFrame .high)) ∧
      (⟨⟨4, 2⟩, ⟨3, 5⟩⟩ : StreamSizes).Conforms
        ⟨⟨⟨4, 2⟩, .filled 12 1⟩, some ⟨⟨3, 5⟩, .filled 24 2⟩⟩ ∧
      ((c.run [⟨⟨⟨4, 2⟩, .filled 12 7⟩, none⟩,
          ⟨⟨⟨4, 2⟩, .filled 11 7⟩, some ⟨⟨3, 5⟩, .filled 22 9⟩⟩]).crop
        ⟨⟨⟨4, 2⟩, .filled 12 1⟩, some ⟨⟨3, 5⟩, .filled 24 2⟩⟩).outcome = .ok () := by
  obtain ⟨c, hstart, hcut, hmissing⟩ : ∃ c : Cropper,
      (start .system ⟨⟨4, 2⟩, ⟨3, 5⟩⟩ ⟨1, 0, 0, 0⟩ .subsampled).outcome = .ok c ∧
        c.isEnabled = true ∧
        (c.crop ⟨⟨⟨4, 2⟩, .filled 12 7⟩, none⟩).outcome =
          .error (.invalid (.missingFrame .high)) := ⟨_, by cbv, by cbv, by cbv⟩
  have hstarted : Started ⟨⟨4, 2⟩, ⟨3, 5⟩⟩ ⟨1, 0, 0, 0⟩ .subsampled c := .upright hstart
  have hconforms : (⟨⟨4, 2⟩, ⟨3, 5⟩⟩ : StreamSizes).Conforms
      ⟨⟨⟨4, 2⟩, .filled 12 1⟩, some ⟨⟨3, 5⟩, .filled 24 2⟩⟩ := by
    refine ⟨fun r => by cases r <;> decide, ?_⟩
    intro r frame hframe
    cases r <;> cases hframe <;> exact ⟨rfl, by decide, by decide⟩
  obtain ⟨-, -, -, hlater⟩ := crop_ok_iff_conforms hstarted [] hcut
    ⟨⟨⟨4, 2⟩, .filled 12 7⟩, none⟩
  have hsource : c.source = ⟨⟨4, 2⟩, ⟨3, 5⟩⟩ := (hstarted.frozen_planned []).source
  refine ⟨c, hstarted, hcut, hmissing, hconforms, ?_⟩
  exact hlater [⟨⟨⟨4, 2⟩, .filled 11 7⟩, some ⟨⟨3, 5⟩, .filled 22 9⟩⟩] _
    (show c.source.Conforms _ by rw [hsource]; exact hconforms)

end Cropper

/-! ## The announced sizes -/

namespace Plan

variable {p : Plan} {src : Bytes} {out : Frame}

theorem IsCrop.size_out (h : p.IsCrop src out) : out.size = p.cropped :=
  Size.ext_toNat (h.width_eq.trans p.toNat_width_cropped.symm)
    (h.height_eq.trans p.toNat_height_cropped.symm)

theorem IsCrop.frameBytes_out (h : p.IsCrop src out)
    (hcount : p.source.lumaBytes * 3 < countLimit) :
    out.size.frameBytes = .ok out.data.size := by
  have hcropped := p.lumaBytes_cropped_le
  rw [h.size_out, Size.frameBytes_eq_ok_iff, h.size_eq, lumaBytes_cropped, Nat.mul_comm 3]
  rw [lumaBytes_cropped] at hcropped
  exact ⟨by omega, rfl⟩

end Plan

namespace Cropper

/-- What is announced as present is present among the sizes frames arrive with. -/
theorem Consistent.has_source {d : Cropper} (hd : d.Consistent) (hcut : d.isEnabled = true)
    {r : Resolution} (h : d.output.has r = true) : d.source.has r = true := by
  have hplan := hd.plan_iff hcut r
  cases hsource : d.source.has r with
  | true => rfl
  | false =>
      rw [hsource, Option.isSome_eq_false_iff, Option.isNone_iff_eq_none] at hplan
      have hsize := hd.passes r hplan
      cases r with
      | normal => cases hsource
      | high =>
          have hhas : d.output.has .high = d.source.has .high :=
            congrArg (fun size : Size => !size.isEmpty) hsize
          rw [hhas, hsource] at h
          cases h

section
variable {source : StreamSizes} {request : MarginRequest} {chroma : ChromaMode}
  {c : Cropper}

/-- A call that succeeds leaves a frame of the size on record in each resolution that
frames arrive in, and no frame elsewhere. -/
theorem Started.frames_of_crop_ok (h : Started source request chroma c)
    (past : List Capture) (hcut : (c.run past).isEnabled = true) (frames : Capture)
    (hok : ((c.run past).crop frames).outcome = .ok ()) (r : Resolution) :
    let d := c.run past
    let left := (d.crop frames).frames.get? r
    (d.source.has r = false ∧ left = none) ∨
      (d.source.has r = true ∧ ∃ frame, left = some frame ∧
        frame.size = d.output.sizeOf r ∧
        frame.size.frameBytes = .ok frame.data.size) := by
  intro d left
  have hfrozen := h.frozen_planned past
  have hd : d.Consistent := h.consistent past
  have hplans : d.plan? r = source.planFor? (.ofRequest request) chroma r := by
    rw [hfrozen.plan?, plan?_planned]
  have hhas : (d.plan? r).isSome = d.source.has r := hd.plan_iff hcut r
  have hdelivers : Delivers source (.ofRequest request) chroma r (frames.get? r) left := by
    rw [crop_of_isEnabled hcut] at hok
    have hall := cropEach_delivers (h.blank_run past) Resolution.nodup_all hok r r.mem_all
    rw [← crop_of_isEnabled hcut] at hall
    exact hall
  rw [Delivers, ← hplans] at hdelivers
  cases hplan : d.plan? r with
  | none =>
      rw [hplan] at hhas hdelivers
      exact .inl ⟨hhas.symm, hdelivers⟩
  | some plan =>
      rw [hplan] at hhas hdelivers
      obtain ⟨frame, out, -, hleft, haccepts, hcrop⟩ := hdelivers
      refine .inr ⟨hhas.symm, out, hleft, ?_, hcrop.frameBytes_out haccepts.countable⟩
      rw [hcrop.size_out]
      exact hd.leaves r plan hplan

/-- What is handed on has the announced sizes. A resolution that is announced is handed
on, with just the bytes of its size; one that is not announced is the high one, and
either the stream has no high frames or the margins leave nothing of them, and then an
empty frame of the size on record is handed on. -/
theorem delivered_as_announced (h : Started source request chroma c) (past : List Capture)
    (hcut : (c.run past).isEnabled = true) (frames : Capture)
    (hok : ((c.run past).crop frames).outcome = .ok ()) (r : Resolution) :
    let d := c.run past
    let after := (d.crop frames).frames
    (∀ size, d.output.get? r = some size →
      ∃ frame, after.get? r = some frame ∧ frame.size = size ∧
        size.frameBytes = .ok frame.data.size) ∧
      (d.output.get? r = none →
        r = .high ∧
          ((d.source.has .high = false ∧ after.get? .high = none) ∨
            (d.source.has .high = true ∧ d.output.high.isEmpty = true ∧
              ∃ frame, after.get? .high = some frame ∧ frame.size = d.output.high ∧
                frame.data = #[]))) := by
  intro d after
  have hleft := h.frames_of_crop_ok past hcut frames hok r
  constructor
  · intro size hsize
    obtain ⟨hhas, rfl⟩ := StreamSizes.get?_eq_some_iff.1 hsize
    have hsource := (h.consistent past).has_source hcut hhas
    obtain ⟨habsent, -⟩ | ⟨-, frame, hframe, hframeSize, hbytes⟩ := hleft
    · rw [habsent] at hsource
      cases hsource
    · exact ⟨frame, hframe, hframeSize, hframeSize ▸ hbytes⟩
  · intro hnone
    obtain ⟨rfl, hempty⟩ := StreamSizes.get?_eq_none_iff.1 hnone
    refine ⟨rfl, ?_⟩
    obtain ⟨habsent, hgone⟩ | ⟨hhas, frame, hframe, hframeSize, hbytes⟩ := hleft
    · exact .inl ⟨habsent, hgone⟩
    · have hsize : frame.size = d.output.high := hframeSize
      rw [hsize, Size.frameBytes_eq_ok_iff, Size.lumaBytes_of_isEmpty hempty] at hbytes
      refine .inr ⟨hhas, hempty, frame, hframe, hsize, ?_⟩
      exact Array.size_eq_zero_iff.1 hbytes.2

end

/-- A normal frame that loses half its width, with a high frame of which a single column
is left. -/
theorem delivered_after_startup :
    ∃ c : Cropper,
      Started ⟨⟨4, 2⟩, ⟨3, 5⟩⟩ ⟨2, 0, 0, 1⟩ .subsampled c ∧
      c.isEnabled = true ∧
      c.output.get? .high = some ⟨1, 4⟩ ∧
      (c.crop ⟨⟨⟨4, 2⟩, .filled 12 1⟩, some ⟨⟨3, 5⟩, .filled 24 2⟩⟩).outcome = .ok () ∧
      ∃ frame, (c.crop ⟨⟨⟨4, 2⟩, .filled 12 1⟩, some ⟨⟨3, 5⟩, .filled 24 2⟩⟩).frames.get?
          .high = some frame ∧
        frame.size = ⟨1, 4⟩ ∧ Size.frameBytes ⟨1, 4⟩ = .ok frame.data.size := by
  obtain ⟨c, hstart, hcut, hsize, hok⟩ : ∃ c : Cropper,
      (start .system ⟨⟨4, 2⟩, ⟨3, 5⟩⟩ ⟨2, 0, 0, 1⟩ .subsampled).outcome = .ok c ∧
        c.isEnabled = true ∧ c.output.get? .high = some ⟨1, 4⟩ ∧
        (c.crop ⟨⟨⟨4, 2⟩, .filled 12 1⟩, some ⟨⟨3, 5⟩, .filled 24 2⟩⟩).outcome = .ok () :=
    ⟨_, by cbv, by cbv, by cbv, by cbv⟩
  have hstarted : Started ⟨⟨4, 2⟩, ⟨3, 5⟩⟩ ⟨2, 0, 0, 1⟩ .subsampled c := .upright hstart
  have hdelivered := delivered_as_announced hstarted [] hcut _ hok .high
  exact ⟨c, hstarted, hcut, hsize, hok, hdelivered.1 _ hsize⟩

/-- A frame may be handed on in a resolution that is announced as absent: margins that
take away the whole width of the high frames leave some of the normal ones. -/
theorem announced_absent_delivered :
    ¬ ∀ (allocator : Allocator) (source : StreamSizes) (request : MarginRequest)
        (chroma : ChromaMode) (c : Cropper) (past : List Capture) (frames : Capture)
        (r : Resolution),
      (start allocator source request chroma).outcome = .ok c →
        (c.run past).isEnabled = true →
          ((c.run past).crop frames).outcome = .ok () →
            ((((c.run past).crop frames).frames.get? r).isSome =
                ((c.run past).output.get? r).isSome ∧
              ∀ frame size, ((c.run past).crop frames).frames.get? r = some frame →
                (c.run past).output.get? r = some size →
                  frame.size = size ∧ size.frameBytes = .ok frame.data.size) := by
  intro h
  obtain ⟨hsame, -⟩ := h .system ⟨⟨4, 2⟩, ⟨2, 2⟩⟩ ⟨2, 0, 0, 0⟩ .fullResolution _ []
    ⟨⟨⟨4, 2⟩, .filled 12 1⟩, some ⟨⟨2, 2⟩, .filled 6 2⟩⟩ .high (by cbv) (by cbv) (by cbv)
  revert hsame
  decide +kernel

end Cropper

end PlanarCrop
