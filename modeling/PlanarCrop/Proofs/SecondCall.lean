import PlanarCrop.Proofs.CaptureContract

/-!
# Frames that come back

Nothing in a frame says that it was cropped. What keeps a cropper from cropping it once
more is its size, which is no longer the one that frames arrive with. This file shows
that this is enough: frames that a call has cropped are left alone by every later call.

The guard has a gap. Margins that cut something cut something off every frame that has a
pixel, but a frame with a zero side may keep its size, and then it is cropped again. It
has no bytes, so nothing comes of it (`IsCrop.again`).

A later call is a pass over the resolutions, and each of its steps leaves its frame as it
is. So the next step finds what the first call has left, and what the whole pass answers
is what the steps answer one after the other (`cropEach_again`). Of the two resolutions
only the normal one can fall into the gap, because a high one that is present is not
empty.
-/

namespace PlanarCrop

/-! ## Answers one after the other -/

theorem forM_ok_iff {ε α : Type} {f : α → Except ε Unit} {list : List α} :
    forM list f = .ok () ↔ ∀ a ∈ list, f a = .ok () := by
  induction list with
  | nil => exact ⟨nofun, fun _ => rfl⟩
  | cons a rest ih =>
      rw [List.forM_cons, bind_eq_ok_iff, List.forall_mem_cons, ← ih]
      constructor
      · rintro ⟨⟨⟩, ha, hrest⟩
        exact ⟨ha, hrest⟩
      · rintro ⟨ha, hrest⟩
        exact ⟨(), ha, hrest⟩

theorem exists_of_forM_error {ε α : Type} {f : α → Except ε Unit} {list : List α} {e : ε}
    (h : forM list f = .error e) : ∃ a, f a = .error e := by
  induction list with
  | nil => cases h
  | cons a rest ih =>
      rw [List.forM_cons] at h
      cases ha : f a with
      | error other =>
          rw [ha] at h
          cases h
          exact ⟨a, ha⟩
      | ok _ =>
          rw [ha] at h
          exact ih h

/-! ## One frame -/

namespace Plan

/-- What is answered to a frame that has been cropped by the plan already. -/
def answerAgain (p : Plan) : Except Failure Unit :=
  if p.cropped = p.source then .ok ()
  else .error (.invalid (.sizeMismatch p.resolution p.cropped p.source))

theorem answerAgain_ok_iff {p : Plan} : p.answerAgain = .ok () ↔ p.cropped = p.source := by
  rw [answerAgain]
  split
  · next hsame => simp [hsame]
  · next hsame => simp [hsame]

section
variable {p : Plan} {src : Bytes} {out : Frame} {staging : Staging}

theorem isEmpty_of_cropped_eq (hcut : p.margins ≠ .zero) (hsame : p.cropped = p.source) :
    p.source.isEmpty = true := by
  cases hempty : p.source.isEmpty with
  | true => rfl
  | false => exact absurd hsame (Size.crop_ne_self hempty hcut)

/-- There is one frame without bytes of each size. -/
theorem IsCrop.eq_of_lumaBytes_zero {src' : Bytes} {out' : Frame} (h : p.IsCrop src out)
    (h' : p.IsCrop src' out') (hzero : p.cropped.lumaBytes = 0) : out = out' := by
  have hdata {s : Bytes} {f : Frame} (hf : p.IsCrop s f) : f.data = #[] := by
    rw [lumaBytes_cropped] at hzero
    have hsize := hf.size_eq
    rw [hzero] at hsize
    exact Array.size_eq_zero_iff.1 hsize
  have hsize := h.size_out.trans h'.size_out.symm
  have hbytes := (hdata h).trans (hdata h').symm
  obtain ⟨size, data⟩ := out
  obtain ⟨size', data'⟩ := out'
  obtain rfl : size = size' := hsize
  obtain rfl : data = data' := hbytes
  rfl

/-- A frame that a plan has cropped is left alone by the plan. -/
theorem IsCrop.again (h : p.IsCrop src out) (hcut : p.margins ≠ .zero)
    (hstaging : staging.data.size = p.cropped.lumaBytes * 3 / 2) :
    (p.cropFrame out staging).frame = out ∧
      (p.cropFrame out staging).outcome = p.answerAgain := by
  rw [answerAgain]
  by_cases hsame : p.cropped = p.source
  · have hzero : p.source.lumaBytes = 0 :=
      Size.lumaBytes_of_isEmpty (isEmpty_of_cropped_eq hcut hsame)
    have haccepts : p.Accepts out := by
      refine ⟨h.size_out.trans hsame, ?_, ?_⟩
      · rw [hzero]
        decide
      · rw [hzero]
        exact Nat.zero_le _
    have hok := ((p.cropFrame_ends out staging).ok_iff hcut hstaging).2 haccepts
    rw [if_pos hsame]
    refine ⟨?_, hok⟩
    exact (cropFrame_isCrop hcut hok).eq_of_lumaBytes_zero h (by rw [hsame, hzero])
  · have hsize : out.size ≠ p.source := by
      rw [h.size_out]
      exact hsame
    rw [if_neg hsame, cropFrame_of_check hcut (check_of_wrongSize hsize), h.size_out]
    exact ⟨rfl, rfl⟩

end

end Plan

/-- What is answered in one resolution to frames that have been cropped already: nothing
is said where there is no plan. -/
def StreamSizes.answerAgain (source : StreamSizes) (margins : Margins) (chroma : ChromaMode)
    (r : Resolution) : Except Failure Unit :=
  match source.planFor? margins chroma r with
  | none => .ok ()
  | some plan => plan.answerAgain

namespace StreamSizes

variable {source : StreamSizes} {margins : Margins} {chroma : ChromaMode} {r : Resolution}

theorem answerAgain_ok_iff (hcut : margins ≠ .zero) :
    source.answerAgain margins chroma r = .ok () ↔
      source.has r = false ∨ (source.sizeOf r).crop margins = source.sizeOf r := by
  have hhas : (source.planFor? margins chroma r).isSome = source.has r := isSome_planFor? hcut
  rw [answerAgain, ← hhas]
  cases hplan : source.planFor? margins chroma r with
  | none => simp
  | some plan =>
      obtain rfl := eq_of_planFor? hplan
      simp [Plan.answerAgain_ok_iff, Plan.cropped]

theorem eq_of_answerAgain_error {failure : Failure}
    (h : source.answerAgain margins chroma r = .error failure) :
    failure = .invalid (.sizeMismatch r ((source.sizeOf r).crop margins) (source.sizeOf r)) := by
  rw [answerAgain] at h
  split at h
  · cases h
  · next plan hplan =>
      obtain rfl := eq_of_planFor? hplan
      rw [Plan.answerAgain] at h
      split at h
      · cases h
      · cases h
        rfl

/-- The high resolution is never empty where it is present. -/
theorem answerAgain_high_ok_iff (hcut : margins ≠ .zero) :
    source.answerAgain margins chroma .high = .ok () ↔ source.has .high = false := by
  rw [answerAgain_ok_iff hcut, or_iff_left_iff_imp]
  intro hsame
  have hempty := Plan.isEmpty_of_cropped_eq (p := ⟨.high, source.high, margins, chroma⟩) hcut
    hsame
  simp [has, hempty]

theorem answerAgain_normal_ok_iff (hcut : margins ≠ .zero) :
    source.answerAgain margins chroma .normal = .ok () ↔
      source.normal.crop margins = source.normal := by
  have hpresent : ¬ source.has .normal = false := nofun
  rw [answerAgain_ok_iff hcut, or_iff_right hpresent]
  rfl

theorem forM_answerAgain_ok_iff (hcut : margins ≠ .zero) :
    forM Resolution.all (source.answerAgain margins chroma) = .ok () ↔
      source.has .high = false ∧ source.normal.crop margins = source.normal := by
  rw [forM_ok_iff, ← answerAgain_high_ok_iff hcut, ← answerAgain_normal_ok_iff hcut]
  constructor
  · intro hall
    exact ⟨hall .high (Resolution.mem_all _), hall .normal (Resolution.mem_all _)⟩
  · rintro ⟨hhigh, hnormal⟩ r -
    cases r with
    | normal => exact hnormal
    | high => exact hhigh

theorem exists_of_forM_answerAgain_error {rs : List Resolution} {failure : Failure}
    (h : forM rs (source.answerAgain margins chroma) = .error failure) :
    ∃ r, failure =
      .invalid (.sizeMismatch r ((source.sizeOf r).crop margins) (source.sizeOf r)) := by
  obtain ⟨r, hr⟩ := exists_of_forM_error h
  exact ⟨r, eq_of_answerAgain_error hr⟩

end StreamSizes

namespace Cropper

section
variable {source : StreamSizes} {request : MarginRequest} {chroma : ChromaMode}

/-! ## A pass over frames that were cropped already -/

/-- A step leaves a frame alone that an earlier call has handed on. -/
theorem cropEach_single_again {c : Cropper} (hc : c.blank = planned source request chroma)
    {r : Resolution} {frames : Capture} {captured : Option Frame}
    (h : Delivers source (.ofRequest request) chroma r captured (frames.get? r)) :
    (cropEach [r] c frames).frames = frames ∧
      (cropEach [r] c frames).outcome = source.answerAgain (.ofRequest request) chroma r := by
  rw [StreamSizes.answerAgain]
  obtain ⟨hplan, hslot⟩ | ⟨plan, staging, hplan, hslot, hstaging⟩ := slot?_of_planned hc r
  · rw [Delivers, hplan] at h
    rw [hplan]
    have hframe : frames.get? r = none := h
    simp [cropEach, hslot, hframe]
  · rw [Delivers, hplan] at h
    obtain ⟨frame, out, -, hout, -, hcrop⟩ := h
    obtain ⟨hmargins, hcut⟩ := StreamSizes.margins_of_planFor? hplan
    obtain ⟨hframe, houtcome⟩ := hcrop.again (hmargins ▸ hcut) hstaging
    rw [hplan, cropEach_single hslot hout]
    refine ⟨?_, houtcome⟩
    show frames.set r _ = frames
    rw [hframe]
    exact Capture.set_of_get? hout

/-- A pass leaves all frames alone that an earlier call has handed on, and answers what
its steps answer, up to the first that refuses. -/
theorem cropEach_again : ∀ {rs : List Resolution} {c : Cropper} {frames : Capture},
    c.blank = planned source request chroma →
      (∀ r ∈ rs, ∃ captured,
        Delivers source (.ofRequest request) chroma r captured (frames.get? r)) →
        (cropEach rs c frames).frames = frames ∧
          (cropEach rs c frames).outcome =
            forM rs (source.answerAgain (.ofRequest request) chroma) := by
  intro rs
  induction rs with
  | nil => intro c frames _ _; exact ⟨rfl, rfl⟩
  | cons r rest ih =>
      intro c frames hc hdone
      obtain ⟨captured, hr⟩ := hdone r List.mem_cons_self
      obtain ⟨hframes, houtcome⟩ := cropEach_single_again hc hr
      rw [List.forM_cons, ← houtcome]
      cases hone : (cropEach [r] c frames).outcome with
      | error failure =>
          rw [cropEach_cons_of_error rest hone]
          exact ⟨hframes, hone⟩
      | ok _ =>
          rw [cropEach_cons_of_ok rest hone, hframes]
          exact ih (blank_cropEach.trans hc) fun q hq => hdone q (List.mem_cons_of_mem r hq)

/-! ## A later call -/

variable {c : Cropper}

theorem Started.crop_again (h : Started source request chroma c) (past between : List Capture)
    (hcut : (c.run past).isEnabled = true) (frames : Capture)
    (hok : ((c.run past).crop frames).outcome = .ok ()) :
    let d := c.run past
    let first := d.crop frames
    let second := (first.cropper.run between).crop first.frames
    second.frames = first.frames ∧
      second.outcome = forM Resolution.all (d.source.answerAgain d.margins chroma) := by
  intro d first second
  have hrun : first.cropper.run between = c.run (past ++ frames :: between) := by
    rw [run_append]
    rfl
  have hsecond : second = cropEach Resolution.all (c.run (past ++ frames :: between))
      first.frames := by
    show (first.cropper.run between).crop first.frames = _
    rw [hrun]
    exact crop_of_isEnabled ((h.isEnabled_run _).2 ((h.isEnabled_run past).1 hcut)) _
  have hfirst : first = cropEach Resolution.all d frames := crop_of_isEnabled hcut frames
  rw [hsecond, show d.source = source from (h.frozen_planned past).source,
    show d.margins = .ofRequest request from (h.frozen_planned past).margins]
  refine cropEach_again (h.blank_run _) fun r hr => ⟨frames.get? r, ?_⟩
  rw [hfirst]
  exact cropEach_delivers (h.blank_run past) Resolution.nodup_all (hfirst ▸ hok) r hr

/-- Frames that a call has cropped are left alone by every later call, and none of these
stops. It succeeds only if there are no high frames and the normal ones have kept their
size, as frames with a zero side can; otherwise the frames are refused for their size. -/
theorem second_call (h : Started source request chroma c) (past between : List Capture)
    (hcut : (c.run past).isEnabled = true) (frames : Capture)
    (hok : ((c.run past).crop frames).outcome = .ok ()) :
    let d := c.run past
    let first := d.crop frames
    let second := (first.cropper.run between).crop first.frames
    let leaves (r : Resolution) : Size := (d.source.sizeOf r).crop d.margins
    second.frames = first.frames ∧
      (second.outcome = .ok () ↔
        d.source.has .high = false ∧ leaves .normal = d.source.normal) ∧
      (leaves .normal = d.source.normal → d.source.normal.isEmpty = true) ∧
      (second.outcome ≠ .ok () → ∃ r, second.outcome =
        .error (.invalid (.sizeMismatch r (leaves r) (d.source.sizeOf r)))) ∧
      (d.source.normal.isEmpty = false ∨ d.source.has .high = true →
        ∃ cause, second.outcome = .error (.invalid cause)) := by
  intro d first second leaves
  have hmargins : d.margins ≠ .zero := by
    rw [(h.frozen_planned past).margins]
    exact (h.isEnabled_run past).1 hcut
  obtain ⟨hframes, houtcome⟩ := h.crop_again past between hcut frames hok
  have hkept : second.outcome = .ok () ↔
      d.source.has .high = false ∧ leaves .normal = d.source.normal :=
    (Eq.congr_left houtcome).trans (StreamSizes.forM_answerAgain_ok_iff hmargins)
  have hempty : leaves .normal = d.source.normal → d.source.normal.isEmpty = true :=
    Plan.isEmpty_of_cropped_eq (p := ⟨.normal, d.source.normal, d.margins, chroma⟩) hmargins
  have hrefused : second.outcome ≠ .ok () → ∃ r, second.outcome =
      .error (.invalid (.sizeMismatch r (leaves r) (d.source.sizeOf r))) := by
    intro hnot
    cases hsecond : second.outcome with
    | ok _ => exact absurd hsecond hnot
    | error failure =>
        obtain ⟨r, rfl⟩ :=
          StreamSizes.exists_of_forM_answerAgain_error (houtcome.symm.trans hsecond)
        exact ⟨r, rfl⟩
  refine ⟨hframes, hkept, hempty, hrefused, fun hcase => ?_⟩
  obtain ⟨r, hr⟩ := hrefused fun hsecond => by
    obtain ⟨hhigh, hnormal⟩ := hkept.1 hsecond
    rw [hempty hnormal, hhigh] at hcase
    exact hcase.elim nofun nofun
  exact ⟨_, hr⟩

end

/-- The normal frames have no columns and are cropped again, to no effect; the high frame
that comes with them has lost one and is refused, after a capture in between that was
cropped. -/
theorem second_call_of_narrow_high :
    let frames : Capture := ⟨⟨⟨0, 2⟩, #[]⟩, some ⟨⟨5, 2⟩, .filled 15 2⟩⟩
    ∃ c : Cropper,
      Started ⟨⟨0, 2⟩, ⟨5, 2⟩⟩ ⟨1, 0, 0, 0⟩ .subsampled c ∧
      (c.crop frames).outcome = .ok () ∧
      (c.crop frames).frames = ⟨⟨⟨0, 2⟩, #[]⟩, some ⟨⟨4, 2⟩, .filled 12 2⟩⟩ ∧
      let second := ((c.crop frames).cropper.run [frames]).crop (c.crop frames).frames
      second.frames = (c.crop frames).frames ∧
        ∃ cause, second.outcome = .error (.invalid cause) := by
  intro frames
  obtain ⟨c, hstart, hcut, hsource, hok, hframes⟩ : ∃ c : Cropper,
      (start .system ⟨⟨0, 2⟩, ⟨5, 2⟩⟩ ⟨1, 0, 0, 0⟩ .subsampled).outcome = .ok c ∧
        c.isEnabled = true ∧ c.source.has .high = true ∧ (c.crop frames).outcome = .ok () ∧
        (c.crop frames).frames = ⟨⟨⟨0, 2⟩, #[]⟩, some ⟨⟨4, 2⟩, .filled 12 2⟩⟩ :=
    ⟨_, by cbv, by cbv, by cbv, by cbv, by cbv⟩
  have hstarted : Started ⟨⟨0, 2⟩, ⟨5, 2⟩⟩ ⟨1, 0, 0, 0⟩ .subsampled c := .upright hstart
  obtain ⟨hleft, -, -, -, hrefused⟩ := second_call hstarted [] [frames] hcut frames hok
  exact ⟨c, hstarted, hok, hframes, hleft, hrefused (.inr hsource)⟩

end Cropper

end PlanarCrop
