import Mathlib.Data.List.Basic
import PlanarCrop.Proofs.MemoryRequests
import PlanarCrop.Proofs.ResolutionProduct

/-!
# The log tells what happened

The log is written in four places that know nothing of each other: the warnings, the
loop that sets up the buffers, the crop of a frame, and the release. Whoever reads it
knows nothing but the log. So what it says is compared here with the cropper and with
the frames, which is where the things it talks about are.

A start ends in one of the ways of `SetUpEnd`, and each of them comes with its entries;
what is left is to find the numbers in these entries in the cropper that came out.

A call is a pass over the resolutions that stops at the first one it cannot serve.
`cropEach_log` cuts the pass there: the resolutions in front are done, each with an entry
if it has frames at all, and the ones behind are left alone. That a frame was cropped is
read off what the call has left of it (`HasCropped`). A frame that was not got to could
look cropped only if its crop were the frame itself. But the high frame is never empty
where it is present, and margins that cut anything cut something off a frame that is not
empty (`Size.crop_ne_self`).
-/

namespace PlanarCrop

/-- How entries are written: the level of each kind and the fields that say what it is
about. The entry that nothing is cut has its message alone. -/
structure Event.Wording : Prop where
  warned : ∀ w, (Event.warned w).level = .warn
  negative : ∀ edge value, (Event.warned (.negative edge value)).fields =
    [("edge", edge.key), ("value", toString value)]
  exceedsWidth : ∀ r left right width, (Event.warned (.exceedsWidth r left right width)).fields =
    [("variant", r.name), ("left", toString left), ("right", toString right),
      ("width", toString width),
      ("excess", toString (left.toNat + right.toNat - width.toNat))]
  exceedsHeight : ∀ r top bottom height,
    (Event.warned (.exceedsHeight r top bottom height)).fields =
      [("variant", r.name), ("top", toString top), ("bottom", toString bottom),
        ("height", toString height),
        ("excess", toString (top.toNat + bottom.toNat - height.toNat))]
  disabled : Event.disabled.level = .debug ∧
    Event.disabled.message = "crop margins are all zero, cropping disabled"
  allocated : ∀ r source cropped bytes,
    (Event.allocated r source cropped bytes).level = .debug ∧
      (Event.allocated r source cropped bytes).fields =
        [("variant", r.name), ("source", source.text), ("cropped", cropped.text),
          ("bytes", toString bytes)]
  startFailed : ∀ error r, (Event.startFailed error r).level = .error ∧
    (Event.startFailed error r).fields = [("error", error.message), ("variant", r.name)]
  frameCropped : ∀ r source cropped, (Event.frameCropped r source cropped).level = .trace ∧
    (Event.frameCropped r source cropped).fields =
      [("variant", r.name), ("source", source.text), ("cropped", cropped.text)]
  released : ∀ buffers, (Event.released buffers).level = .debug ∧
    (Event.released buffers).fields = [("buffers", toString buffers)]

namespace Plan

variable {p : Plan} {frame : Frame} {staging : Staging} {done : FrameCrop}

theorem FrameEnd.events_of_ok (h : p.FrameEnd frame staging done) (hid : p.margins ≠ .zero)
    (hok : done.outcome = .ok ()) :
    done.events = [.frameCropped p.resolution p.source p.cropped] := by
  obtain ⟨-, -, -, bytes, -, rfl⟩ := h.eq_of_ok hid hok
  rfl

end Plan

namespace Cropper

/-- What the log has to say of a cropper that was set up: a buffer for each resolution
that frames arrive in, or that nothing is cut. -/
def setUpLog (c : Cropper) : List Event :=
  if c.isEnabled then
    c.source.present.filterMap fun (r, size) =>
      (c.stagingBytes? r).map fun bytes => .allocated r size (c.output.sizeOf r) bytes
  else [.disabled]

/-- What the log has to say of the crop of a frame. -/
def cropEntry (c : Cropper) (r : Resolution) : Event :=
  .frameCropped r (c.source.sizeOf r) (c.output.sizeOf r)

/-- The frame of a resolution was one that its plan takes, and what is left of it is its
crop. -/
def HasCropped (c : Cropper) (before after : Capture) (r : Resolution) : Prop :=
  ∃ plan frame out, c.plan? r = some plan ∧ before.get? r = some frame ∧
    after.get? r = some out ∧ plan.Accepts frame ∧ plan.IsCrop frame.data out

section
variable {source : StreamSizes} {request : MarginRequest} {chroma : ChromaMode}
  {c : Cropper}

/-! ## The start -/

theorem Started.isSome_stagingBytes? (h : Started source request chroma c)
    (past : List Capture) (r : Resolution) :
    ((c.run past).stagingBytes? r).isSome =
      ((c.run past).isEnabled && (c.run past).source.has r) := by
  cases hon : (c.run past).isEnabled with
  | true =>
      rw [Bool.true_and]
      exact (h.consistent past).staging_iff hon r
  | false =>
      rw [((h.consistent past).idle hon).1 r |>.2]
      rfl

theorem Started.setUpLog_of_cut (h : Started source request chroma c)
    (hcut : Margins.ofRequest request ≠ .zero) :
    c.setUpLog = source.present.map (Margins.ofRequest request).report := by
  have hon : c.isEnabled = true := (h.isEnabled_run []).2 hcut
  have hsource : c.source = source := (h.frozen_planned []).source
  rw [setUpLog, if_pos hon, hsource, List.filterMap_eq_map_iff_forall_eq_some]
  rintro ⟨r, size⟩ ha
  obtain ⟨hhas, rfl⟩ := StreamSizes.get?_eq_some_iff.1 (StreamSizes.mem_present_iff.1 ha)
  simp only []
  rw [h.stagingBytes?_eq hhas, if_neg hcut, h.sizeOf_output hhas, Nat.mul_comm]
  rfl

theorem start_log {allocator : Allocator}
    (hanswer : ∀ fault, (start allocator source request chroma).outcome ≠ .error (.fault fault)) :
    let up := start allocator source request chroma
    let warned := (source.marginWarnings request).map Event.warned
    (∃ c, up.outcome = .ok c ∧ up.events = warned ++ c.setUpLog) ∨
      ∃ error before a after, up.outcome = .error (.rejected error) ∧
        Margins.ofRequest request ≠ .zero ∧ source.present = before ++ a :: after ∧
        (∀ b ∈ before, Granted allocator (.ofRequest request) b) ∧
        allocator.Refuses ((Margins.ofRequest request).demand a) error ∧
        up.events = warned ++ before.map (Margins.ofRequest request).report ++
          [.startFailed error a.1] := by
  intro up warned
  by_cases hcut : Margins.ofRequest request = .zero
  · refine .inl ⟨idle source request chroma, ?_, ?_⟩
    · rw [show up = _ from start_of_zero allocator source request chroma hcut]
    · have hoff : (idle source request chroma).isEnabled = false := by
        show (!(Margins.ofRequest request).isZero) = false
        rw [Margins.isZero_iff.2 hcut]
        rfl
      rw [show up = _ from start_of_zero allocator source request chroma hcut, setUpLog, hoff]
      rfl
  · obtain ⟨done, hends, houtcome, -, hevents⟩ :=
      start_of_cut allocator source request chroma hcut
    cases hends with
    | ready _ =>
        refine .inl ⟨_, houtcome, ?_⟩
        rw [Started.setUpLog_of_cut (.upright houtcome) hcut]
        exact hevents
    | tooLarge _ _ _ => exact absurd houtcome (hanswer _)
    | refused hsplit hbefore _ hrefused =>
        refine .inr ⟨_, _, _, _, houtcome, hcut, hsplit, hbefore, hrefused, ?_⟩
        rw [List.append_assoc]
        exact hevents

/-! ## A call -/

/-- A step has an entry if it has a frame to crop. -/
theorem events_single_of_ok (hc : c.blank = planned source request chroma)
    {r : Resolution} {frames : Capture} (hok : (cropEach [r] c frames).outcome = .ok ()) :
    (cropEach [r] c frames).events =
      (if (source.planFor? (.ofRequest request) chroma r).isSome then
        [(planned source request chroma).cropEntry r] else []) := by
  obtain ⟨hplan, hslot⟩ | ⟨plan, staging, hplan, hslot, -⟩ := slot?_of_planned hc r
  · rw [hplan]
    cases hframe : frames.get? r with
    | none => simp [cropEach, hslot, hframe]
    | some frame => simp [cropEach, hslot, hframe]
  · rw [hplan]
    cases hframe : frames.get? r with
    | none => simp [cropEach, hslot, hframe] at hok
    | some frame =>
        obtain ⟨hmargins, hcut⟩ := StreamSizes.margins_of_planFor? hplan
        rw [cropEach_single hslot hframe] at hok ⊢
        have hevents := (plan.cropFrame_ends frame staging).events_of_ok (hmargins ▸ hcut) hok
        have hleaves : (planned source request chroma).output.sizeOf r = plan.cropped := by
          rw [sizeOf_output_planned, StreamSizes.leavingSize_of_some hplan]
        obtain rfl := StreamSizes.eq_of_planFor? hplan
        show (Plan.cropFrame _ frame staging).events = _
        rw [hevents, cropEntry, hleaves]
        rfl

theorem events_single_of_error {r : Resolution} {frames : Capture} {failure : Failure}
    (herror : (cropEach [r] c frames).outcome = .error failure) :
    (cropEach [r] c frames).events = [] := by
  cases hslot : c.slot? r with
  | none =>
      cases hframe : frames.get? r with
      | none => simp [cropEach, hslot, hframe]
      | some frame => simp [cropEach, hslot, hframe]
  | some slot =>
      cases hframe : frames.get? r with
      | none => simp [cropEach, hslot, hframe]
      | some frame =>
          rw [cropEach_single hslot hframe] at herror ⊢
          rw [(slot.plan.cropFrame_ends frame slot.staging).eq_of_error herror]

/-- A pass is done with the resolutions in front of the first one that it cannot serve,
and the log has an entry for each of them that has frames. -/
theorem cropEach_log : ∀ {rs : List Resolution} {c : Cropper} {frames : Capture},
    c.blank = planned source request chroma → rs.Nodup →
      ∃ done rest, rs = done ++ rest ∧ (cropEach done c frames).outcome = .ok () ∧
        (cropEach rs c frames).frames = (cropEach done c frames).frames ∧
        (cropEach rs c frames).events =
          (done.filter fun r => (source.planFor? (.ofRequest request) chroma r).isSome).map
            (planned source request chroma).cropEntry ∧
        ∀ r later, rest = r :: later →
          ¬ source.Accepts (.ofRequest request) chroma r (frames.get? r) := by
  intro rs
  induction rs with
  | nil =>
      intro c frames _ _
      exact ⟨[], [], rfl, rfl, rfl, rfl, nofun⟩
  | cons r rest ih =>
      intro c frames hc hnodup
      obtain ⟨hr, hrest⟩ := List.nodup_cons.1 hnodup
      cases hone : (cropEach [r] c frames).outcome with
      | error failure =>
          rw [cropEach_cons_of_error rest hone]
          refine ⟨[], r :: rest, rfl, rfl, cropEach_single_error_frames hone,
            events_single_of_error hone, ?_⟩
          intro q later hq
          obtain ⟨rfl, -⟩ := List.cons.inj hq
          exact not_accepts_of_single_error hc hone
      | ok _ =>
          obtain ⟨done, later, rfl, hdone, hframes, hevents, hstop⟩ :=
            @ih (cropEach [r] c frames).cropper (cropEach [r] c frames).frames
              (blank_cropEach.trans hc) hrest
          refine ⟨r :: done, later, rfl, ?_⟩
          rw [cropEach_cons_of_ok (done ++ later) hone, cropEach_cons_of_ok done hone]
          refine ⟨hdone, hframes, ?_, ?_⟩
          · show (cropEach [r] c frames).events ++ (cropEach (done ++ later) _ _).events = _
            rw [hevents, events_single_of_ok hc hone, List.filter_cons]
            split
            · rfl
            · rfl
          · intro q after hq
            have hne : q ≠ r := by
              rintro rfl
              exact hr (by simp [hq])
            rw [← get?_cropEach_single hne]
            exact hstop q after hq

theorem Started.plan?_run (h : Started source request chroma c) (past : List Capture)
    (r : Resolution) :
    (c.run past).plan? r = source.planFor? (.ofRequest request) chroma r := by
  rw [(h.frozen_planned past).plan?, plan?_planned]

theorem Started.cropEntry_run (h : Started source request chroma c) (past : List Capture) :
    (c.run past).cropEntry = (planned source request chroma).cropEntry := by
  funext r
  rw [cropEntry, cropEntry, (h.frozen_planned past).source, (h.frozen_planned past).output]

/-- A high frame is not its own crop. -/
theorem not_isCrop_self {plan : Plan} {frame : Frame}
    (hplan : source.planFor? (.ofRequest request) chroma .high = some plan)
    (haccepts : plan.Accepts frame) : ¬ plan.IsCrop frame.data frame := by
  intro hcrop
  obtain ⟨-, hcut⟩ := StreamSizes.margins_of_planFor? hplan
  have hhas : source.has .high = true := by
    rw [← StreamSizes.isSome_planFor? hcut, hplan]
    rfl
  obtain rfl := StreamSizes.eq_of_planFor? hplan
  have hempty : source.high.isEmpty = false := by simpa [StreamSizes.has] using hhas
  have hsize := hcrop.size_out
  rw [haccepts.size_eq] at hsize
  exact Size.crop_ne_self hempty hcut hsize.symm

/-- A frame that looks cropped is one that the pass is done with: it has left the others
alone, and the first of these it has refused. -/
theorem mem_of_hasCropped {done rest : List Resolution} {before after : Capture}
    {r : Resolution} {plan : Plan} {frame out : Frame}
    (hall : Resolution.all = done ++ rest)
    (hstop : ∀ q later, rest = q :: later →
      ¬ source.Accepts (.ofRequest request) chroma q (before.get? q))
    (halone : ∀ q, q ∉ done → after.get? q = before.get? q)
    (hplan : source.planFor? (.ofRequest request) chroma r = some plan)
    (hframe : before.get? r = some frame) (hout : after.get? r = some out)
    (haccepts : plan.Accepts frame) (hcrop : plan.IsCrop frame.data out) : r ∈ done := by
  refine Classical.byContradiction fun hr => ?_
  rw [halone r hr, hframe] at hout
  obtain rfl : frame = out := Option.some.inj hout
  cases r with
  | high => exact not_isCrop_self hplan haccepts hcrop
  | normal =>
      -- The normal resolution comes first, so it is where the pass has stopped.
      cases rest with
      | nil =>
          rw [List.append_nil] at hall
          exact hr (hall ▸ Resolution.mem_all .normal)
      | cons q later =>
          obtain ⟨-, rfl⟩ | ⟨rfl, -⟩ := stops_of_all hall
          · refine hstop _ later rfl ?_
            rw [hframe]
            exact (StreamSizes.accepts_some_iff hplan).2 haccepts
          · exact hr List.mem_cons_self

/-- The entries of a call are those of the frames that it has cropped, in working order. -/
theorem Started.call_log (h : Started source request chroma c) (past : List Capture)
    (frames : Capture) :
    let d := c.run past
    ∃ taken : List Resolution, taken.Sublist Resolution.all ∧
      (∀ r, r ∈ taken ↔ d.HasCropped frames (d.crop frames).frames r) ∧
      (d.crop frames).events = taken.map d.cropEntry := by
  intro d
  by_cases hcut : Margins.ofRequest request = .zero
  · refine ⟨[], List.nil_sublist _, fun r => ⟨nofun, ?_⟩, ?_⟩
    · rintro ⟨plan, frame, out, hplan, -⟩
      rw [h.plan?_run, hcut, StreamSizes.planFor?_zero] at hplan
      cases hplan
    · rw [crop_of_zero h hcut]
      rfl
  · have hon : d.isEnabled = true := (h.isEnabled_run past).2 hcut
    obtain ⟨done, rest, hall, hdone, hframes, hevents, hstop⟩ :=
      @cropEach_log source request chroma Resolution.all d frames (h.blank_run past)
        Resolution.nodup_all
    have hnodup := Resolution.nodup_all
    rw [hall] at hnodup
    obtain ⟨hnodupDone, -, hapart⟩ := List.nodup_append.1 hnodup
    rw [crop_of_isEnabled hon, hframes, hevents, ← h.cropEntry_run past]
    refine ⟨_, ?_, fun r => ?_, rfl⟩
    · rw [hall]
      exact List.filter_sublist.trans (List.sublist_append_left _ _)
    · rw [List.mem_filter]
      constructor
      · rintro ⟨hr, hplanned⟩
        obtain ⟨plan, hplan⟩ := Option.isSome_iff_exists.1 hplanned
        have hdelivers := cropEach_delivers (h.blank_run past) hnodupDone hdone r hr
        rw [Delivers, hplan] at hdelivers
        obtain ⟨frame, out, hframe, hout, haccepts, hcrop⟩ := hdelivers
        exact ⟨plan, frame, out, (h.plan?_run past r).trans hplan, hframe, hout, haccepts, hcrop⟩
      · rintro ⟨plan, frame, out, hplan, hframe, hout, haccepts, hcrop⟩
        rw [h.plan?_run] at hplan
        refine ⟨?_, by rw [hplan]; rfl⟩
        exact mem_of_hasCropped hall hstop (fun q hq => get?_cropEach_of_notMem hq) hplan hframe
          hout haccepts hcrop

/-! ## The release -/

theorem length_buffers (c : Cropper) :
    c.buffers.length = Resolution.all.countP fun r => (c.stagingBytes? r).isSome := by
  rw [buffers, List.length_filterMap_eq_countP]
  simp only [stagingBytes?, Option.isSome_map]

end

/-! ## The whole run -/

/-- The log of a start that gives an answer, of every call that follows and of the
release. A start that succeeds logs its warnings and the buffers that it has set up, or
that nothing is cut; one that fails logs the buffers it was given and the error it
answers with. A call logs the frames that it has cropped, whichever way it ends, and the
release logs the number of buffers. -/
theorem log_of_run {allocator : Allocator} {source : StreamSizes} {request : MarginRequest}
    {chroma : ChromaMode}
    (hanswer : ∀ fault, (start allocator source request chroma).outcome ≠
      .error (.fault fault)) :
    let up := start allocator source request chroma
    let warned := (source.marginWarnings request).map Event.warned
    Event.Wording ∧
      ((∃ c, up.outcome = .ok c ∧ c.source = source ∧ c.margins = .ofRequest request ∧
          c.warnings = source.marginWarnings request ∧ up.events = warned ++ c.setUpLog ∧
          ∀ past, let d := c.run past
            (∀ r, (d.stagingBytes? r).isSome = (d.isEnabled && d.source.has r)) ∧
            (∀ frames, ∃ taken : List Resolution, taken.Sublist Resolution.all ∧
              (∀ r, r ∈ taken ↔ d.HasCropped frames (d.crop frames).frames r) ∧
              (d.crop frames).events = taken.map d.cropEntry) ∧
            d.release =
              [.released (Resolution.all.countP fun r => (d.stagingBytes? r).isSome)]) ∨
        ∃ error before a after, up.outcome = .error (.rejected error) ∧
          Margins.ofRequest request ≠ .zero ∧ source.present = before ++ a :: after ∧
          (∀ b ∈ before, Granted allocator (.ofRequest request) b) ∧
          allocator.Refuses ((Margins.ofRequest request).demand a) error ∧
          up.events = warned ++ before.map (Margins.ofRequest request).report ++
            [.startFailed error a.1]) := by
  intro up warned
  refine ⟨?_, ?_⟩
  · exact
      { warned := fun w => by cases w <;> rfl
        negative := fun _ _ => rfl
        exceedsWidth := fun _ _ _ _ => rfl
        exceedsHeight := fun _ _ _ _ => rfl
        disabled := ⟨rfl, rfl⟩
        allocated := fun _ _ _ _ => ⟨rfl, rfl⟩
        startFailed := fun _ _ => ⟨rfl, rfl⟩
        frameCropped := fun _ _ _ => ⟨rfl, rfl⟩
        released := fun _ => ⟨rfl, rfl⟩ }
  obtain ⟨c, hc, hevents⟩ | hfailed := start_log hanswer
  · have hstarted : Started source request chroma c := .upright hc
    have hfrozen := hstarted.frozen_planned []
    refine .inl ⟨c, hc, hfrozen.source, hfrozen.margins, hfrozen.warnings, hevents,
      fun past => ?_⟩
    refine ⟨hstarted.isSome_stagingBytes? past, hstarted.call_log past, ?_⟩
    rw [release, length_buffers]
  · exact .inr hfailed

/-- A stream asks for a negative margin and is set up; then a capture misses its high
frame, and the entry of that call is the one of the normal frame. -/
theorem log_of_missing_high :
    (∀ fault, (start .system ⟨⟨4, 2⟩, ⟨3, 5⟩⟩ ⟨2, 0, -1, 0⟩ .subsampled).outcome ≠
      .error (.fault fault)) ∧
    (start .system ⟨⟨4, 2⟩, ⟨3, 5⟩⟩ ⟨2, 0, -1, 0⟩ .subsampled).events =
      [.warned (.negative .top (-1)), .allocated .normal ⟨4, 2⟩ ⟨2, 2⟩ 6,
        .allocated .high ⟨3, 5⟩ ⟨1, 5⟩ 7] ∧
    ∃ c : Cropper,
      (start .system ⟨⟨4, 2⟩, ⟨3, 5⟩⟩ ⟨2, 0, -1, 0⟩ .subsampled).outcome = .ok c ∧
      (c.crop (.normalOnly ⟨⟨4, 2⟩, .filled 12 1⟩)).events =
        [.frameCropped .normal ⟨4, 2⟩ ⟨2, 2⟩] ∧
      c.HasCropped (.normalOnly ⟨⟨4, 2⟩, .filled 12 1⟩)
        (c.crop (.normalOnly ⟨⟨4, 2⟩, .filled 12 1⟩)).frames .normal ∧
      c.release = [.released 2] := by
  obtain ⟨c, hc, hlog, hcall, hheld⟩ : ∃ c : Cropper,
      (start .system ⟨⟨4, 2⟩, ⟨3, 5⟩⟩ ⟨2, 0, -1, 0⟩ .subsampled).outcome = .ok c ∧
      c.setUpLog = [.allocated .normal ⟨4, 2⟩ ⟨2, 2⟩ 6, .allocated .high ⟨3, 5⟩ ⟨1, 5⟩ 7] ∧
      (c.crop (.normalOnly ⟨⟨4, 2⟩, .filled 12 1⟩)).events =
        [.frameCropped .normal ⟨4, 2⟩ ⟨2, 2⟩] ∧
      (Resolution.all.countP fun r => (c.stagingBytes? r).isSome) = 2 :=
    ⟨_, by cbv, by cbv, by cbv, by cbv⟩
  have hanswer : ∀ fault, (start .system ⟨⟨4, 2⟩, ⟨3, 5⟩⟩ ⟨2, 0, -1, 0⟩ .subsampled).outcome ≠
      .error (.fault fault) := by
    intro fault hfault
    rw [hc] at hfault
    cases hfault
  obtain ⟨-, ⟨d, hd, -, -, -, hevents, hrun⟩ | ⟨_, _, _, _, hfailed, -⟩⟩ := log_of_run hanswer
  · rw [hc] at hd
    cases hd
    obtain ⟨-, hcalls, hrelease⟩ := hrun []
    obtain ⟨taken, -, htaken, hentries⟩ := hcalls (.normalOnly ⟨⟨4, 2⟩, .filled 12 1⟩)
    rw [show c.run [] = c from rfl] at htaken hentries hrelease
    rw [hcall, eq_comm, List.map_eq_singleton_iff] at hentries
    obtain ⟨r, rfl, hr⟩ := hentries
    obtain ⟨rfl, -⟩ : r = .normal ∧ _ := by simpa [cropEntry] using hr
    refine ⟨hanswer, ?_, c, hc, hcall, (htaken .normal).1 List.mem_cons_self, ?_⟩
    · rw [hevents, hlog]
      rfl
    · rw [hrelease, hheld]
  · rw [hc] at hfailed
    cases hfailed

end Cropper

end PlanarCrop
