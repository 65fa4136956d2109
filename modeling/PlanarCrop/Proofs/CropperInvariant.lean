import PlanarCrop.Settings
import PlanarCrop.Proofs.PlannedCropper

/-!
# What holds of a cropper in use

A cropper keeps the same facts in several places: the margins stand in it and in
each of its plans, the size that frames leave with stands in the plan and among
the announced sizes, and a staging buffer has a length that the plan asks for.
`Consistent` says that these places agree, and that there are plans for just the
resolutions that the stream has.

Nothing of this has to be carried along a run. A call changes the bytes of
staging buffers and no more, which is what `blank_run` says; `Frozen` spells out
what a cropper and a later state of it have in common, and a cropper is as
consistent as any that it has so much in common with. So it is enough to look at
`planned`, where each place is written down as a function of the stream.

However a cropper is started, the start comes down to sizes, margins and a chroma
mode (`Started.exists_start`); the ways differ in where those come from.
-/

namespace PlanarCrop

namespace Cropper

/-- The cropper came of a start that succeeded, for frames that arrive with the
sizes `source`: a start with these sizes, one with sizes that are rotated first,
or one from settings. -/
inductive Started (source : StreamSizes) (request : MarginRequest) (chroma : ChromaMode)
    (c : Cropper) : Prop where
  | upright {allocator : Allocator}
      (hstart : (start allocator source request chroma).outcome = .ok c)
  | rotated {allocator : Allocator} {capture : StreamSizes} {rotation : Rotation}
      (hsource : rotation.applyStream capture = source)
      (hstart : (startRotated allocator capture rotation request chroma).outcome = .ok c)
  | configured {allocator : Allocator} {capture : StreamSizes} {s : Settings}
      (hsource : s.rotation.applyStream capture = source)
      (hrequest : s.margins = request) (hchroma : s.chroma = chroma)
      (hstart : (ofSettings allocator capture s).outcome = .ok c)

/-- The parts of a cropper agree with one another. -/
structure Consistent (c : Cropper) : Prop where
  idle : c.isEnabled = false →
    (∀ r, c.plan? r = none ∧ c.stagingBytes? r = none) ∧ c.output = c.source
  plan_iff : c.isEnabled = true → ∀ r, (c.plan? r).isSome = c.source.has r
  staging_iff : c.isEnabled = true → ∀ r, (c.stagingBytes? r).isSome = c.source.has r
  plan_eq : ∀ r plan, c.plan? r = some plan →
    plan = ⟨r, c.source.sizeOf r, c.margins, c.chroma⟩
  leaves : ∀ r plan, c.plan? r = some plan → plan.cropped = c.output.sizeOf r
  staging_eq : ∀ r plan, c.plan? r = some plan →
    c.stagingBytes? r =
      some (3 * (plan.cropped.width.toNat * plan.cropped.height.toNat) / 2)
  passes : ∀ r, c.plan? r = none → c.output.sizeOf r = c.source.sizeOf r

/-- The cropper `d` has everything in common with `c` but the bytes in its staging
buffers. -/
structure Frozen (d c : Cropper) : Prop where
  margins : d.margins = c.margins
  chroma : d.chroma = c.chroma
  source : d.source = c.source
  output : d.output = c.output
  warnings : d.warnings = c.warnings
  plan? : ∀ r, d.plan? r = c.plan? r
  stagingBytes? : ∀ r, d.stagingBytes? r = c.stagingBytes? r

/-! ## What a run leaves alone -/

theorem plan?_blank (c : Cropper) (r : Resolution) : c.blank.plan? r = c.plan? r := by
  rw [Cropper.plan?, Cropper.plan?, slot?_blank, Option.map_map]
  rfl

theorem stagingBytes?_blank (c : Cropper) (r : Resolution) :
    c.blank.stagingBytes? r = c.stagingBytes? r := by
  rw [Cropper.stagingBytes?, Cropper.stagingBytes?, slot?_blank, Option.map_map]
  refine congrArg (fun f => (c.slot? r).map f) (funext fun slot => ?_)
  exact slot.staging.size_blank

theorem Frozen.of_blank {d c : Cropper} (h : d.blank = c.blank) : d.Frozen c where
  margins := show d.blank.margins = c.blank.margins by rw [h]
  chroma := show d.blank.chroma = c.blank.chroma by rw [h]
  source := show d.blank.source = c.blank.source by rw [h]
  output := show d.blank.output = c.blank.output by rw [h]
  warnings := show d.blank.warnings = c.blank.warnings by rw [h]
  plan? r := by rw [← plan?_blank d, h, plan?_blank]
  stagingBytes? r := by rw [← stagingBytes?_blank d, h, stagingBytes?_blank]

theorem Frozen.isEnabled {d c : Cropper} (h : d.Frozen c) : d.isEnabled = c.isEnabled := by
  rw [Cropper.isEnabled, Cropper.isEnabled, h.margins]

theorem Consistent.of_frozen {d c : Cropper} (hc : c.Consistent) (h : d.Frozen c) :
    d.Consistent where
  idle hoff := by
    rw [h.isEnabled] at hoff
    obtain ⟨hnone, houtput⟩ := hc.idle hoff
    refine ⟨fun r => ?_, ?_⟩
    · rw [h.plan?, h.stagingBytes?]
      exact hnone r
    · rw [h.output, h.source]
      exact houtput
  plan_iff hon r := by
    rw [h.isEnabled] at hon
    rw [h.plan?, h.source]
    exact hc.plan_iff hon r
  staging_iff hon r := by
    rw [h.isEnabled] at hon
    rw [h.stagingBytes?, h.source]
    exact hc.staging_iff hon r
  plan_eq r plan hplan := by
    rw [h.plan?] at hplan
    rw [h.source, h.margins, h.chroma]
    exact hc.plan_eq r plan hplan
  leaves r plan hplan := by
    rw [h.plan?] at hplan
    rw [h.output]
    exact hc.leaves r plan hplan
  staging_eq r plan hplan := by
    rw [h.plan?] at hplan
    rw [h.stagingBytes?]
    exact hc.staging_eq r plan hplan
  passes r hnone := by
    rw [h.plan?] at hnone
    rw [h.output, h.source]
    exact hc.passes r hnone

/-! ## The planned cropper -/

section
variable (source : StreamSizes) (request : MarginRequest) (chroma : ChromaMode)

theorem plan?_planned (r : Resolution) :
    (planned source request chroma).plan? r =
      source.planFor? (.ofRequest request) chroma r := by
  rw [Cropper.plan?, slot?_planned, Option.map_map]
  exact Option.map_id_apply

theorem stagingBytes?_planned (r : Resolution) :
    (planned source request chroma).stagingBytes? r =
      (source.planFor? (.ofRequest request) chroma r).map
        fun plan => plan.cropped.lumaBytes * 3 / 2 := by
  rw [Cropper.stagingBytes?, slot?_planned, Option.map_map]
  exact congrArg (fun f => Option.map f _) (funext fun plan => Bytes.size_zeros _)

theorem isEnabled_planned :
    (planned source request chroma).isEnabled = true ↔
      Margins.ofRequest request ≠ .zero := by
  show (!(Margins.ofRequest request).isZero) = true ↔ _
  rw [Bool.not_eq_true', ← Bool.not_eq_true, Margins.isZero_iff]

end

theorem consistent_planned (source : StreamSizes) (request : MarginRequest)
    (chroma : ChromaMode) : (planned source request chroma).Consistent where
  idle hoff := by
    have hzero : Margins.ofRequest request = .zero := by
      refine Classical.byContradiction fun hcut => ?_
      rw [(isEnabled_planned source request chroma).2 hcut] at hoff
      cases hoff
    have hnone (r : Resolution) : source.planFor? (.ofRequest request) chroma r = none := by
      rw [hzero]
      exact StreamSizes.planFor?_zero source chroma r
    refine ⟨fun r => ?_, StreamSizes.ext_sizeOf fun r => ?_⟩
    · rw [plan?_planned, stagingBytes?_planned, hnone]
      exact ⟨rfl, rfl⟩
    · rw [sizeOf_output_planned]
      exact StreamSizes.leavingSize_of_none (hnone r)
  plan_iff hon r := by
    rw [plan?_planned]
    exact StreamSizes.isSome_planFor? ((isEnabled_planned source request chroma).1 hon)
  staging_iff hon r := by
    rw [stagingBytes?_planned, Option.isSome_map]
    exact StreamSizes.isSome_planFor? ((isEnabled_planned source request chroma).1 hon)
  plan_eq r plan hplan := by
    rw [plan?_planned] at hplan
    exact StreamSizes.eq_of_planFor? hplan
  leaves r plan hplan := by
    rw [plan?_planned] at hplan
    rw [sizeOf_output_planned, StreamSizes.leavingSize_of_some hplan]
  staging_eq r plan hplan := by
    rw [plan?_planned] at hplan
    rw [stagingBytes?_planned, hplan, Option.map_some, Size.lumaBytes, Nat.mul_comm]
  passes r hnone := by
    rw [plan?_planned] at hnone
    rw [sizeOf_output_planned]
    exact StreamSizes.leavingSize_of_none hnone

/-! ## Started croppers -/

section
variable {source : StreamSizes} {request : MarginRequest} {chroma : ChromaMode}
  {c : Cropper}

theorem Started.exists_start (h : Started source request chroma c) :
    ∃ allocator, (start allocator source request chroma).outcome = .ok c := by
  cases h with
  | upright hstart => exact ⟨_, hstart⟩
  | rotated hsource hstart =>
      subst hsource
      exact ⟨_, hstart⟩
  | configured hsource hrequest hchroma hstart =>
      subst hsource hrequest hchroma
      exact ⟨_, hstart⟩

theorem Started.blank_run (h : Started source request chroma c) (past : List Capture) :
    (c.run past).blank = planned source request chroma := by
  obtain ⟨allocator, hstart⟩ := h.exists_start
  exact blank_run_of_start hstart past

theorem Started.frozen_planned (h : Started source request chroma c)
    (past : List Capture) : (c.run past).Frozen (planned source request chroma) :=
  Frozen.of_blank ((h.blank_run past).trans (blank_planned source request chroma).symm)

theorem Started.consistent (h : Started source request chroma c) (past : List Capture) :
    (c.run past).Consistent :=
  (consistent_planned source request chroma).of_frozen (h.frozen_planned past)

/-- However it was started and whatever calls it has seen, a cropper is consistent,
it is the one that its start has made but for the bytes in its staging buffers, and
it works for the stream it was started for. -/
theorem consistent_run (h : Started source request chroma c) (past : List Capture) :
    (c.run past).Consistent ∧ (c.run past).Frozen c ∧
      (c.run past).source = source ∧ (c.run past).margins = .ofRequest request ∧
      (c.run past).chroma = chroma ∧
      (c.run past).warnings = source.marginWarnings request := by
  have hplanned := h.frozen_planned past
  refine ⟨h.consistent past, Frozen.of_blank (Cropper.blank_run c past), ?_⟩
  exact ⟨hplanned.source, hplanned.margins, hplanned.chroma, hplanned.warnings⟩

end

/-- A cropper from settings, for frames that come a quarter turned, that has cropped a
capture, refused one without its high frame and cropped another. -/
theorem consistent_after_refusal :
    ∃ c : Cropper,
      Started ⟨⟨4, 6⟩, ⟨2, 4⟩⟩ ⟨1, 0, 3, -3⟩ .subsampled c ∧
      (c.run [⟨⟨⟨4, 6⟩, .filled 36 7⟩, some ⟨⟨2, 4⟩, .filled 12 9⟩⟩,
        ⟨⟨⟨4, 6⟩, .filled 36 5⟩, none⟩,
        ⟨⟨⟨4, 6⟩, .filled 40 1⟩, some ⟨⟨2, 4⟩, .filled 12 2⟩⟩]).Consistent ∧
      (c.run [⟨⟨⟨4, 6⟩, .filled 36 7⟩, some ⟨⟨2, 4⟩, .filled 12 9⟩⟩,
        ⟨⟨⟨4, 6⟩, .filled 36 5⟩, none⟩,
        ⟨⟨⟨4, 6⟩, .filled 40 1⟩, some ⟨⟨2, 4⟩, .filled 12 2⟩⟩]).Frozen c ∧
      c.stagingBytes? .normal = some 13 ∧ c.stagingBytes? .high = some 1 := by
  obtain ⟨c, hstart, hnormal, hhigh⟩ : ∃ c : Cropper,
      (ofSettings .system ⟨⟨6, 4⟩, ⟨4, 2⟩⟩ ⟨⟨1, 0, 3, -3⟩, .subsampled, .quarter⟩).outcome =
          .ok c ∧
        c.stagingBytes? .normal = some 13 ∧ c.stagingBytes? .high = some 1 :=
    ⟨_, by cbv, by cbv, by cbv⟩
  have hstarted : Started ⟨⟨4, 6⟩, ⟨2, 4⟩⟩ ⟨1, 0, 3, -3⟩ .subsampled c :=
    .configured rfl rfl rfl hstart
  obtain ⟨hconsistent, hfrozen, -⟩ := consistent_run hstarted _
  exact ⟨c, hstarted, hconsistent, hfrozen, hnormal, hhigh⟩

end Cropper

end PlanarCrop
