import PlanarCrop.Proofs.StagingErasure

/-!
# What a started cropper is

The start of a cropper goes through the resolutions, asks an allocator for
memory and adds one plan after the other. What comes out is, up to the bytes
that the allocator handed out, the cropper written down here as `planned`: a
function of the sizes, the margins asked for and the chroma mode, with no
order and no allocator in it. No order, because what is read of a resolution
afterwards comes from the plan for that resolution, whenever it was added
(`read_foldl_addPlan_ite`).

Calls do not change that, so a cropper in use is the planned one as well,
however long it has been in use and however its calls ended. Two croppers of
the same stream are therefore the same up to scratch memory, and scratch
memory cannot be seen.
-/

namespace PlanarCrop

/-- The plan that a stream has for a resolution: none if nothing is cut, and none
if the stream has no such frames. -/
def StreamSizes.planFor? (source : StreamSizes) (margins : Margins) (chroma : ChromaMode)
    (r : Resolution) : Option Plan :=
  if margins = .zero then none
  else (source.get? r).map fun size => ⟨r, size, margins, chroma⟩

/-- The size with which the frames of a resolution leave. -/
def StreamSizes.leavingSize (source : StreamSizes) (margins : Margins)
    (chroma : ChromaMode) (r : Resolution) : Size :=
  ((source.planFor? margins chroma r).map Plan.cropped).getD (source.sizeOf r)

namespace StreamSizes

variable {source : StreamSizes} {margins : Margins} {chroma : ChromaMode} {r : Resolution}

theorem planFor?_zero (source : StreamSizes) (chroma : ChromaMode) (r : Resolution) :
    source.planFor? .zero chroma r = none :=
  if_pos rfl

theorem planFor?_of_has (hcut : margins ≠ .zero) (hhas : source.has r = true) :
    source.planFor? margins chroma r = some ⟨r, source.sizeOf r, margins, chroma⟩ := by
  rw [planFor?, if_neg hcut, get?, if_pos hhas]
  rfl

theorem planFor?_of_not_has (hhas : ¬source.has r = true) :
    source.planFor? margins chroma r = none := by
  rw [planFor?, get?, if_neg hhas]
  exact ite_self none

theorem isSome_planFor? (hcut : margins ≠ .zero) :
    (source.planFor? margins chroma r).isSome = source.has r := by
  rw [planFor?, if_neg hcut, Option.isSome_map, get?]
  cases source.has r <;> rfl

theorem eq_of_planFor? {plan : Plan} (h : source.planFor? margins chroma r = some plan) :
    plan = ⟨r, source.sizeOf r, margins, chroma⟩ := by
  rw [planFor?] at h
  split at h
  · cases h
  · obtain ⟨size, hsize, rfl⟩ := Option.map_eq_some_iff.1 h
    rw [get?] at hsize
    split at hsize
    · cases hsize
      rfl
    · cases hsize

theorem leavingSize_of_some {plan : Plan}
    (h : source.planFor? margins chroma r = some plan) :
    source.leavingSize margins chroma r = plan.cropped := by
  rw [leavingSize, h]
  rfl

theorem leavingSize_of_none (h : source.planFor? margins chroma r = none) :
    source.leavingSize margins chroma r = source.sizeOf r := by
  rw [leavingSize, h]
  rfl

end StreamSizes

/-- The slot of a plan before any frame is cropped. -/
def Plan.freshSlot (p : Plan) : Slot where
  plan := p
  staging := ⟨p.resolution, Bytes.zeros (p.cropped.lumaBytes * 3 / 2)⟩

theorem Plan.blank_freshSlot (p : Plan) : p.freshSlot.blank = p.freshSlot := by
  simp [Slot.blank, Staging.blank, freshSlot]

theorem Staging.resolution_of_allocate {allocator : Allocator} {r : Resolution} {n : Nat}
    {staging : Staging} (h : Staging.allocate allocator r n = .ok staging) :
    staging.resolution = r := by
  obtain ⟨data, -, h⟩ := bind_eq_ok_iff.1 h
  split at h
  · cases h
    rfl
  · cases h

theorem Size.frameBytes_eq_ok_iff {s : Size} {n : Nat} :
    s.frameBytes = .ok n ↔ s.lumaBytes * 3 < countLimit ∧ n = s.lumaBytes * 3 / 2 := by
  rcases Nat.lt_or_ge (s.lumaBytes * 3) countLimit with h | h
  · rw [Size.frameBytes_of_lt h]
    simp [h, eq_comm]
  · rw [Size.frameBytes_of_le h]
    simp [Nat.not_lt.2 h]

namespace Cropper

/-- What a started cropper is, up to the bytes in its staging buffers. -/
def planned (source : StreamSizes) (request : MarginRequest) (chroma : ChromaMode) :
    Cropper where
  margins := .ofRequest request
  chroma := chroma
  source := source
  output := ⟨source.leavingSize (.ofRequest request) chroma .normal,
    source.leavingSize (.ofRequest request) chroma .high⟩
  warnings := source.marginWarnings request
  normal := (source.planFor? (.ofRequest request) chroma .normal).map Plan.freshSlot
  high := (source.planFor? (.ofRequest request) chroma .high).map Plan.freshSlot

section
variable (source : StreamSizes) (request : MarginRequest) (chroma : ChromaMode)
  (r : Resolution)

theorem slot?_planned :
    (planned source request chroma).slot? r =
      (source.planFor? (.ofRequest request) chroma r).map Plan.freshSlot := by
  cases r <;> rfl

theorem sizeOf_output_planned :
    (planned source request chroma).output.sizeOf r =
      source.leavingSize (.ofRequest request) chroma r := by
  cases r <;> rfl

end

theorem blank_planned (source : StreamSizes) (request : MarginRequest)
    (chroma : ChromaMode) :
    (planned source request chroma).blank = planned source request chroma := by
  simp [blank, planned, Option.map_map, Function.comp_def, Plan.blank_freshSlot]

/-! ## The start -/

/-- The plan for one resolution added, with its slot still fresh. -/
def addPlan (c : Cropper) (added : Resolution × Size) : Cropper :=
  c.install ⟨added.1, added.2, c.margins, c.chroma⟩
    (Plan.freshSlot ⟨added.1, added.2, c.margins, c.chroma⟩).staging

theorem addPlan_keeps (c : Cropper) (added : Resolution × Size) :
    (c.addPlan added).margins = c.margins ∧ (c.addPlan added).chroma = c.chroma ∧
      (c.addPlan added).source = c.source ∧ (c.addPlan added).warnings = c.warnings := by
  obtain ⟨r, size⟩ := added
  cases r <;> exact ⟨rfl, rfl, rfl, rfl⟩

theorem slot?_addPlan (c : Cropper) (source : StreamSizes) (q r : Resolution) :
    (c.addPlan (r, source.sizeOf r)).slot? q =
      if q = r then some (Plan.freshSlot ⟨q, source.sizeOf q, c.margins, c.chroma⟩)
      else c.slot? q := by
  rw [addPlan, slot?_install]
  by_cases hq : q = r
  · rw [if_pos hq, if_pos hq, hq]
    rfl
  · rw [if_neg hq, if_neg hq]

theorem sizeOf_output_addPlan (c : Cropper) (source : StreamSizes) (q r : Resolution) :
    (c.addPlan (r, source.sizeOf r)).output.sizeOf q =
      if q = r then (source.sizeOf q).crop c.margins else c.output.sizeOf q := by
  rw [addPlan, sizeOf_output_install]
  by_cases hq : q = r
  · rw [if_pos hq, if_pos hq, hq]
    rfl
  · rw [if_neg hq, if_neg hq]

/-- Whatever no plan touches is as it was after plans are added. -/
theorem read_foldl_addPlan_eq {α : Type} {f : Cropper → α}
    (h : ∀ c added, f (c.addPlan added) = f c) {list : List (Resolution × Size)} :
    ∀ {c : Cropper}, f (list.foldl addPlan c) = f c := by
  induction list with
  | nil => intro c; rfl
  | cons added rest ih => intro c; exact ih.trans (h c added)

/-- Whatever only the plan for `q` touches comes from that plan if it is added, early or
late, and is as it was if it is not. -/
theorem read_foldl_addPlan_ite {α : Type} {source : StreamSizes} {q : Resolution}
    {f : Cropper → α} {g : Margins → ChromaMode → α}
    (h : ∀ c r, f (c.addPlan (r, source.sizeOf r)) =
      if q = r then g c.margins c.chroma else f c) {rs : List Resolution} : ∀ {c : Cropper},
      f ((rs.map fun r => (r, source.sizeOf r)).foldl addPlan c) =
        if q ∈ rs then g c.margins c.chroma else f c := by
  induction rs with
  | nil => intro c; rfl
  | cons r rest ih =>
      intro c
      obtain ⟨hmargins, hchroma, -, -⟩ := c.addPlan_keeps (r, source.sizeOf r)
      rw [List.map_cons, List.foldl_cons, ih, hmargins, hchroma, h]
      by_cases hrest : q ∈ rest
      · rw [if_pos hrest, if_pos (List.mem_cons_of_mem r hrest)]
      · rw [if_neg hrest]
        refine if_congr ?_ rfl rfl
        rw [List.mem_cons, or_iff_left hrest]

/-- The plans of all resolutions that a stream has make the planned cropper. -/
theorem foldl_addPlan_idle {source : StreamSizes} {request : MarginRequest}
    {chroma : ChromaMode} (hcut : Margins.ofRequest request ≠ .zero) :
    source.present.foldl addPlan (idle source request chroma) =
      planned source request chroma := by
  have hmem (q : Resolution) : q ∈ Resolution.all.filter source.has ↔ source.has q = true := by
    rw [List.mem_filter, and_iff_right q.mem_all]
  rw [source.present_eq]
  refine ext_slot? (read_foldl_addPlan_eq fun c a => (c.addPlan_keeps a).1)
    (read_foldl_addPlan_eq fun c a => (c.addPlan_keeps a).2.1)
    (read_foldl_addPlan_eq fun c a => (c.addPlan_keeps a).2.2.1)
    (StreamSizes.ext_sizeOf fun q => ?_)
    (read_foldl_addPlan_eq fun c a => (c.addPlan_keeps a).2.2.2) fun q => ?_
  · rw [sizeOf_output_planned]
    refine (read_foldl_addPlan_ite (f := fun c => c.output.sizeOf q)
      (g := fun margins _ => (source.sizeOf q).crop margins)
      fun c r => c.sizeOf_output_addPlan source q r).trans ?_
    by_cases hhas : source.has q = true
    · rw [if_pos ((hmem q).2 hhas),
        StreamSizes.leavingSize_of_some (StreamSizes.planFor?_of_has hcut hhas)]
      rfl
    · rw [if_neg (mt (hmem q).1 hhas),
        StreamSizes.leavingSize_of_none (StreamSizes.planFor?_of_not_has hhas)]
      rfl
  · rw [slot?_planned]
    refine (read_foldl_addPlan_ite (f := fun c => c.slot? q)
      (g := fun margins chroma =>
        some (Plan.freshSlot ⟨q, source.sizeOf q, margins, chroma⟩))
      fun c r => c.slot?_addPlan source q r).trans ?_
    by_cases hhas : source.has q = true
    · rw [if_pos ((hmem q).2 hhas), StreamSizes.planFor?_of_has hcut hhas]
      rfl
    · rw [if_neg (mt (hmem q).1 hhas), StreamSizes.planFor?_of_not_has hhas]
      cases q <;> rfl

theorem blank_install (c : Cropper) (plan : Plan) (staging : Staging) :
    (c.install plan staging).blank = c.blank.install plan staging.blank := by
  obtain ⟨r, size, margins, chroma⟩ := plan
  cases r <;> rfl

theorem blank_of_setUp {allocator : Allocator} :
    ∀ {list : List (Resolution × Size)} {c started : Cropper},
      (setUp allocator list c).outcome = .ok started →
        started.blank = list.foldl addPlan c.blank := by
  intro list
  induction list with
  | nil =>
      intro c started h
      cases h
      rfl
  | cons added rest ih =>
      obtain ⟨r, size⟩ := added
      intro c started h
      rw [setUp] at h
      simp only [] at h
      split at h
      · cases h
      · next bytes hbytes =>
          split at h
          · cases h
          · next staging hstaging =>
              obtain ⟨-, rfl⟩ := Size.frameBytes_eq_ok_iff.1 hbytes
              have hfresh : staging.blank =
                  (Plan.freshSlot ⟨r, size, c.margins, c.chroma⟩).staging := by
                rw [Staging.blank, Staging.size_of_allocate hstaging,
                  Staging.resolution_of_allocate hstaging]
                rfl
              rw [ih h, blank_install, hfresh]
              rfl

theorem blank_of_start {allocator : Allocator} {source : StreamSizes}
    {request : MarginRequest} {chroma : ChromaMode} {c : Cropper}
    (h : (start allocator source request chroma).outcome = .ok c) :
    c.blank = planned source request chroma := by
  rw [start] at h
  simp only [] at h
  split at h
  · next henabled =>
      have hmargins : Margins.ofRequest request ≠ .zero := by
        intro hzero
        rw [isEnabled, idle, Margins.isZero_iff.2 hzero] at henabled
        cases henabled
      exact (blank_of_setUp h).trans (foldl_addPlan_idle hmargins)
  · next hdisabled =>
      have hmargins : Margins.ofRequest request = .zero := by
        refine Margins.isZero_iff.1 ?_
        simpa [isEnabled, idle] using hdisabled
      cases h
      simp [planned, StreamSizes.planFor?, StreamSizes.leavingSize, hmargins, idle, blank,
        StreamSizes.sizeOf]

/-- Whatever the allocator handed out and whatever was cropped since, a cropper in
use is the planned one, up to the bytes in its staging buffers. -/
theorem blank_run_of_start {allocator : Allocator} {source : StreamSizes}
    {request : MarginRequest} {chroma : ChromaMode} {c : Cropper}
    (h : (start allocator source request chroma).outcome = .ok c) (past : List Capture) :
    (c.run past).blank = planned source request chroma :=
  (c.blank_run past).trans (blank_of_start h)

/-- So it answers every call as the planned one does on its first. -/
theorem crop_agrees_planned {allocator : Allocator} {source : StreamSizes}
    {request : MarginRequest} {chroma : ChromaMode} {c : Cropper}
    (h : (start allocator source request chroma).outcome = .ok c) (past : List Capture)
    (frames : Capture) :
    ((c.run past).crop frames).Agrees ((planned source request chroma).crop frames) := by
  refine crop_agrees ?_ frames
  rw [blank_run_of_start h past, blank_planned]

/-- What a call answers and what it leaves of the frames depends on the stream and
on these frames alone: not on the allocator, not on the bytes it handed out, and
not on the frames that were cropped or refused before. -/
theorem crop_independent_of_history {allocator₁ allocator₂ : Allocator}
    {source : StreamSizes} {request : MarginRequest} {chroma : ChromaMode}
    {c₁ c₂ : Cropper} (h₁ : (start allocator₁ source request chroma).outcome = .ok c₁)
    (h₂ : (start allocator₂ source request chroma).outcome = .ok c₂)
    (past₁ past₂ : List Capture) (frames : Capture) :
    ((c₁.run past₁).crop frames).outcome = ((c₂.run past₂).crop frames).outcome ∧
      ((c₁.run past₁).crop frames).frames = ((c₂.run past₂).crop frames).frames ∧
      ((c₁.run past₁).crop frames).events = ((c₂.run past₂).crop frames).events := by
  obtain ⟨houtcome₁, hframes₁, hevents₁⟩ := crop_agrees_planned h₁ past₁ frames
  obtain ⟨houtcome₂, hframes₂, hevents₂⟩ := crop_agrees_planned h₂ past₂ frames
  exact ⟨houtcome₁.trans houtcome₂.symm, hframes₁.trans hframes₂.symm,
    hevents₁.trans hevents₂.symm⟩

/-- Clean memory and a cropped frame in the past of one cropper, dirty memory and a
refused set in the past of the other. -/
theorem crop_independent_of_dirt :
    ∃ c₁ c₂ : Cropper,
      (start .system ⟨⟨4, 2⟩, ⟨2, 2⟩⟩ ⟨1, 0, 0, 0⟩ .subsampled).outcome = .ok c₁ ∧
      (start (fun _ n => .ok (.filled n 0xEE)) ⟨⟨4, 2⟩, ⟨2, 2⟩⟩ ⟨1, 0, 0, 0⟩
        .subsampled).outcome = .ok c₂ ∧
      ((c₁.run [⟨⟨⟨4, 2⟩, .filled 12 7⟩, some ⟨⟨2, 2⟩, .filled 6 9⟩⟩]).crop
          ⟨⟨⟨4, 2⟩, .filled 12 1⟩, some ⟨⟨2, 2⟩, .filled 6 2⟩⟩).frames =
        ((c₂.run [⟨⟨⟨4, 2⟩, .filled 12 7⟩, none⟩]).crop
          ⟨⟨⟨4, 2⟩, .filled 12 1⟩, some ⟨⟨2, 2⟩, .filled 6 2⟩⟩).frames := by
  obtain ⟨c₁, h₁⟩ : ∃ c : Cropper, (start .system ⟨⟨4, 2⟩, ⟨2, 2⟩⟩ ⟨1, 0, 0, 0⟩
      .subsampled).outcome = .ok c := ⟨_, by cbv⟩
  obtain ⟨c₂, h₂⟩ : ∃ c : Cropper, (start (fun _ n => .ok (.filled n 0xEE))
      ⟨⟨4, 2⟩, ⟨2, 2⟩⟩ ⟨1, 0, 0, 0⟩ .subsampled).outcome = .ok c := ⟨_, by cbv⟩
  obtain ⟨-, hframes, -⟩ := crop_independent_of_history h₁ h₂ _ _ _
  exact ⟨c₁, c₂, h₁, h₂, hframes⟩

end Cropper

end PlanarCrop