import Mathlib.Data.List.Nodup
import PlanarCrop.Proofs.MarginWarnings
import PlanarCrop.Proofs.MemoryRequests

/-!
# Frames that arrive a quarter turned

Frames that are turned before they arrive have their sides exchanged, so margins that are
meant for rows then cut columns. Starting a cropper for such frames should come to the
same as starting one for the frames as they were captured, with the margins of the two
axes exchanged. This file shows that it does, for everything that a start brings about.

Exchanging the axes is called `transpose` for whatever has axes: sizes, margins, plans,
warnings. Every computation that a start makes commutes with it, and the byte counts do
not see it at all. So the two starts ask for the same memory, request by request, and
the allocator cannot tell them apart (`setUp_transpose`, by induction on the resolutions
that are set up).

Only the order of the warnings does not commute, since rows come before columns in both
starts. But which warnings there are was stated without an order, and no warning is given
twice, so the two lists are the same up to their order (`marginWarnings_transpose`).
-/

namespace PlanarCrop

/-! ## Exchanging the axes -/

def Axis.transpose : Axis → Axis
  | .horizontal => .vertical
  | .vertical => .horizontal

def Edge.transpose : Edge → Edge
  | .left => .top
  | .right => .bottom
  | .top => .left
  | .bottom => .right

def MarginRequest.transpose (m : MarginRequest) : MarginRequest :=
  ⟨m.top, m.bottom, m.left, m.right⟩

def Margins.transpose (m : Margins) : Margins := ⟨m.top, m.bottom, m.left, m.right⟩

def StreamSizes.transpose (s : StreamSizes) : StreamSizes :=
  ⟨s.normal.transpose, s.high.transpose⟩

def Plan.transpose (p : Plan) : Plan :=
  { p with source := p.source.transpose, margins := p.margins.transpose }

/-- The warning that is due when the axes are exchanged. -/
def Warning.transpose : Warning → Warning
  | .negative edge value => .negative edge.transpose value
  | .exceedsWidth r left right width => .exceedsHeight r left right width
  | .exceedsHeight r top bottom height => .exceedsWidth r top bottom height

theorem Size.crop_transpose (size : Size) (m : Margins) :
    size.transpose.crop m = (size.crop m.transpose).transpose := rfl

theorem Size.frameBytes_transpose (size : Size) :
    size.transpose.frameBytes = size.frameBytes := by
  rw [frameBytes, lumaBytes_transpose, frameBytes]

theorem Margins.ofRequest_transpose (request : MarginRequest) :
    Margins.ofRequest request.transpose = (Margins.ofRequest request).transpose := rfl

theorem Margins.transpose_eq_zero_iff {m : Margins} : m.transpose = zero ↔ m = zero := by
  constructor
  · intro h
    rw [show m = m.transpose.transpose from rfl, h]
    rfl
  · rintro rfl
    rfl

theorem Margins.isZero_transpose (m : Margins) : m.transpose.isZero = m.isZero := by
  rw [Bool.eq_iff_iff, isZero_iff, isZero_iff]
  exact transpose_eq_zero_iff

theorem Plan.cropped_transpose (p : Plan) : p.transpose.cropped = p.cropped.transpose :=
  p.source.crop_transpose p.margins.transpose

theorem Rotation.applyStream_of_quarter {rotation : Rotation}
    (hturn : rotation = .quarter ∨ rotation = .threeQuarters) (s : StreamSizes) :
    rotation.applyStream s = s.transpose := by
  rcases hturn with rfl | rfl <;> rfl

namespace StreamSizes

variable {source : StreamSizes} {margins : Margins} {chroma : ChromaMode} {r : Resolution}

theorem sizeOf_transpose : source.transpose.sizeOf r = (source.sizeOf r).transpose := by
  cases r <;> rfl

/-- Exchanging the axes neither adds a resolution nor takes one away. -/
theorem has_transpose : source.transpose.has r = source.has r := by
  cases r with
  | normal => rfl
  | high => exact congrArg Bool.not source.high.isEmpty_transpose

theorem present_transpose :
    source.transpose.present = source.present.map fun a => (a.1, a.2.transpose) := by
  have hhas : source.transpose.has = source.has := funext fun _ => has_transpose
  rw [present_eq, present_eq, hhas, List.map_map]
  exact List.map_congr_left fun r _ => Prod.ext rfl sizeOf_transpose

theorem planFor?_transpose :
    source.transpose.planFor? margins chroma r =
      (source.planFor? margins.transpose chroma r).map Plan.transpose := by
  rw [planFor?, planFor?]
  by_cases hzero : margins = .zero
  · rw [if_pos hzero, if_pos (Margins.transpose_eq_zero_iff.2 hzero)]
    rfl
  · rw [if_neg hzero, if_neg fun h => hzero (Margins.transpose_eq_zero_iff.1 h), get?, get?,
      has_transpose, sizeOf_transpose]
    cases source.has r <;> rfl

theorem leavingSize_transpose :
    source.transpose.leavingSize margins chroma r =
      (source.leavingSize margins.transpose chroma r).transpose := by
  rw [leavingSize, leavingSize, planFor?_transpose, sizeOf_transpose]
  cases source.planFor? margins.transpose chroma r <;> rfl

end StreamSizes

/-! ## The warnings -/

namespace Warning

theorem transpose_transpose (w : Warning) : w.transpose.transpose = w := by
  cases w with
  | negative edge value => cases edge <;> rfl
  | exceedsWidth r left right width => rfl
  | exceedsHeight r top bottom height => rfl

theorem subject_transpose (w : Warning) :
    w.transpose.subject = w.subject.map fun (r, axis) => (r, axis.transpose) := by
  cases w <;> rfl

theorem excess_transpose (w : Warning) : w.transpose.excess = w.excess := by
  cases w <;> rfl

theorem Warranted.transpose {source : StreamSizes} {request : MarginRequest} {cut : Margins}
    {w : Warning} (h : w.Warranted source request cut) :
    w.transpose.Warranted source.transpose request.transpose cut.transpose := by
  cases h with
  | @negative edge hneg =>
      have hget : request.get edge = request.transpose.get edge.transpose := by
        cases edge <;> rfl
      rw [hget] at hneg ⊢
      exact .negative hneg
  | @exceeds r axis hhas hmore =>
      have hside : (source.sizeOf r).side axis =
          (source.transpose.sizeOf r).side axis.transpose := by
        rw [StreamSizes.sizeOf_transpose]
        cases axis <;> rfl
      have htaken : cut.taken axis = cut.transpose.taken axis.transpose := by
        cases axis <;> rfl
      have hwarning : (Warning.exceeds r cut (source.sizeOf r) axis).transpose =
          Warning.exceeds r cut.transpose (source.transpose.sizeOf r) axis.transpose := by
        rw [StreamSizes.sizeOf_transpose]
        cases axis <;> rfl
      rw [hwarning]
      rw [hside, htaken] at hmore
      exact .exceeds (StreamSizes.has_transpose.trans hhas) hmore

end Warning

theorem StreamSizes.nodup_marginWarnings (source : StreamSizes) (request : MarginRequest) :
    (source.marginWarnings request).Nodup :=
  (source.pairwise_marginWarnings request).imp fun hlt heq => by
    rw [heq] at hlt
    exact Nat.lt_irrefl _ hlt

theorem StreamSizes.marginWarnings_transpose (source : StreamSizes)
    (request : MarginRequest) :
    List.Perm (source.transpose.marginWarnings request)
      ((source.marginWarnings request.transpose).map Warning.transpose) := by
  have hinj : Function.Injective Warning.transpose :=
    Function.LeftInverse.injective Warning.transpose_transpose
  refine (List.perm_ext_iff_of_nodup (nodup_marginWarnings _ _)
    (List.Nodup.map hinj (nodup_marginWarnings _ _))).2 fun w => ?_
  rw [mem_marginWarnings_iff, List.mem_map]
  constructor
  · intro hw
    exact ⟨w.transpose, mem_marginWarnings_iff.2 hw.transpose, w.transpose_transpose⟩
  · rintro ⟨v, hv, rfl⟩
    exact (mem_marginWarnings_iff.1 hv).transpose

namespace Cropper

/-! ## The start -/

theorem setUp_transpose {allocator : Allocator} :
    ∀ {list : List (Resolution × Size)} {c d : Cropper},
      c.margins = d.margins.transpose →
        let turned := setUp allocator (list.map fun a => (a.1, a.2.transpose)) c
        let upright := setUp allocator list d
        turned.requests = upright.requests ∧
          ∀ failure, turned.outcome = .error failure ↔ upright.outcome = .error failure := by
  intro list
  induction list with
  | nil =>
      intro c d _
      exact ⟨rfl, fun _ => ⟨nofun, nofun⟩⟩
  | cons a rest ih =>
      obtain ⟨r, size⟩ := a
      intro c d hmargins
      have hbytes : Plan.croppedBytes ⟨r, size.transpose, c.margins, c.chroma⟩ =
          Plan.croppedBytes ⟨r, size, d.margins, d.chroma⟩ := by
        rw [Plan.croppedBytes, Plan.cropped, hmargins, Size.crop_transpose,
          Size.frameBytes_transpose]
        rfl
      simp only [List.map_cons]
      rw [setUp, setUp]
      simp only [hbytes]
      split
      · exact ⟨rfl, fun _ => Iff.rfl⟩
      · split
        · exact ⟨rfl, fun _ => Iff.rfl⟩
        · next bytes _ _ staging _ =>
            have hrest : (c.install ⟨r, size.transpose, c.margins, c.chroma⟩ staging).margins =
                (d.install ⟨r, size, d.margins, d.chroma⟩ staging).margins.transpose := by
              rw [margins_install, margins_install, hmargins]
            obtain ⟨hrequests, hfailures⟩ := ih hrest
            exact ⟨congrArg ((r, bytes) :: ·) hrequests, hfailures⟩

theorem start_transpose (allocator : Allocator) (source : StreamSizes)
    (request : MarginRequest) (chroma : ChromaMode) :
    let turned := start allocator source.transpose request chroma
    let upright := start allocator source request.transpose chroma
    turned.requests = upright.requests ∧
      ∀ failure, turned.outcome = .error failure ↔ upright.outcome = .error failure := by
  have henabled : (idle source.transpose request chroma).isEnabled =
      (idle source request.transpose chroma).isEnabled :=
    congrArg Bool.not (Margins.ofRequest request).isZero_transpose.symm
  simp only [start, henabled]
  split
  · rw [StreamSizes.present_transpose]
    exact setUp_transpose rfl
  · simp

/-! ## What is started -/

/-- The cropper `a` is for frames with exchanged sides what `b` is for the frames as they
were captured. -/
structure Turned (a b : Cropper) : Prop where
  isEnabled : a.isEnabled = b.isEnabled
  plan? : ∀ r, a.plan? r = (b.plan? r).map Plan.transpose
  stagingBytes? : ∀ r, a.stagingBytes? r = b.stagingBytes? r
  source : a.source = b.source.transpose
  output : a.output = b.output.transpose
  present : ∀ r, a.source.has r = b.source.has r ∧ a.output.has r = b.output.has r
  warnings : List.Perm a.warnings (b.warnings.map Warning.transpose)
  count : a.warnings.length = b.warnings.length
  exceeded : ∀ r axis excess,
    (∃ w ∈ a.warnings, w.subject = some (r, axis) ∧ w.excess = excess) ↔
      ∃ w ∈ b.warnings, w.subject = some (r, axis.transpose) ∧ w.excess = excess

theorem exceeded_of_perm {v w : List Warning} (h : List.Perm v (w.map Warning.transpose))
    {r : Resolution} {axis : Axis} {excess : Nat} :
    (∃ a ∈ v, a.subject = some (r, axis) ∧ a.excess = excess) ↔
      ∃ b ∈ w, b.subject = some (r, axis.transpose) ∧ b.excess = excess := by
  constructor
  · rintro ⟨a, ha, hsubject, hexcess⟩
    obtain ⟨b, hb, rfl⟩ := List.mem_map.1 (h.mem_iff.1 ha)
    refine ⟨b, hb, ?_, b.excess_transpose.symm.trans hexcess⟩
    rw [← b.transpose_transpose, Warning.subject_transpose, hsubject]
    rfl
  · rintro ⟨b, hb, hsubject, hexcess⟩
    refine ⟨b.transpose, h.mem_iff.2 (List.mem_map_of_mem hb), ?_,
      b.excess_transpose.trans hexcess⟩
    rw [Warning.subject_transpose, hsubject]
    cases axis <;> rfl

theorem Started.turned {source : StreamSizes} {request : MarginRequest} {chroma : ChromaMode}
    {a b : Cropper} (ha : Started source.transpose request chroma a)
    (hb : Started source request.transpose chroma b) : a.Turned b := by
  have hfa : a.Frozen (planned source.transpose request chroma) := ha.frozen_planned []
  have hfb : b.Frozen (planned source request.transpose chroma) := hb.frozen_planned []
  have hsource : a.source = b.source.transpose := by
    rw [hfa.source, hfb.source]
    rfl
  have houtput : a.output = b.output.transpose := by
    rw [hfa.output, hfb.output]
    refine StreamSizes.ext_sizeOf fun r => ?_
    rw [StreamSizes.sizeOf_transpose, sizeOf_output_planned, sizeOf_output_planned]
    exact StreamSizes.leavingSize_transpose
  have hwarnings : List.Perm a.warnings (b.warnings.map Warning.transpose) := by
    rw [hfa.warnings, hfb.warnings]
    exact source.marginWarnings_transpose request
  refine ⟨?_, fun r => ?_, fun r => ?_, hsource, houtput, fun r => ?_, hwarnings, ?_,
    fun _ _ _ => exceeded_of_perm hwarnings⟩
  · rw [hfa.isEnabled, hfb.isEnabled]
    exact congrArg Bool.not (Margins.ofRequest request).isZero_transpose.symm
  · rw [hfa.plan?, hfb.plan?, plan?_planned, plan?_planned]
    exact StreamSizes.planFor?_transpose
  · rw [hfa.stagingBytes?, hfb.stagingBytes?, stagingBytes?_planned, stagingBytes?_planned,
      StreamSizes.planFor?_transpose, Option.map_map, Margins.ofRequest_transpose]
    refine congrArg (fun f => Option.map f _) (funext fun plan => ?_)
    show plan.transpose.cropped.lumaBytes * 3 / 2 = _
    rw [Plan.cropped_transpose, Size.lumaBytes_transpose]
  · rw [hsource, houtput]
    exact ⟨StreamSizes.has_transpose, StreamSizes.has_transpose⟩
  · rw [hwarnings.length_eq, List.length_map]

/-- Starting a cropper for frames that are turned by a quarter, one way or the other,
comes to the same as starting one for the frames as they are captured with the margins of
the two axes exchanged: the same memory is asked for, and either both starts end in the
same failure or both succeed, with croppers that differ by the exchange. -/
theorem start_of_quarter_turn {allocator : Allocator} {capture : StreamSizes}
    {rotation : Rotation} {request : MarginRequest} {chroma : ChromaMode}
    (hturn : rotation = .quarter ∨ rotation = .threeQuarters) :
    let turned := startRotated allocator capture rotation request chroma
    let upright := start allocator capture request.transpose chroma
    turned.requests = upright.requests ∧
      ((∃ a b, turned.outcome = .ok a ∧ upright.outcome = .ok b ∧ a.Turned b) ∨
        ∃ failure, turned.outcome = .error failure ∧ upright.outcome = .error failure) := by
  intro turned upright
  have hturned : turned = start allocator capture.transpose request chroma := by
    show start allocator (rotation.applyStream capture) request chroma = _
    rw [Rotation.applyStream_of_quarter hturn]
  obtain ⟨hrequests, hfailures⟩ := start_transpose allocator capture request chroma
  rw [hturned]
  refine ⟨hrequests, ?_⟩
  cases hb : upright.outcome with
  | error failure => exact .inr ⟨failure, (hfailures failure).2 hb, rfl⟩
  | ok b =>
      cases ha : (start allocator capture.transpose request chroma).outcome with
      | error failure =>
          rw [show upright.outcome = _ from (hfailures failure).1 ha] at hb
          cases hb
      | ok a =>
          exact .inl ⟨a, b, rfl, rfl, Started.turned (.upright ha) (.upright hb)⟩

/-- Frames of four by two and of three by five, turned. The top margin takes away more than
either is high once it is turned, and what the start for the frames as they were captured
reports is that the left margin takes away more than they are wide. -/
theorem start_of_turned_streams :
    ∃ a b,
      (startRotated .system ⟨⟨4, 2⟩, ⟨3, 5⟩⟩ .quarter ⟨0, 1, 5, -2⟩ .subsampled).outcome =
        .ok a ∧
      (start .system ⟨⟨4, 2⟩, ⟨3, 5⟩⟩ ⟨5, -2, 0, 1⟩ .subsampled).outcome = .ok b ∧
      a.Turned b ∧ a.output = ⟨⟨1, 0⟩, ⟨4, 0⟩⟩ ∧
      ∃ w ∈ b.warnings, w.subject = some (.high, .horizontal) ∧ w.excess = 2 := by
  obtain ⟨a, ha, houtput, hwarnings⟩ : ∃ a : Cropper,
      (startRotated .system ⟨⟨4, 2⟩, ⟨3, 5⟩⟩ .quarter ⟨0, 1, 5, -2⟩ .subsampled).outcome =
          .ok a ∧
        a.output = ⟨⟨1, 0⟩, ⟨4, 0⟩⟩ ∧
        a.warnings = [.negative .bottom (-2), .exceedsHeight .normal 5 0 4,
          .exceedsHeight .high 5 0 3] := ⟨_, by cbv, by cbv, by cbv⟩
  obtain ⟨-, ⟨a', b, ha', hb, hturned⟩ | ⟨failure, hfailure, -⟩⟩ := @start_of_quarter_turn
    .system ⟨⟨4, 2⟩, ⟨3, 5⟩⟩ .quarter ⟨0, 1, 5, -2⟩ .subsampled (.inl rfl)
  · obtain rfl : a = a' := Except.ok.inj (ha.symm.trans ha')
    refine ⟨a, b, ha, hb, hturned, houtput, ?_⟩
    refine (hturned.exceeded .high .vertical 2).1 ⟨.exceedsHeight .high 5 0 3, ?_, rfl, rfl⟩
    rw [hwarnings]
    simp
  · rw [ha] at hfailure
    cases hfailure

end Cropper

end PlanarCrop
