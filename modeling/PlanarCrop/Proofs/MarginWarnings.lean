import PlanarCrop.Proofs.CropperInvariant

/-!
# What the warnings tell

The warnings are the only place where a user learns that frames will not be cropped as
asked. This file says what can be read off them. Each warning is there for a reason that
can be stated without the list (`Warranted`), every reason has its warning, and they come
in a fixed order in which each has a place of its own. Together that determines the list.

Width and height are treated alike, but by code of their own: the test that raises a
warning, the excess it states and the size that is left are three computations, and each
of them exists once for rows and once for columns. They are tied together here along an
`Axis`, so that nothing has to be said twice. The three agree because all sums are exact:
the size that is left stops at zero just where the excess begins to count
(`side_crop`, `excess_exceeds`).
-/

namespace PlanarCrop

/-! ## Along an axis -/

/-- The direction in which a pair of opposite margins cuts. -/
inductive Axis where
  | horizontal
  | vertical
deriving DecidableEq

namespace Axis

/-- Both axes, in the order in which they are looked at. -/
def all : List Axis := [.horizontal, .vertical]

/-- The place of an axis in that order. -/
def index : Axis → Nat
  | .horizontal => 0
  | .vertical => 1

end Axis

/-- The length of the side along an axis. -/
def Size.side (size : Size) : Axis → Nat
  | .horizontal => size.width.toNat
  | .vertical => size.height.toNat

/-- What the two margins of an axis take away together. -/
def Margins.taken (m : Margins) : Axis → Nat
  | .horizontal => m.left.toNat + m.right.toNat
  | .vertical => m.top.toNat + m.bottom.toNat

theorem Size.side_crop (size : Size) (m : Margins) (axis : Axis) :
    (size.crop m).side axis = size.side axis - m.taken axis := by
  cases axis with
  | horizontal => exact size.toNat_width_crop m
  | vertical => exact size.toNat_height_crop m

/-! ## One warning -/

/-- The place of an edge in the order of the configuration. -/
def Edge.index : Edge → Nat
  | .left => 0
  | .right => 1
  | .top => 2
  | .bottom => 3

namespace Warning

/-- The warning that margins take away more than a frame of `size` has along an axis. -/
def exceeds (r : Resolution) (m : Margins) (size : Size) : Axis → Warning
  | .horizontal => .exceedsWidth r m.left m.right size.width
  | .vertical => .exceedsHeight r m.top m.bottom size.height

/-- The frames and the axis along which a warning says that too much is taken away. -/
def subject : Warning → Option (Resolution × Axis)
  | .negative _ _ => none
  | .exceedsWidth r _ _ _ => some (r, .horizontal)
  | .exceedsHeight r _ _ _ => some (r, .vertical)

/-- The place of a warning in the order in which warnings are given: negative margins
come first, then for each resolution its width and its height. -/
def place : Warning → Nat
  | .negative edge _ => edge.index
  | .exceedsWidth r _ _ _ => 4 + 2 * r.index
  | .exceedsHeight r _ _ _ => 5 + 2 * r.index

variable {r : Resolution} {m : Margins} {size : Size} {axis : Axis}

theorem subject_exceeds : (exceeds r m size axis).subject = some (r, axis) := by
  cases axis <;> rfl

theorem place_exceeds : (exceeds r m size axis).place = 4 + 2 * r.index + axis.index := by
  cases axis with
  | horizontal => rfl
  | vertical =>
      show 5 + 2 * r.index = 4 + 2 * r.index + 1
      omega

theorem excess_exceeds :
    (exceeds r m size axis).excess = m.taken axis - size.side axis := by
  cases axis <;> rfl

/-- The reasons to warn of margins that are asked for: a margin is negative, or those that
are cut take away more than a frame of the stream has along an axis. -/
inductive Warranted (source : StreamSizes) (request : MarginRequest) (cut : Margins) :
    Warning → Prop where
  | negative {edge : Edge} (hneg : (request.get edge).toInt < 0) :
      Warranted source request cut (.negative edge (request.get edge))
  | exceeds {r : Resolution} {axis : Axis} (hhas : source.has r = true)
      (hmore : (source.sizeOf r).side axis < cut.taken axis) :
      Warranted source request cut (.exceeds r cut (source.sizeOf r) axis)

end Warning

/-! ## The list of warnings -/

theorem MarginRequest.mem_warnings_iff {request : MarginRequest} {w : Warning} :
    w ∈ request.warnings ↔
      ∃ edge, (request.get edge).toInt < 0 ∧ w = .negative edge (request.get edge) := by
  have hmem (edge : Edge) : edge ∈ Edge.all := by cases edge <;> decide
  simp only [MarginRequest.warnings, List.mem_filterMap, Option.ite_none_right_eq_some,
    Option.some.injEq, Int32.lt_iff_toInt_lt, Int32.toInt_zero]
  constructor
  · rintro ⟨edge, -, hneg, rfl⟩
    exact ⟨edge, hneg, rfl⟩
  · rintro ⟨edge, hneg, rfl⟩
    exact ⟨edge, hmem edge, hneg, rfl⟩

theorem MarginRequest.pairwise_warnings (request : MarginRequest) :
    request.warnings.Pairwise fun v w => v.place < w.place := by
  have hall : Edge.all.Pairwise fun a b => a.index < b.index := by decide
  refine hall.filterMap _ ?_
  intro a b hab v hv w hw
  simp only [Option.ite_none_right_eq_some, Option.some.injEq] at hv hw
  rw [← hv.2, ← hw.2]
  exact hab

theorem Margins.extentWarnings_eq (m : Margins) (r : Resolution) (size : Size) :
    m.extentWarnings r size = Axis.all.flatMap fun axis =>
      if size.side axis < m.taken axis then [.exceeds r m size axis] else [] := by
  simp only [Axis.all, List.flatMap_cons, List.flatMap_nil, List.append_nil]
  rfl

theorem Margins.mem_extentWarnings_iff {m : Margins} {r : Resolution} {size : Size}
    {w : Warning} :
    w ∈ m.extentWarnings r size ↔
      ∃ axis, size.side axis < m.taken axis ∧ w = .exceeds r m size axis := by
  have hmem (axis : Axis) : axis ∈ Axis.all := by cases axis <;> decide
  rw [Margins.extentWarnings_eq, List.mem_flatMap]
  constructor
  · rintro ⟨axis, -, hw⟩
    split at hw
    · next hmore => exact ⟨axis, hmore, List.mem_singleton.1 hw⟩
    · cases hw
  · rintro ⟨axis, hmore, rfl⟩
    refine ⟨axis, hmem axis, ?_⟩
    rw [if_pos hmore]
    exact List.mem_singleton.2 rfl

theorem Margins.pairwise_extentWarnings (m : Margins) (r : Resolution) (size : Size) :
    (m.extentWarnings r size).Pairwise fun v w => v.place < w.place := by
  have hall : Axis.all.Pairwise fun a b => a.index < b.index := by decide
  rw [Margins.extentWarnings_eq]
  refine List.pairwise_flatMap.2 ⟨fun axis _ => ?_, hall.imp fun hab v hv w hw => ?_⟩
  · split
    · exact List.pairwise_singleton _ _
    · exact List.Pairwise.nil
  · rw [List.mem_ite_nil_right, List.mem_singleton] at hv hw
    rw [hv.2, hw.2, Warning.place_exceeds, Warning.place_exceeds]
    omega

namespace StreamSizes

variable {source : StreamSizes} {request : MarginRequest} {w : Warning}

theorem mem_extents_iff {m : Margins} :
    w ∈ (source.present.flatMap fun (r, size) => m.extentWarnings r size) ↔
      ∃ r axis, source.has r = true ∧ (source.sizeOf r).side axis < m.taken axis ∧
        w = .exceeds r m (source.sizeOf r) axis := by
  rw [List.mem_flatMap]
  constructor
  · rintro ⟨⟨r, size⟩, hpresent, hw⟩
    obtain ⟨hhas, rfl⟩ := get?_eq_some_iff.1 (mem_present_iff.1 hpresent)
    obtain ⟨axis, hmore, hw⟩ := Margins.mem_extentWarnings_iff.1 hw
    exact ⟨r, axis, hhas, hmore, hw⟩
  · rintro ⟨r, axis, hhas, hmore, hw⟩
    refine ⟨(r, source.sizeOf r), mem_present_iff.2 (get?_eq_some_iff.2 ⟨hhas, rfl⟩), ?_⟩
    exact Margins.mem_extentWarnings_iff.2 ⟨axis, hmore, hw⟩

theorem mem_marginWarnings_iff :
    w ∈ source.marginWarnings request ↔
      w.Warranted source request (.ofRequest request) := by
  rw [marginWarnings, List.mem_append, MarginRequest.mem_warnings_iff, mem_extents_iff]
  constructor
  · rintro (⟨edge, hneg, rfl⟩ | ⟨r, axis, hhas, hmore, rfl⟩)
    · exact .negative hneg
    · exact .exceeds hhas hmore
  · intro hw
    cases hw with
    | negative hneg => exact .inl ⟨_, hneg, rfl⟩
    | exceeds hhas hmore => exact .inr ⟨_, _, hhas, hmore, rfl⟩

/-- Each warning stands behind those with an earlier place, so none is given twice. -/
theorem pairwise_marginWarnings (source : StreamSizes) (request : MarginRequest) :
    (source.marginWarnings request).Pairwise fun v w => v.place < w.place := by
  have hpresent : source.present.Pairwise fun a b => a.1.index < b.1.index := by
    have hall : Resolution.all.Pairwise fun a b => a.index < b.index := by decide
    refine hall.filterMap _ ?_
    intro a b hab v hv w hw
    obtain ⟨size, -, rfl⟩ := Option.map_eq_some_iff.1 hv
    obtain ⟨size', -, rfl⟩ := Option.map_eq_some_iff.1 hw
    exact hab
  refine List.pairwise_append.2 ⟨request.pairwise_warnings, List.pairwise_flatMap.2 ⟨?_, ?_⟩, ?_⟩
  · intro a _
    exact Margins.pairwise_extentWarnings _ _ _
  · refine hpresent.imp fun hab v hv w hw => ?_
    obtain ⟨axis, -, rfl⟩ := Margins.mem_extentWarnings_iff.1 hv
    obtain ⟨axis', -, rfl⟩ := Margins.mem_extentWarnings_iff.1 hw
    rw [Warning.place_exceeds, Warning.place_exceeds]
    have haxis : axis.index < 2 := by cases axis <;> decide
    omega
  · intro v hv w hw
    obtain ⟨edge, -, rfl⟩ := MarginRequest.mem_warnings_iff.1 hv
    obtain ⟨r, axis, -, -, rfl⟩ := mem_extents_iff.1 hw
    rw [Warning.place_exceeds]
    have hedge : edge.index < 4 := by cases edge <;> decide
    show edge.index < _
    omega

end StreamSizes

theorem Margins.toNat_get_ofRequest (request : MarginRequest) (edge : Edge) :
    (((Margins.ofRequest request).get edge).toNat : Int) = max (request.get edge).toInt 0 := by
  have hcut (value : Int32) :
      ((UInt32.ofNat value.toInt.toNat).toNat : Int) = max value.toInt 0 := by
    have hlt := value.toInt_lt
    rw [UInt32.toNat_ofNat']
    omega
  cases edge with
  | left => exact hcut request.left
  | right => exact hcut request.right
  | top => exact hcut request.top
  | bottom => exact hcut request.bottom

namespace Cropper

/-- The warnings of a started cropper are complete: there is one for every reason to warn
and no other, each in its place. The margins that are cut are those asked for, or zero
where these are negative. A side that no warning is about loses just its two margins;
one that a warning is about is gone, and the excess is what the margins take away beyond
it. -/
theorem warnings_complete {source : StreamSizes} {request : MarginRequest} {chroma : ChromaMode}
    {c : Cropper} (h : Started source request chroma c) :
    c.warnings.Pairwise (fun v w => v.place < w.place) ∧
      (∀ w, w ∈ c.warnings ↔ w.Warranted c.source request c.margins) ∧
      (∀ edge, ((c.margins.get edge).toNat : Int) = max (request.get edge).toInt 0) ∧
      ∀ r, c.source.has r = true → ∀ axis,
        let size := c.source.sizeOf r
        let kept := size.crop c.margins
        ((∀ w ∈ c.warnings, w.subject ≠ some (r, axis)) →
          kept.side axis + c.margins.taken axis = size.side axis) ∧
        ∀ w ∈ c.warnings, w.subject = some (r, axis) →
          kept.side axis = 0 ∧ 1 ≤ w.excess ∧
            w.excess + size.side axis = c.margins.taken axis := by
  obtain ⟨hsource, hmargins, hwarnings⟩ : c.source = source ∧
      c.margins = .ofRequest request ∧ c.warnings = source.marginWarnings request :=
    ⟨(h.frozen_planned []).source, (h.frozen_planned []).margins, (h.frozen_planned []).warnings⟩
  rw [hsource, hmargins, hwarnings]
  refine ⟨source.pairwise_marginWarnings request, fun _ => StreamSizes.mem_marginWarnings_iff,
    Margins.toNat_get_ofRequest request, fun r hhas axis => ⟨fun hnone => ?_, ?_⟩⟩
  · -- Without a warning the margins fit, so nothing stops at zero.
    have hfits : (Margins.ofRequest request).taken axis ≤ (source.sizeOf r).side axis := by
      refine Nat.le_of_not_lt fun hmore => ?_
      exact hnone _ (StreamSizes.mem_marginWarnings_iff.2 (.exceeds hhas hmore))
        Warning.subject_exceeds
    rw [Size.side_crop]
    omega
  · intro w hw hsubject
    cases StreamSizes.mem_marginWarnings_iff.1 hw with
    | negative _ => cases hsubject
    | exceeds _ hmore =>
        rw [Warning.subject_exceeds, Option.some.injEq, Prod.mk.injEq] at hsubject
        obtain ⟨rfl, rfl⟩ := hsubject
        rw [Size.side_crop, Warning.excess_exceeds]
        omega

/-- A negative margin, a pair of margins that takes away more than the normal frames have
but not more than the high ones, and a pair that takes away just what the normal ones
have. -/
theorem warnings_of_wide_margins :
    ∃ c : Cropper,
      Started ⟨⟨4, 2⟩, ⟨6, 3⟩⟩ ⟨-5, 5, 1, 1⟩ .subsampled c ∧
      c.warnings = [.negative .left (-5), .exceedsWidth .normal 0 5 4] ∧
      (Size.crop ⟨4, 2⟩ c.margins).side .horizontal = 0 ∧
      1 ≤ (Warning.exceedsWidth .normal 0 5 4).excess ∧
      (Size.crop ⟨4, 2⟩ c.margins).side .vertical + c.margins.taken .vertical = 2 ∧
      (Size.crop ⟨6, 3⟩ c.margins).side .horizontal + c.margins.taken .horizontal = 6 := by
  obtain ⟨c, hstart, hsource, hwarnings⟩ : ∃ c : Cropper,
      (start .system ⟨⟨4, 2⟩, ⟨6, 3⟩⟩ ⟨-5, 5, 1, 1⟩ .subsampled).outcome = .ok c ∧
        c.source = ⟨⟨4, 2⟩, ⟨6, 3⟩⟩ ∧
        c.warnings = [.negative .left (-5), .exceedsWidth .normal 0 5 4] :=
    ⟨_, by cbv, by cbv, by cbv⟩
  have hstarted : Started ⟨⟨4, 2⟩, ⟨6, 3⟩⟩ ⟨-5, 5, 1, 1⟩ .subsampled c := .upright hstart
  obtain ⟨-, -, -, htell⟩ := warnings_complete hstarted
  rw [hsource, hwarnings] at htell
  obtain ⟨-, hwide⟩ := htell .normal rfl .horizontal
  obtain ⟨hgone, hexcess, -⟩ := hwide _ (List.mem_cons_of_mem _ List.mem_cons_self) rfl
  obtain ⟨hlow, -⟩ := htell .normal rfl .vertical
  obtain ⟨hhigh, -⟩ := htell .high rfl .horizontal
  refine ⟨c, hstarted, hwarnings, hgone, hexcess, hlow ?_, hhigh ?_⟩
  · decide
  · decide

end Cropper

end PlanarCrop
