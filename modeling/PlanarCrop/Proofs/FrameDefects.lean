import PlanarCrop.Proofs.FrameCrop

/-!
# What is wrong with a frame

A frame and a staging buffer can be wrong in three ways, and in all three at once. This
file lists what is wrong with them, each item by itself and without regard to the others
(`defects`), and shows that a crop which answers at all answers with the first item of
that list, or crops the frame if the list is empty.

The list is longer than what is looked at: after the first defect the checks stop. So
the cases of `FrameEnd` are compared with it from the front. The rule for a frame of
another size says nothing about its buffer, and each later rule says that the items in
front of its own are not there.

A frame that is refused is left alone, and so is the staging buffer. That is not a
matter of the checks, which write nothing, but of what comes after them: once the first
byte of the staging buffer is written no rule ends in an error any more.
-/

namespace PlanarCrop

namespace Plan

/-- Everything that is wrong with a frame and a staging buffer, in the order in which it
is looked at. -/
def defects (p : Plan) (frame : Frame) (staging : Staging) : List InvalidData :=
  (if frame.size = p.source then [] else
    [.sizeMismatch p.resolution frame.size p.source]) ++
  (if frame.size.lumaBytes * 3 / 2 ≤ frame.data.size then [] else
    [.shortBuffer frame.size (frame.size.lumaBytes * 3 / 2) frame.data.size]) ++
  (if staging.data.size = p.cropped.lumaBytes * 3 / 2 then [] else
    [.stagingMismatch p.resolution staging.data.size (p.cropped.lumaBytes * 3 / 2)])

section
variable {p : Plan} {frame : Frame} {staging : Staging} {done : FrameCrop}

theorem defects_of_wrongSize (hsize : frame.size ≠ p.source) :
    (p.defects frame staging).head? =
      some (.sizeMismatch p.resolution frame.size p.source) := by
  rw [defects, if_neg hsize]
  rfl

theorem defects_of_shortBuffer (hsize : frame.size = p.source)
    (hlen : frame.data.size < p.source.lumaBytes * 3 / 2) :
    (p.defects frame staging).head? =
      some (.shortBuffer frame.size (p.source.lumaBytes * 3 / 2) frame.data.size) := by
  rw [defects, if_pos hsize, hsize, if_neg (Nat.not_le.2 hlen)]
  rfl

theorem defects_of_long (hsize : frame.size = p.source)
    (hlen : p.source.lumaBytes * 3 / 2 ≤ frame.data.size) :
    p.defects frame staging =
      if staging.data.size = p.cropped.lumaBytes * 3 / 2 then [] else
        [.stagingMismatch p.resolution staging.data.size (p.cropped.lumaBytes * 3 / 2)] := by
  rw [defects, if_pos hsize, hsize, if_pos hlen]
  rfl

/-- Where something is cut, an answer is the first defect or the crop of a frame that has
none. -/
theorem FrameEnd.outcome_eq (h : p.FrameEnd frame staging done) (hcut : p.margins ≠ .zero)
    (hanswer : ∀ fault, done.outcome ≠ .error (.fault fault)) :
    done.outcome = match (p.defects frame staging).head? with
      | none => .ok ()
      | some cause => .error (.invalid cause) := by
  cases h with
  | identity hzero => exact absurd hzero hcut
  | wrongSize _ hsize => rw [defects_of_wrongSize hsize]
  | tooLarge _ _ _ => exact absurd rfl (hanswer _)
  | shortBuffer _ hsize _ hlen => rw [defects_of_shortBuffer hsize hlen]
  | wrongStaging _ hsize _ hlen hstaging =>
      rw [defects_of_long hsize hlen, if_neg hstaging]
      rfl
  | cropped _ hsize _ hlen hstaging _ _ =>
      rw [defects_of_long hsize hlen, if_pos hstaging]
      rfl

end

/-- A plan that cuts nothing takes any frame and leaves it alone. Any other plan crops a
frame exactly if nothing is wrong with it, and otherwise answers with the first defect.
Whatever the defect, frame and staging buffer are left as they were. -/
theorem cropFrame_first_defect {p : Plan} {frame : Frame} {staging : Staging}
    (hanswer : ∀ fault, (p.cropFrame frame staging).outcome ≠ .error (.fault fault)) :
    let done := p.cropFrame frame staging
    (p.margins = .zero → done.outcome = .ok () ∧ done.frame = frame ∧ done.staging = staging) ∧
      (p.margins ≠ .zero →
        (done.outcome = .ok () ↔ p.defects frame staging = []) ∧
        ∀ failure, done.outcome = .error failure ↔
          ∃ cause, failure = .invalid cause ∧ (p.defects frame staging).head? = some cause) ∧
      ∀ failure, done.outcome = .error failure → done.frame = frame ∧ done.staging = staging := by
  intro done
  have hend : p.FrameEnd frame staging done := p.cropFrame_ends frame staging
  refine ⟨fun hzero => ?_, fun hcut => ?_, fun failure herror => ?_⟩
  · rw [show done = _ from cropFrame_of_zero hzero]
    exact ⟨rfl, rfl, rfl⟩
  · rw [hend.outcome_eq hcut hanswer]
    cases hdefects : p.defects frame staging with
    | nil => simp
    | cons cause later => simp [eq_comm]
  · rw [hend.eq_of_error herror]
    exact ⟨rfl, rfl⟩

/-- The buffer of a frame is too short and the staging buffer too long: the first of the
two is what is said. -/
theorem first_defect_of_two :
    let p : Plan := ⟨.high, ⟨6, 4⟩, ⟨1, 0, 1, 0⟩, .fullResolution⟩
    let frame : Frame := ⟨⟨6, 4⟩, .filled 35 7⟩
    let staging : Staging := ⟨.high, .filled 23 0xEE⟩
    p.defects frame staging =
        [.shortBuffer ⟨6, 4⟩ 36 35, .stagingMismatch .high 23 22] ∧
      (p.cropFrame frame staging).outcome = .error (.invalid (.shortBuffer ⟨6, 4⟩ 36 35)) ∧
      (p.cropFrame frame staging).frame = frame ∧
      (p.cropFrame frame staging).staging = staging := by
  intro p frame staging
  have hdefects : p.defects frame staging =
      [.shortBuffer ⟨6, 4⟩ 36 35, .stagingMismatch .high 23 22] := by decide +kernel
  have hanswer : ∀ fault, (p.cropFrame frame staging).outcome ≠ .error (.fault fault) := by
    have hanswered : (p.cropFrame frame staging).outcome =
        .error (.invalid (.shortBuffer ⟨6, 4⟩ 36 35)) := by cbv
    intro fault hfault
    rw [hanswered] at hfault
    cases hfault
  obtain ⟨-, hcut, hleft⟩ := cropFrame_first_defect hanswer
  obtain ⟨-, hreport⟩ := hcut (by decide)
  have herror := (hreport _).2 ⟨_, rfl, by rw [hdefects]; rfl⟩
  exact ⟨hdefects, herror, hleft _ herror⟩

end Plan

end PlanarCrop
