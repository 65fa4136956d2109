import PlanarCrop.Proofs.PlannedCropper

/-!
# How a cropper asks for its memory

A start asks for one staging buffer after the other and stops at the first that it
cannot have. `SetUpEnd` lists the three ways in which that goes: every buffer is there,
or one is too large to be counted in bytes, or the allocator does not serve it. In each
of them the requests are those of the resolutions that were got to, in working order,
and so is the log.

The induction is on the list of resolutions. What it carries along are the margins, and
no more: adding a plan to a cropper changes its slots and the size it announces, and the
bytes that the next resolution needs depend on neither.

Two things follow by cases. A start that gets through its counts asks for exactly the
buffers that the stream needs, cut after the first that it is refused, and hands on the
allocator's own error. And the counts are the one place where a start can stop without
an answer, because three times the luma count is taken before it is halved.
-/

namespace PlanarCrop

/-! ## One request -/

namespace Allocator

/-- A request is served if it is answered with a buffer of the length asked for. -/
def Serves (allocator : Allocator) (q : Resolution × Nat) : Prop :=
  ∃ data, allocator q.1 q.2 = .ok data ∧ data.size = q.2

/-- The error of a request that is not served. -/
inductive Refuses (allocator : Allocator) (q : Resolution × Nat) : CropError → Prop where
  | answer {error : CropError} (h : allocator q.1 q.2 = .error error) :
      Refuses allocator q error
  | wrongLength {data : Bytes} (h : allocator q.1 q.2 = .ok data) (hsize : data.size ≠ q.2) :
      Refuses allocator q (.allocation q.1 q.2)

theorem not_serves_of_refuses {allocator : Allocator} {q : Resolution × Nat}
    {error : CropError} (h : allocator.Refuses q error) : ¬ allocator.Serves q := by
  rintro ⟨data, hdata, hsize⟩
  cases h with
  | answer herror =>
      rw [herror] at hdata
      cases hdata
  | wrongLength hother hwrong =>
      rw [hother] at hdata
      cases hdata
      exact hwrong hsize

end Allocator

theorem Staging.serves_of_allocate {allocator : Allocator} {q : Resolution × Nat}
    {staging : Staging} (h : Staging.allocate allocator q.1 q.2 = .ok staging) :
    allocator.Serves q := by
  obtain ⟨data, hdata, h⟩ := bind_eq_ok_iff.1 h
  split at h
  · next hsize => exact ⟨data, hdata, hsize⟩
  · cases h

theorem Staging.refuses_of_allocate {allocator : Allocator} {q : Resolution × Nat}
    {error : CropError} (h : Staging.allocate allocator q.1 q.2 = .error error) :
    allocator.Refuses q error := by
  unfold Staging.allocate at h
  cases hanswer : allocator q.1 q.2 with
  | error other =>
      rw [hanswer] at h
      cases h
      exact .answer hanswer
  | ok data =>
      rw [hanswer] at h
      simp only [bind, Except.bind] at h
      split at h
      · cases h
      · next hsize =>
          cases h
          exact .wrongLength hanswer hsize

/-! ## What a stream needs -/

namespace Margins

/-- The buffer that is needed to crop the frames of a resolution. -/
def demand (m : Margins) (a : Resolution × Size) : Resolution × Nat :=
  (a.1, 3 * (a.2.crop m).lumaBytes / 2)

/-- What the log says of that buffer. -/
def report (m : Margins) (a : Resolution × Size) : Event :=
  .allocated a.1 a.2 (a.2.crop m) (m.demand a).2

end Margins

/-- The buffers that a stream needs: one for each of its resolutions. -/
def StreamSizes.demands (source : StreamSizes) (m : Margins) : List (Resolution × Nat) :=
  (Resolution.all.filter source.has).map fun r => m.demand (r, source.sizeOf r)

theorem StreamSizes.present_eq_cons (source : StreamSizes) :
    source.present = (.normal, source.normal) ::
      if source.has .high then [(.high, source.high)] else [] := by
  rw [present_eq]
  cases hhigh : source.has .high <;>
    simp [Resolution.all, sizeOf, hhigh, show source.has .normal = true from rfl]

theorem StreamSizes.demands_eq (source : StreamSizes) (m : Margins) :
    source.demands m = source.present.map m.demand := by
  rw [demands, present_eq, List.map_map]
  rfl

namespace Cropper

/-- The buffer for a resolution can be counted, and the allocator serves it. -/
structure Granted (allocator : Allocator) (m : Margins) (a : Resolution × Size) : Prop where
  countable : 3 * (a.2.crop m).lumaBytes < countLimit
  served : allocator.Serves (m.demand a)

/-! ## One resolution after the other -/

/-- The ways in which setting up a list of resolutions ends. -/
inductive SetUpEnd (allocator : Allocator) (m : Margins) (list : List (Resolution × Size)) :
    Startup → Prop where
  | ready {c : Cropper} (hall : ∀ a ∈ list, Granted allocator m a) :
      SetUpEnd allocator m list ⟨.ok c, list.map m.demand, list.map m.report⟩
  | tooLarge {before after : List (Resolution × Size)} {a : Resolution × Size}
      (hlist : list = before ++ a :: after) (hbefore : ∀ b ∈ before, Granted allocator m b)
      (hcount : countLimit ≤ 3 * (a.2.crop m).lumaBytes) :
      SetUpEnd allocator m list
        ⟨.error (.fault .overflow), before.map m.demand, before.map m.report⟩
  | refused {before after : List (Resolution × Size)} {a : Resolution × Size}
      {error : CropError} (hlist : list = before ++ a :: after)
      (hbefore : ∀ b ∈ before, Granted allocator m b)
      (hcount : 3 * (a.2.crop m).lumaBytes < countLimit)
      (hrefused : allocator.Refuses (m.demand a) error) :
      SetUpEnd allocator m list
        ⟨.error (.rejected error), before.map m.demand ++ [m.demand a],
          before.map m.report ++ [.startFailed error a.1]⟩

theorem SetUpEnd.cons {allocator : Allocator} {m : Margins} {a : Resolution × Size}
    {rest : List (Resolution × Size)} {up : Startup} (ha : Granted allocator m a)
    (h : SetUpEnd allocator m rest up) :
    SetUpEnd allocator m (a :: rest)
      ⟨up.outcome, m.demand a :: up.requests, m.report a :: up.events⟩ := by
  have hcons {before : List (Resolution × Size)}
      (hbefore : ∀ b ∈ before, Granted allocator m b) :
      ∀ b ∈ a :: before, Granted allocator m b := List.forall_mem_cons.2 ⟨ha, hbefore⟩
  cases h with
  | ready hall => exact .ready (hcons hall)
  | tooLarge hlist hbefore hcount =>
      subst hlist
      exact .tooLarge (List.cons_append ..).symm (hcons hbefore) hcount
  | refused hlist hbefore hcount hrefused =>
      subst hlist
      exact .refused (List.cons_append ..).symm (hcons hbefore) hcount hrefused

theorem setUp_ends {allocator : Allocator} {m : Margins} :
    ∀ {list : List (Resolution × Size)} {c : Cropper}, c.margins = m →
      SetUpEnd allocator m list (setUp allocator list c) := by
  intro list
  induction list with
  | nil =>
      intro c _
      exact .ready nofun
  | cons a rest ih =>
      intro c hm
      obtain ⟨r, size⟩ := a
      subst hm
      have hcropped : (Plan.croppedBytes ⟨r, size, c.margins, c.chroma⟩) =
          (size.crop c.margins).frameBytes := rfl
      rw [setUp]
      simp only [hcropped]
      rcases Nat.lt_or_ge (3 * (size.crop c.margins).lumaBytes) countLimit with hcount | hcount
      · rw [Size.frameBytes_of_lt (by omega), Nat.mul_comm]
        simp only []
        split
        · next error herror =>
            exact @SetUpEnd.refused _ _ _ [] rest (r, size) error rfl nofun hcount
              (Staging.refuses_of_allocate (q := (r, _)) herror)
        · next staging hstaging =>
            have hserved : allocator.Serves (c.margins.demand (r, size)) :=
              Staging.serves_of_allocate (q := (r, _)) hstaging
            have hrest : SetUpEnd allocator c.margins rest _ :=
              ih (margins_install c ⟨r, size, c.margins, c.chroma⟩ staging)
            rw [Staging.size_of_allocate hstaging]
            exact hrest.cons ⟨hcount, hserved⟩
      · rw [Size.frameBytes_of_le (by omega)]
        exact @SetUpEnd.tooLarge _ _ _ [] rest (r, size) rfl nofun hcount

theorem SetUpEnd.requests_prefix {allocator : Allocator} {m : Margins}
    {list : List (Resolution × Size)} {up : Startup} (h : SetUpEnd allocator m list up) :
    List.IsPrefix up.requests (list.map m.demand) := by
  cases h with
  | ready _ => exact List.prefix_refl _
  | tooLarge hlist _ _ =>
      rw [hlist, List.map_append]
      exact List.prefix_append _ _
  | refused hlist _ _ _ =>
      rw [hlist, List.map_append, List.map_cons]
      exact (List.prefix_append_right_inj _).2 (List.prefix_append [_] _)

theorem SetUpEnd.served_or_refused {allocator : Allocator} {m : Margins}
    {list : List (Resolution × Size)} {up : Startup} (h : SetUpEnd allocator m list up)
    (hcount : ∀ a ∈ list, 3 * (a.2.crop m).lumaBytes < countLimit) :
    ((∀ q ∈ list.map m.demand, allocator.Serves q) ∧
      up.requests = list.map m.demand ∧ ∃ c, up.outcome = .ok c) ∨
    ∃ before q after error, list.map m.demand = before ++ q :: after ∧
      (∀ b ∈ before, allocator.Serves b) ∧ allocator.Refuses q error ∧
      up.requests = before ++ [q] ∧ up.outcome = .error (.rejected error) := by
  cases h with
  | ready hall =>
      refine .inl ⟨List.forall_mem_map.2 fun a ha => (hall a ha).served, rfl, _, rfl⟩
  | tooLarge hlist _ hlarge =>
      exact absurd (hcount _ (by rw [hlist]; simp)) (Nat.not_lt.2 hlarge)
  | refused hlist hbefore _ hrefused =>
      rw [hlist, List.map_append, List.map_cons]
      refine .inr ⟨_, _, _, _, rfl, ?_, hrefused, rfl, rfl⟩
      exact List.forall_mem_map.2 fun a ha => (hbefore a ha).served

/-- At most one place of a list has `P` before it and not at it. -/
theorem eq_of_first {α : Type} {P : α → Prop} {before before' after after' : List α}
    {a a' : α} (h : before ++ a :: after = before' ++ a' :: after')
    (hbefore : ∀ b ∈ before, P b) (ha : ¬ P a) (hbefore' : ∀ b ∈ before', P b)
    (ha' : ¬ P a') : a = a' := by
  obtain ⟨gap, rfl, hgap⟩ | ⟨gap, rfl, hgap⟩ := List.append_eq_append_iff.1 h
  · rcases gap with _ | ⟨g, gap⟩
    · exact (List.cons.inj hgap).1
    · obtain ⟨rfl, -⟩ := List.cons.inj hgap
      exact absurd (hbefore' a (by simp)) ha
  · rcases gap with _ | ⟨g, gap⟩
    · exact (List.cons.inj hgap).1.symm
    · obtain ⟨rfl, -⟩ := List.cons.inj hgap
      exact absurd (hbefore a' (by simp)) ha'

/-- Setting up stops without an answer exactly if the first resolution that is not
granted is one whose cropped frames are too large. -/
theorem SetUpEnd.fault_iff {allocator : Allocator} {m : Margins}
    {list : List (Resolution × Size)} {up : Startup} (h : SetUpEnd allocator m list up) :
    (∃ fault, up.outcome = .error (.fault fault)) ↔
      ∃ before a after, list = before ++ a :: after ∧
        (∀ b ∈ before, Granted allocator m b) ∧
        countLimit ≤ 3 * (a.2.crop m).lumaBytes := by
  constructor
  · rintro ⟨fault, hfault⟩
    cases h with
    | ready _ => cases hfault
    | refused _ _ _ _ => cases hfault
    | tooLarge hlist hbefore hlarge => exact ⟨_, _, _, hlist, hbefore, hlarge⟩
  · rintro ⟨before, a, after, hlist, hbefore, hlarge⟩
    have ha : ¬ Granted allocator m a := fun hgranted =>
      absurd hgranted.countable (Nat.not_lt.2 hlarge)
    cases h with
    | tooLarge _ _ _ => exact ⟨_, rfl⟩
    | ready hall => exact absurd (hall a (by simp [hlist])) ha
    | refused hlist' hbefore' hcount hrefused =>
        have hsame := eq_of_first (hlist.symm.trans hlist') hbefore ha hbefore'
          fun hgranted => Allocator.not_serves_of_refuses hrefused hgranted.served
        subst hsame
        exact absurd hcount (Nat.not_lt.2 hlarge)

/-! ## The start -/

/-- The normal resolution comes first and the high one last, so a start that stops at
one of them has set up nothing or just the normal one. -/
theorem present_split {source : StreamSizes} {before after : List (Resolution × Size)}
    {a : Resolution × Size} (h : source.present = before ++ a :: after) :
    (before = [] ∧ a = (.normal, source.normal)) ∨
      (before = [(.normal, source.normal)] ∧ source.has .high = true ∧
        a = (.high, source.high)) := by
  rw [StreamSizes.present_eq_cons] at h
  rcases before with _ | ⟨b, before⟩
  · exact .inl ⟨rfl, (List.cons.inj h).1.symm⟩
  · obtain ⟨rfl, hlast⟩ := List.cons.inj h
    split at hlast
    · next hhigh =>
        rcases before with _ | ⟨b', before⟩
        · exact .inr ⟨rfl, hhigh, (List.cons.inj hlast).1.symm⟩
        · have hlength := congrArg List.length hlast
          simp at hlength
    · have hlength := congrArg List.length hlast
      simp at hlength

section
variable (allocator : Allocator) (source : StreamSizes) (request : MarginRequest)
  (chroma : ChromaMode)

theorem start_of_zero (hzero : Margins.ofRequest request = .zero) :
    start allocator source request chroma =
      ⟨.ok (idle source request chroma), [],
        (source.marginWarnings request).map .warned ++ [.disabled]⟩ := by
  have hidle : (idle source request chroma).isEnabled = false := by
    show (!(Margins.ofRequest request).isZero) = false
    rw [Margins.isZero_iff.2 hzero]
    rfl
  simp only [start, hidle]
  rfl

theorem start_of_cut (hcut : Margins.ofRequest request ≠ .zero) :
    ∃ up, SetUpEnd allocator (.ofRequest request) source.present up ∧
      (start allocator source request chroma).outcome = up.outcome ∧
      (start allocator source request chroma).requests = up.requests ∧
      (start allocator source request chroma).events =
        (source.marginWarnings request).map .warned ++ up.events := by
  have hidle : (idle source request chroma).isEnabled = true := by
    show (!(Margins.ofRequest request).isZero) = true
    rw [Bool.not_eq_true', ← Bool.not_eq_true, Margins.isZero_iff]
    exact hcut
  refine ⟨_, setUp_ends (c := idle source request chroma) rfl, ?_⟩
  simp only [start, hidle]
  exact ⟨rfl, rfl, rfl⟩

end

section
variable {allocator : Allocator} {source : StreamSizes} {request : MarginRequest}
  {chroma : ChromaMode}

/-- A start whose buffers can be counted asks for no memory if nothing is cut, and
otherwise for the buffers that the stream needs, in working order, up to the first that
it is refused. If there is none it succeeds, and if there is one the refusal is what it
answers. -/
theorem start_asks_in_order
    (hcount : ∀ r, source.has r = true →
      3 * ((source.sizeOf r).crop (.ofRequest request)).lumaBytes < countLimit) :
    let cut := Margins.ofRequest request
    let up := start allocator source request chroma
    (cut = .zero → up.requests = [] ∧ ∃ c, up.outcome = .ok c) ∧
      (cut ≠ .zero →
        ((∀ q ∈ source.demands cut, allocator.Serves q) ∧
          up.requests = source.demands cut ∧ ∃ c, up.outcome = .ok c) ∨
        ∃ before q after error, source.demands cut = before ++ q :: after ∧
          (∀ b ∈ before, allocator.Serves b) ∧ allocator.Refuses q error ∧
          up.requests = before ++ [q] ∧ up.outcome = .error (.rejected error)) ∧
      ∀ q ∈ up.requests, source.has q.1 = true := by
  intro cut up
  by_cases hcut : cut = .zero
  · have hup : up = _ := start_of_zero allocator source request chroma hcut
    rw [hup]
    exact ⟨fun _ => ⟨rfl, _, rfl⟩, fun h => absurd hcut h, nofun⟩
  obtain ⟨done, hends, houtcome, hrequests, -⟩ :=
    start_of_cut allocator source request chroma hcut
  rw [show up.requests = _ from hrequests, show up.outcome = _ from houtcome,
    StreamSizes.demands_eq]
  refine ⟨fun h => absurd h hcut, fun _ => hends.served_or_refused ?_, ?_⟩
  · intro a ha
    rw [StreamSizes.present_eq] at ha
    obtain ⟨r, hr, rfl⟩ := List.mem_map.1 ha
    exact hcount r (List.mem_filter.1 hr).2
  · intro q hq
    have hneeded := hends.requests_prefix.subset hq
    rw [← StreamSizes.demands_eq] at hneeded
    obtain ⟨r, hr, rfl⟩ := List.mem_map.1 hneeded
    exact (List.mem_filter.1 hr).2

/-- The buffer of the high frames is refused with an error that is not about memory, and
the start asks for both buffers and hands that error on. -/
theorem requests_with_foreign_error :
    let source : StreamSizes := ⟨⟨4, 2⟩, ⟨3, 5⟩⟩
    let allocator : Allocator := fun r n =>
      if r = .high then .error (.configuration "off") else .ok (.filled n 0xEE)
    let up := start allocator source ⟨2, 0, 0, -1⟩ .subsampled
    source.demands (.ofRequest ⟨2, 0, 0, -1⟩) = [(.normal, 6), (.high, 7)] ∧
      up.requests = [(.normal, 6), (.high, 7)] ∧
      up.outcome = .error (.rejected (.configuration "off")) := by
  intro source allocator up
  have hdemands : source.demands (.ofRequest ⟨2, 0, 0, -1⟩) = [(.normal, 6), (.high, 7)] := by
    decide +kernel
  have hcount : ∀ r, source.has r = true →
      3 * ((source.sizeOf r).crop (.ofRequest ⟨2, 0, 0, -1⟩)).lumaBytes < countLimit := by
    intro r _
    cases r <;> decide +kernel
  obtain ⟨-, hask, -⟩ := @start_asks_in_order allocator source ⟨2, 0, 0, -1⟩ .subsampled
    hcount
  obtain ⟨hserved, -, -⟩ | ⟨before, q, after, error, hsplit, hbefore, hrefused, hrequests,
    houtcome⟩ := hask (by decide)
  · obtain ⟨data, hdata, -⟩ := hserved (.high, 7) (by rw [hdemands]; simp)
    cases hdata
  · rw [hdemands] at hsplit
    rcases before with _ | ⟨b, _ | ⟨b', rest⟩⟩
    · -- The buffer for the normal frames is served, so it is not the one refused.
      obtain ⟨rfl, -⟩ := List.cons.inj hsplit
      exact absurd ⟨_, rfl, rfl⟩ (Allocator.not_serves_of_refuses hrefused)
    · obtain ⟨rfl, hlast⟩ := List.cons.inj hsplit
      obtain ⟨rfl, -⟩ := List.cons.inj hlast
      cases hrefused with
      | answer herror =>
          cases herror
          exact ⟨hdemands, hrequests, houtcome⟩
      | wrongLength hdata _ => cases hdata
    · have hlength := congrArg List.length hsplit
      simp at hlength

/-- A start stops without an answer exactly if something is cut and it gets as far as
counting the bytes of cropped frames that are too large for the count: the normal ones,
or the high ones once the buffer for the normal ones is there. -/
theorem start_fault_iff :
    (∃ fault, (start allocator source request chroma).outcome = .error (.fault fault)) ↔
      Margins.ofRequest request ≠ .zero ∧
        (countLimit ≤ 3 * (source.normal.crop (.ofRequest request)).lumaBytes ∨
          (Granted allocator (.ofRequest request) (.normal, source.normal) ∧
            source.has .high = true ∧
            countLimit ≤ 3 * (source.high.crop (.ofRequest request)).lumaBytes)) := by
  by_cases hcut : Margins.ofRequest request = .zero
  · rw [start_of_zero allocator source request chroma hcut]
    constructor
    · rintro ⟨fault, hfault⟩
      cases hfault
    · intro h
      exact absurd hcut h.1
  obtain ⟨up, hends, houtcome, -, -⟩ := start_of_cut allocator source request chroma hcut
  rw [houtcome, hends.fault_iff]
  constructor
  · rintro ⟨before, a, after, hsplit, hbefore, hlarge⟩
    refine ⟨hcut, ?_⟩
    obtain ⟨rfl, rfl⟩ | ⟨rfl, hhigh, rfl⟩ := present_split hsplit
    · exact .inl hlarge
    · exact .inr ⟨hbefore _ (by simp), hhigh, hlarge⟩
  · rintro ⟨-, hnormal | ⟨hgranted, hhigh, hlarge⟩⟩
    · exact ⟨[], _, _, StreamSizes.present_eq_cons source, nofun, hnormal⟩
    · refine ⟨[(.normal, source.normal)], (.high, source.high), [], ?_, ?_, hlarge⟩
      · rw [StreamSizes.present_eq_cons, if_pos hhigh]
        rfl
      · intro b hb
        rwa [List.mem_singleton.1 hb]

/-- A start may stop without an answer: one column is cut off frames so large that three
times their pixels are no longer a count, although half of that would be one. -/
theorem start_of_huge_frames :
    ¬ ∀ (allocator : Allocator) (source : StreamSizes) (request : MarginRequest)
        (chroma : ChromaMode),
      (∃ c, (start allocator source request chroma).outcome = .ok c) ∨
        ∃ error, (start allocator source request chroma).outcome =
          .error (.rejected error) := by
  intro h
  have hfault : (start .system (.normalOnly ⟨4294967295, 2147483648⟩) ⟨1, 0, 0, 0⟩
      .fullResolution).outcome = .error (.fault .overflow) := by cbv
  rcases h .system (.normalOnly ⟨4294967295, 2147483648⟩) ⟨1, 0, 0, 0⟩ .fullResolution with
    ⟨c, hc⟩ | ⟨error, herror⟩
  · rw [hfault] at hc
    cases hc
  · rw [hfault] at herror
    cases herror

end

end Cropper

end PlanarCrop
