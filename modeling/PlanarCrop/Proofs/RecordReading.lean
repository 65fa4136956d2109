import Mathlib.Data.List.Forall2
import PlanarCrop.Proofs.EntryReading

/-!
# Reading records

What an entry does to a record is that it sets a field which was not met before, or nothing
(`Record.Adds`). For a flattened record there is a third thing: the value is held back
(`Flattened.Adds`).

A flattened record is the one with something to prove. Its members are taken in the order of
the text, but a value for the inner record is checked when the object has ended, and by then
it is no token any more. Still the two records come out as if each had been read from its
share of the entries in an object of its own (`fromText_flattened_iff`). The order is no
matter because neither record sees the other's members. The failures agree but for one thing:
a value that nobody asks for may fail to be held, where a record that stands alone passes
over it. So those values have to fit.
-/

namespace PlanarCrop.Json

/-! ## Records -/

section

variable {ρ : Type} {r : Record ρ} {d last : Draft ρ} {es : List Entry}

theorem Record.field?_eq_some {f : RecordField ρ} (hf : f ∈ r.fields) :
    r.field? f.key.text = some f := by
  cases h : r.field? f.key.text with
  | none =>
    have hnone := List.find?_eq_none.1 h f hf
    simp at hnone
  | some g =>
    have hkey : g.key.text = f.key.text := by simpa using List.find?_some h
    rw [r.eq_of_key g (List.mem_of_find?_eq_some h) f hf (PlainText.ext hkey)]

theorem Record.field?_of_has {key : PlainText} (h : r.has key = true) :
    ∃ f ∈ r.fields, f.key = key ∧ r.field? key.text = some f := by
  obtain ⟨f, hf, rfl⟩ := Record.has_iff.1 h
  exact ⟨f, hf, rfl, Record.field?_eq_some hf⟩

theorem Record.field?_eq_none {key : PlainText} (h : r.has key = false) :
    r.field? key.text = none := by
  refine List.find?_eq_none.2 fun f hf hkey => ?_
  exact Record.key_ne hf h (PlainText.ext (beq_iff_eq.1 hkey))

/-- What an entry adds to a record. -/
inductive Record.Adds (r : Record ρ) (d : Draft ρ) (e : Entry) : Draft ρ → Prop where
  | set {f : RecordField ρ} {a : f.Cell} (hf : f ∈ r.fields) (hkey : f.key = e.key)
      (hfresh : f.key.text ∉ d.met) (ha : f.leaf.Takes e.value a) : r.Adds d e (d.put f a)
  | pass (h : r.has e.key = false) : r.Adds d e d

theorem Record.adds_field_iff {e : Entry} {f : RecordField ρ} (hf : f ∈ r.fields)
    (hkey : f.key = e.key) :
    r.Adds d e last ↔
      f.key.text ∉ d.met ∧ ∃ a, f.leaf.Takes e.value a ∧ last = d.put f a := by
  constructor
  · intro h
    cases h with
    | set hg hgkey hfresh ha =>
      obtain rfl := r.eq_of_key _ hg _ hf (hgkey.trans hkey.symm)
      exact ⟨hfresh, _, ha, rfl⟩
    | pass hno => exact absurd hkey (Record.key_ne hf hno)
  · rintro ⟨hfresh, a, ha, rfl⟩
    exact .set hf hkey hfresh ha

theorem Record.adds_unknown_iff {e : Entry} (h : r.has e.key = false) :
    r.Adds d e last ↔ last = d := by
  constructor
  · intro hadds
    cases hadds with
    | set hg hgkey => exact absurd hgkey (Record.key_ne hg h)
    | pass => rfl
  · rintro rfl
    exact .pass h

theorem Draft.fresh_ok_iff {f : RecordField ρ} {u : Unit} :
    d.fresh f = .ok u ↔ f.key.text ∉ d.met := by
  rw [Draft.fresh]
  split
  · next h => simp [h]
  · next h => simp [h]

/-- The value of a field, behind its key and the colon. -/
theorem run_set_iff {f : RecordField ρ} {v : Scalar} {next : Draft ρ} {ts left : List Token} :
    (∃ reader, d.set f = .ok reader ∧ reader.run (v.token :: ts) = .ok (next, left)) ↔
      (f.key.text ∉ d.met ∧ ∃ a, f.leaf.Takes v a ∧ next = d.put f a) ∧ left = ts := by
  simp only [Draft.set, bind_eq_ok_iff, Draft.fresh_ok_iff]
  constructor
  · rintro ⟨reader, ⟨-, hfresh, hreader⟩, hrun⟩
    cases hreader
    obtain ⟨a, hread, rfl⟩ := run_map_iff.1 hrun
    obtain ⟨ha, hleft⟩ := Leaf.read_scalar_iff.1 hread
    exact ⟨⟨hfresh, a, ha, rfl⟩, hleft⟩
  · rintro ⟨⟨hfresh, a, ha, rfl⟩, hleft⟩
    exact ⟨f.leaf.reader.map (d.put f), ⟨(), hfresh, rfl⟩,
      run_map_iff.2 ⟨a, Leaf.read_scalar_iff.2 ⟨ha, hleft⟩, rfl⟩⟩

theorem readMember_iff {δ : Type} {take : δ → String → Except Problem (Reader δ)} {d next : δ}
    {key : String} {ts left : List Token} :
    readMember take d key (.colon :: ts) = .ok (next, left) ↔
      ∃ reader, take d key = .ok reader ∧ reader.run ts = .ok (next, left) := by
  simp only [readMember, bind_eq_ok_iff]
  constructor
  · rintro ⟨reader, hreader, rest, hrest, hrun⟩
    cases hrest
    exact ⟨reader, hreader, hrun⟩
  · rintro ⟨reader, hreader, hrun⟩
    exact ⟨reader, hreader, ts, rfl, hrun⟩

theorem Record.follows (r : Record ρ) : Follows r.take r.Adds := by
  intro d next e ts left
  rw [readMember_iff, Record.take]
  cases hhas : r.has e.key with
  | true =>
    obtain ⟨f, hf, hkey, hfield⟩ := Record.field?_of_has hhas
    rw [hfield, Record.adds_field_iff hf hkey]
    exact run_set_iff
  | false =>
    rw [Record.field?_eq_none hhas, Record.adds_unknown_iff hhas]
    constructor
    · rintro ⟨reader, hreader, hrun⟩
      cases hreader
      obtain ⟨_, hpass, rfl⟩ := run_map_iff.1 hrun
      rw [pass_token] at hpass
      cases hpass
      exact ⟨rfl, rfl⟩
    · rintro ⟨rfl, rfl⟩
      exact ⟨_, rfl, run_map_iff.2 ⟨(), pass_token, rfl⟩⟩

/-- A record is what its entries, added to the defaults, make of it. -/
theorem fromText_record_iff {s : ρ} :
    library.fromText (.record r) (objectText es) = .ok s ↔
      ∃ d, Run r.Adds r.start es d ∧ s = d.value := by
  rw [fromText_ok_iff, tokens_objectText]
  simp only [Declared.read, Record.read, bind_eq_ok_iff]
  constructor
  · rintro ⟨⟨d, left⟩, hread, hs⟩
    cases hs
    exact ⟨d, ((readMembers_iff r.follows).1 hread).1, rfl⟩
  · rintro ⟨d, hrun, rfl⟩
    exact ⟨(d, []), (readMembers_iff r.follows).2 ⟨hrun, rfl⟩, rfl⟩

/-- The fields that were met are those with an entry. -/
theorem met_iff (h : Run r.Adds d es last) {f : RecordField ρ} (hf : f ∈ r.fields) :
    f.key.text ∈ last.met ↔ f.key.text ∈ d.met ∨ f.key ∈ es.map Entry.key := by
  induction es generalizing d with
  | nil =>
    obtain rfl : last = d := h
    simp
  | cons e es ih =>
    obtain ⟨next, hadds, hrun⟩ := h
    rw [ih hrun]
    cases hadds with
    | @set g a hg hkey hfresh ha =>
      have htext : f.key.text = g.key.text ↔ f.key = e.key := by
        constructor
        · intro htext
          exact (PlainText.ext htext).trans hkey
        · intro hfkey
          rw [hfkey, hkey]
      simp [Draft.put, htext, or_assoc, or_left_comm]
    | pass hno =>
      simp [Record.key_ne hf hno]

end

/-! ## Flattened records -/

section

open Flattened (FlatDraft)

variable {ρ : Type} {f : Flattened ρ} {es : List Entry}

/-- What an entry adds to a flattened record. -/
inductive Flattened.Adds (f : Flattened ρ) (d : FlatDraft f.Own) (e : Entry) :
    FlatDraft f.Own → Prop where
  | own {next : Draft f.Own} (hown : f.own.has e.key = true) (h : f.own.Adds d.own e next) :
      f.Adds d e { d with own := next }
  | hold {w : Value} (hown : f.own.has e.key = false) (hw : e.value.held = .ok w) :
      f.Adds d e { d with held := d.held ++ [(e.key.text, w)] }

theorem Flattened.adds_own_iff {d next : FlatDraft f.Own} {e : Entry}
    (h : f.own.has e.key = true) :
    f.Adds d e next ↔ ∃ own, f.own.Adds d.own e own ∧ next = { d with own } := by
  constructor
  · intro hadds
    cases hadds with
    | own _ hown => exact ⟨_, hown, rfl⟩
    | hold hno => exact Bool.noConfusion (h.symm.trans hno)
  · rintro ⟨own, hown, rfl⟩
    exact .own h hown

theorem Flattened.adds_held_iff {d next : FlatDraft f.Own} {e : Entry}
    (h : f.own.has e.key = false) :
    f.Adds d e next ↔
      ∃ w, e.value.held = .ok w ∧ next = { d with held := d.held ++ [(e.key.text, w)] } := by
  constructor
  · intro hadds
    cases hadds with
    | own hyes => exact Bool.noConfusion (h.symm.trans hyes)
    | hold _ hw => exact ⟨_, hw, rfl⟩
  · rintro ⟨w, hw, rfl⟩
    exact .hold h hw

theorem Flattened.follows (f : Flattened ρ) : Follows f.take f.Adds := by
  intro d next e ts left
  rw [readMember_iff, Flattened.take]
  cases hown : f.own.has e.key with
  | true =>
    obtain ⟨g, -, -, hfield⟩ := Record.field?_of_has hown
    have hfollows (own : Draft f.Own) := f.own.follows d.own own e ts left
    simp only [readMember_iff] at hfollows
    rw [hfield, Flattened.adds_own_iff hown]
    constructor
    · rintro ⟨reader, hreader, hrun⟩
      obtain ⟨inner, hinner, rfl⟩ := map_eq_ok_iff.1 hreader
      obtain ⟨own, hinnerRun, rfl⟩ := run_map_iff.1 hrun
      obtain ⟨hadds, hleft⟩ := (hfollows own).1 ⟨inner, hinner, hinnerRun⟩
      exact ⟨⟨own, hadds, rfl⟩, hleft⟩
    · rintro ⟨⟨own, hadds, rfl⟩, hleft⟩
      obtain ⟨inner, hinner, hrun⟩ := (hfollows own).2 ⟨hadds, hleft⟩
      exact ⟨_, map_eq_ok_iff.2 ⟨inner, hinner, rfl⟩, run_map_iff.2 ⟨own, hrun, rfl⟩⟩
  | false =>
    rw [Record.field?_eq_none hown, Flattened.adds_held_iff hown]
    constructor
    · rintro ⟨reader, hreader, hrun⟩
      cases hreader
      obtain ⟨w, hw, rfl⟩ := run_map_iff.1 hrun
      rw [hold_token] at hw
      obtain ⟨w', hheld, hw'⟩ := map_eq_ok_iff.1 hw
      cases hw'
      exact ⟨⟨w, hheld, rfl⟩, rfl⟩
    · rintro ⟨⟨w, hheld, rfl⟩, rfl⟩
      refine ⟨_, rfl, run_map_iff.2 ⟨w, ?_, rfl⟩⟩
      rw [hold_token]
      exact map_eq_ok_iff.2 ⟨w, hheld, rfl⟩

/-- The value that is held for an entry. -/
def Entry.HeldAs (e : Entry) (kept : String × Value) : Prop :=
  kept.1 = e.key.text ∧ e.value.held = .ok kept.2

/-- A flattened record takes its own entries where they stand and holds the others. -/
theorem run_flattened_iff {d last : FlatDraft f.Own} :
    Run f.Adds d es last ↔
      Run f.own.Adds d.own (es.filter fun e => f.own.has e.key) last.own ∧
        ∃ held, List.Forall₂ Entry.HeldAs (es.filter fun e => !f.own.has e.key) held ∧
          last.held = d.held ++ held := by
  induction es generalizing d with
  | nil =>
    obtain ⟨own, held⟩ := d
    obtain ⟨own', held'⟩ := last
    simp [Run]
  | cons e es ih =>
    cases hown : f.own.has e.key with
    | true =>
      simp only [List.filter_cons, hown, if_true, Bool.not_true, Bool.false_eq_true, if_false, Run,
        Flattened.adds_own_iff hown, ih]
      constructor
      · rintro ⟨_, ⟨own, hadds, rfl⟩, hrest, hheld⟩
        exact ⟨⟨own, hadds, hrest⟩, hheld⟩
      · rintro ⟨⟨own, hadds, hrest⟩, hheld⟩
        exact ⟨_, ⟨own, hadds, rfl⟩, hrest, hheld⟩
    | false =>
      simp only [List.filter_cons, hown, if_true, Bool.not_false, Bool.false_eq_true, if_false, Run,
        Flattened.adds_held_iff hown, ih]
      constructor
      · rintro ⟨_, ⟨w, hw, rfl⟩, hrest, held, hheld, hlast⟩
        refine ⟨hrest, (e.key.text, w) :: held, .cons ⟨rfl, hw⟩ hheld, ?_⟩
        rw [hlast, List.append_assoc, List.singleton_append]
      · rintro ⟨hrest, _, hheld, hlast⟩
        cases hheld with
        | @cons _ kept _ held hkept hheld =>
          obtain ⟨key, w⟩ := kept
          obtain ⟨rfl, hw⟩ := hkept
          refine ⟨_, ⟨w, hw, rfl⟩, hrest, held, hheld, ?_⟩
          rw [hlast, List.append_assoc, List.singleton_append]

section

variable {r : Record ρ} {d last : Draft ρ} {e : Entry}

/-- What was held for an entry adds the entry. -/
theorem settle_cons_iff {w : Value} (hw : e.value.held = .ok w) {held : List (String × Value)} :
    r.settle d ((e.key.text, w) :: held) = .ok last ↔
      ∃ next, r.Adds d e next ∧ r.settle next held = .ok last := by
  cases hhas : r.has e.key with
  | true =>
    obtain ⟨f, hf, hkey, hfield⟩ := Record.field?_of_has hhas
    simp only [Record.settle, hfield, bind_eq_ok_iff, Draft.fresh_ok_iff,
      Record.adds_field_iff hf hkey]
    constructor
    · rintro ⟨-, hfresh, a, ha, hlater⟩
      exact ⟨_, ⟨hfresh, a, ⟨w, hw, ha⟩, rfl⟩, hlater⟩
    · rintro ⟨_, ⟨hfresh, a, ⟨w', hw', ha⟩, rfl⟩, hlater⟩
      obtain rfl : w = w' := Except.ok.inj (hw.symm.trans hw')
      exact ⟨(), hfresh, a, ha, hlater⟩
  | false =>
    simp only [Record.settle, Record.field?_eq_none hhas, Record.adds_unknown_iff hhas,
      exists_eq_left]

theorem Record.Adds.held_ok {next : Draft ρ} (h : r.Adds d e next)
    (hfits : r.has e.key = false → e.value.Fits) : ∃ w, e.value.held = .ok w := by
  cases h with
  | set _ _ _ ha =>
    obtain ⟨w, hw, -⟩ := ha
    exact ⟨w, hw⟩
  | pass hno => exact (hfits hno).held_ok

/-- Settling what was held comes to the same as adding the entries. -/
theorem settle_iff (hfits : ∀ e ∈ es, r.has e.key = false → e.value.Fits) :
    (∃ held, List.Forall₂ Entry.HeldAs es held ∧ r.settle d held = .ok last) ↔
      Run r.Adds d es last := by
  induction es generalizing d with
  | nil =>
    constructor
    · rintro ⟨held, hheld, hsettle⟩
      cases hheld
      exact (Except.ok.inj hsettle).symm
    · intro hrun
      obtain rfl : last = d := hrun
      exact ⟨[], .nil, rfl⟩
  | cons e es ih =>
    have hrest := fun d => @ih d fun e' he' => hfits e' (List.mem_cons_of_mem e he')
    constructor
    · rintro ⟨_, hheld, hsettle⟩
      cases hheld with
      | @cons _ kept _ held hkept hheld =>
        obtain ⟨key, w⟩ := kept
        obtain ⟨rfl, hw⟩ := hkept
        obtain ⟨next, hadds, hlater⟩ := (settle_cons_iff hw).1 hsettle
        exact ⟨next, hadds, (hrest next).1 ⟨held, hheld, hlater⟩⟩
    · rintro ⟨next, hadds, hrun⟩
      obtain ⟨w, hw⟩ := hadds.held_ok (hfits e List.mem_cons_self)
      obtain ⟨held, hheld, hlater⟩ := (hrest next).2 hrun
      exact ⟨(e.key.text, w) :: held, .cons ⟨rfl, hw⟩ hheld,
        (settle_cons_iff hw).2 ⟨next, hadds, hlater⟩⟩

end

/-- A flattened record is its own record and the inner one, each read from its share of the
entries. -/
theorem fromText_flattened_iff {s : ρ}
    (hfits : ∀ e ∈ es, f.own.has e.key = false → f.inner.has e.key = false → e.value.Fits) :
    library.fromText (.flattened f) (objectText es) = .ok s ↔
      ∃ inner own, library.fromText (.record f.inner)
          (objectText (es.filter fun e => !f.own.has e.key)) = .ok inner ∧
        library.fromText (.record f.own)
          (objectText (es.filter fun e => f.own.has e.key)) = .ok own ∧
        s = f.join inner own := by
  have hothers : ∀ e ∈ es.filter fun e => !f.own.has e.key,
      f.inner.has e.key = false → e.value.Fits := by
    intro e he hinner
    obtain ⟨hmem, hown⟩ := List.mem_filter.1 he
    exact hfits e hmem (by simpa using hown) hinner
  rw [fromText_ok_iff, tokens_objectText]
  simp only [Declared.read, Flattened.read, bind_eq_ok_iff, fromText_record_iff]
  constructor
  · rintro ⟨⟨d, left⟩, hread, last, hsettle, hs⟩
    cases hs
    obtain ⟨hrun, -⟩ := (readMembers_iff f.follows).1 hread
    obtain ⟨hown, held, hheld, hlast⟩ := run_flattened_iff.1 hrun
    rw [hlast, List.nil_append] at hsettle
    have hinner := (settle_iff hothers).1 ⟨held, hheld, hsettle⟩
    exact ⟨_, _, ⟨last, hinner, rfl⟩, ⟨d.own, hown, rfl⟩, rfl⟩
  · rintro ⟨_, _, ⟨last, hinner, rfl⟩, ⟨own, hown, rfl⟩, rfl⟩
    obtain ⟨held, hheld, hsettle⟩ := (settle_iff hothers).2 hinner
    have hrun : Run f.Adds ⟨f.own.start, []⟩ es ⟨own, held⟩ :=
      run_flattened_iff.2 ⟨hown, held, hheld, rfl⟩
    exact ⟨(⟨own, held⟩, []), (readMembers_iff f.follows).2 ⟨hrun, rfl⟩, last, hsettle, rfl⟩

end

end PlanarCrop.Json
