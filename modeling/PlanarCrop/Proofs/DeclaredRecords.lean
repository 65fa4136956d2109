import Mathlib.Data.List.Induction
import PlanarCrop.Json.Library

/-!
# What the rules make of a record

The rules of a library tell what the last entry of an object does. Here they are brought
together, for any library and any record: a text is read if no field has two entries and
each entry of a field is read, and then each field has what its entry says, or its default
(`ReadsDeclared.record_ok_iff`). Nothing in this depends on where an entry stands.

The induction is on the entries from the end, as the rules are. From left to right each of
its steps is one rule. From right to left a record has to be found for the entries without
the last one, and that is the record with the last field put back to its default; there the
laws of the fields come in.
-/

namespace PlanarCrop.Json

section

variable {ρ : Type} {lib : Library} {r : Record ρ} {es : List Entry} {s : ρ}

/-- The values of the entries with this key. -/
def valuesAt (key : PlainText) (es : List Entry) : List Scalar :=
  (es.filter fun e => e.key = key).map Entry.value

/-- A field has what its only entry is read as, or its default if it has no entry. -/
def RecordField.Holds (lib : Library) (f : RecordField ρ) (default : ρ) (values : List Scalar)
    (s : ρ) : Prop :=
  (∃ v, values = [v] ∧ lib.fromText (.leaf f.leaf) v.write = .ok (f.get s)) ∨
    values = [] ∧ f.get s = f.get default

theorem valuesAt_eq_nil_iff {key : PlainText} : valuesAt key es = [] ↔ key ∉ es.map Entry.key := by
  constructor
  · intro h hmem
    obtain ⟨e, he, rfl⟩ := List.mem_map.1 hmem
    have hvalue : e.value ∈ valuesAt e.key es := by
      simp only [valuesAt, List.mem_map, List.mem_filter, decide_eq_true_eq]
      exact ⟨e, ⟨he, rfl⟩, rfl⟩
    rw [h] at hvalue
    cases hvalue
  · intro h
    rw [valuesAt, List.filter_eq_nil_iff.2, List.map_nil]
    intro e he hkey
    exact h (List.mem_map.2 ⟨e, he, by simpa using hkey⟩)

theorem valuesAt_snoc_self (key : PlainText) (v : Scalar) (es : List Entry) :
    valuesAt key (es ++ [⟨key, v⟩]) = valuesAt key es ++ [v] := by
  simp [valuesAt]

theorem valuesAt_snoc_ne {key : PlainText} {e : Entry} (h : e.key ≠ key) (es : List Entry) :
    valuesAt key (es ++ [e]) = valuesAt key es := by
  simp [valuesAt, h]

/-- Entries with other keys may be left out. -/
theorem valuesAt_filter {key : PlainText} {p : Entry → Bool} (h : ∀ e, e.key = key → p e = true)
    (es : List Entry) : valuesAt key (es.filter p) = valuesAt key es := by
  rw [valuesAt, List.filter_filter, valuesAt]
  congr 1
  refine List.filter_congr fun e _ => ?_
  by_cases hkey : e.key = key
  · simp [hkey, h e hkey]
  · simp [hkey]

/-- A field that was written once has its value, and the others are what they were. -/
theorem holds_put_iff {f : RecordField ρ} (hf : f ∈ r.fields) (hfresh : f.key ∉ es.map Entry.key)
    {v : Scalar} :
    (∀ g ∈ r.fields, g.Holds lib r.default (valuesAt g.key (es ++ [⟨f.key, v⟩])) s) ↔
      ∃ before a, (∀ g ∈ r.fields, g.Holds lib r.default (valuesAt g.key es) before) ∧
        lib.fromText (.leaf f.leaf) v.write = .ok a ∧ s = f.put before a := by
  have hnone := valuesAt_eq_nil_iff.2 hfresh
  have hself : valuesAt f.key (es ++ [⟨f.key, v⟩]) = [v] := by
    rw [valuesAt_snoc_self, hnone, List.nil_append]
  have hother {g : RecordField ρ} (hne : f.key ≠ g.key) :
      valuesAt g.key (es ++ [⟨f.key, v⟩]) = valuesAt g.key es :=
    valuesAt_snoc_ne (e := ⟨f.key, v⟩) hne es
  constructor
  · intro h
    have hown := h f hf
    rw [hself] at hown
    obtain ⟨_, hv, hread⟩ | ⟨hnil, -⟩ := hown
    · cases hv
      refine ⟨f.put s (f.get r.default), f.get s, fun g hg => ?_, hread, ?_⟩
      · by_cases hkey : f.key = g.key
        · obtain rfl := r.eq_of_key f hf g hg hkey
          exact .inr ⟨hnone, f.get_put _ _⟩
        · have hg' := h g hg
          rw [hother hkey] at hg'
          rw [RecordField.Holds, r.get_put_ne f hf g hg hkey]
          exact hg'
      · refine r.ext _ _ fun g hg => ?_
        by_cases hkey : f.key = g.key
        · obtain rfl := r.eq_of_key f hf g hg hkey
          rw [f.get_put]
        · rw [r.get_put_ne f hf g hg hkey, r.get_put_ne f hf g hg hkey]
    · cases hnil
  · rintro ⟨before, a, hbefore, hread, rfl⟩ g hg
    by_cases hkey : f.key = g.key
    · obtain rfl := r.eq_of_key f hf g hg hkey
      rw [hself]
      exact .inl ⟨v, rfl, by rw [f.get_put]; exact hread⟩
    · rw [hother hkey, RecordField.Holds, r.get_put_ne f hf g hg hkey]
      exact hbefore g hg

namespace Library.ReadsDeclared

/-- A record is read if every field has one entry that is read, or none, and the fields of
what is read are what they say. -/
theorem record_ok_iff (h : lib.ReadsDeclared) :
    lib.fromText (.record r) (objectText es) = .ok s ↔
      ∀ f ∈ r.fields, f.Holds lib r.default (valuesAt f.key es) s := by
  induction es using List.reverseRecOn generalizing s with
  | nil =>
    rw [h.defaults]
    constructor
    · intro hs f _
      cases hs
      exact .inr ⟨rfl, rfl⟩
    · intro hfields
      refine congrArg _ (r.ext _ _ fun f hf => ?_)
      obtain ⟨v, hv, -⟩ | ⟨-, hdefault⟩ := hfields f hf
      · cases hv
      · exact hdefault.symm
  | append_singleton es e ih =>
    cases hhas : r.has e.key with
    | false =>
      rw [h.unknown r e es s hhas, ih]
      refine forall₂_congr fun f hf => ?_
      rw [valuesAt_snoc_ne (Record.key_ne hf hhas).symm]
    | true =>
      obtain ⟨key, v⟩ := e
      obtain ⟨f, hf, rfl⟩ := Record.has_iff.1 hhas
      by_cases hmet : f.key ∈ es.map Entry.key
      · -- A second entry: the text is not read, and the field has two values.
        constructor
        · intro hread
          exact absurd hread (h.repeated r f es v s hf hmet)
        · intro hfields
          have hvalues := hfields f hf
          rw [valuesAt_snoc_self] at hvalues
          have hne : valuesAt f.key es ≠ [] := fun hnil => valuesAt_eq_nil_iff.1 hnil hmet
          obtain ⟨w, hw, -⟩ | ⟨hnil, -⟩ := hvalues
          · have hlength := congrArg List.length hw
            have hpos := List.length_pos_iff.2 hne
            simp only [List.length_append, List.length_cons, List.length_nil] at hlength
            omega
          · simp at hnil
      · rw [h.field r f es v s hf hmet, holds_put_iff hf hmet]
        simp only [ih]

end Library.ReadsDeclared

end

/-! ## Writing -/

/-- The scalar that a value is written as. -/
def Leaf.scalar : {α : Type} → Leaf α → α → Scalar
  | _, .signed32, a => .integer a.toInt
  | _, .unsigned16, a => .integer a.toNat
  | _, .names _ name, a => .text (name a)
  | _, .through inner into _, a => inner.scalar (into a)

/-- The entries that a record is written as. -/
def Record.entries {ρ : Type} (r : Record ρ) (s : ρ) : List Entry :=
  r.fields.map fun f => ⟨f.key, f.leaf.scalar (f.get s)⟩

namespace Library.WritesDeclared

variable {lib : Library}

theorem toText_leaf (h : lib.WritesDeclared) {α : Type} (l : Leaf α) (a : α) :
    lib.toText (.leaf l) a = .ok (l.scalar a).write := by
  induction l with
  | signed32 => exact h.signed32 a
  | unsigned16 => exact h.unsigned16 a
  | names all name => exact h.names all name a
  | through inner into accept ih => exact (h.through inner into accept a).trans (ih (into a))

theorem toText_flattened (h : lib.WritesDeclared) {ρ : Type} (f : Flattened ρ) (s : ρ) :
    lib.toText (.flattened f) s =
      .ok (objectText (f.inner.entries (f.innerOf s) ++ f.own.entries (f.ownOf s))) :=
  h.flattened f s _ _ (fun g _ => h.toText_leaf g.leaf (g.get (f.innerOf s)))
    fun g _ => h.toText_leaf g.leaf (g.get (f.ownOf s))

end Library.WritesDeclared

end PlanarCrop.Json
