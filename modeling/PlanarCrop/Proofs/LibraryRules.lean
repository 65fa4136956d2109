import PlanarCrop.Proofs.RecordReading

/-!
# The rules hold of the library that runs

`library` keeps the rules for reading (`library_readsDeclared`) and those for writing
(`library_writesDeclared`). A rule about the last entry of an object is read off the last
step of adding entries, together with what was met before it (`met_iff`). Of the rules for
leaves the ones for integers are not idle: an integer of any size may stand in a text, it is
made a double where it does not fit 64 bits, and no double is ever taken for an integer.
-/

namespace PlanarCrop.Json

/-! ## The rules for reading -/

/-- An integer is taken if it lies in the range, whatever became of its digits. -/
theorem take_ofInt_iff {range : IntegerRange} (hleast : -0x8000000000000000 ≤ range.least)
    (hgreatest : range.greatest < 0x10000000000000000) {i k : Int} :
    (∃ w, (Scalar.integer i).held = .ok w ∧ range.take w.found = .ok k) ↔
      k = i ∧ range.least ≤ i ∧ i ≤ range.greatest := by
  simp only [Scalar.held, map_eq_ok_iff]
  constructor
  · rintro ⟨_, ⟨n, hvalue, rfl⟩, htake⟩
    cases n with
    | integer j =>
      obtain ⟨rfl, -⟩ := Numeral.value_ofInt_iff.1 hvalue
      simp only [Value.found, IntegerRange.take] at htake
      split at htake
      · next hrange => exact ⟨(Except.ok.inj htake).symm, hrange⟩
      · cases htake
    | real x => cases htake
  · rintro ⟨rfl, hlow, hhigh⟩
    refine ⟨_, ⟨_, Numeral.value_ofInt_iff.2 ⟨rfl, by omega, by omega⟩, rfl⟩, ?_⟩
    simp only [Value.found, IntegerRange.take]
    rw [if_pos ⟨hlow, hhigh⟩]

theorem exists_toInt_iff {i : Int} :
    (∃ a : Int32, a.toInt = i) ↔ -2147483648 ≤ i ∧ i ≤ 2147483647 := by
  constructor
  · rintro ⟨a, rfl⟩
    have hlow := a.le_toInt
    have hhigh := a.toInt_lt
    omega
  · rintro ⟨hlow, hhigh⟩
    exact ⟨Int32.ofInt i, Int32.toInt_ofInt_of_le (by omega) (by omega)⟩

theorem takes_signed32_iff {i : Int} {a : Int32} :
    Leaf.signed32.Takes (.integer i) a ↔ a.toInt = i := by
  simp only [Leaf.Takes, Leaf.ofValue, bind_eq_ok_iff]
  constructor
  · rintro ⟨w, hw, k, htake, ha⟩
    obtain ⟨rfl, hrange⟩ := (take_ofInt_iff (by decide) (by decide)).1 ⟨w, hw, htake⟩
    obtain ⟨b, rfl⟩ := exists_toInt_iff.2 hrange
    cases ha
    rw [Int32.ofInt_toInt]
  · rintro rfl
    obtain ⟨w, hw, htake⟩ := (@take_ofInt_iff .signed32 (by decide) (by decide) a.toInt _).2
      ⟨rfl, exists_toInt_iff.1 ⟨a, rfl⟩⟩
    exact ⟨w, hw, _, htake, by rw [Int32.ofInt_toInt]; rfl⟩

theorem takes_unsigned16_iff {i : Int} {a : UInt16} :
    Leaf.unsigned16.Takes (.integer i) a ↔ (a.toNat : Int) = i := by
  simp only [Leaf.Takes, Leaf.ofValue, bind_eq_ok_iff]
  have hbound := a.toNat_lt
  constructor
  · rintro ⟨w, hw, k, htake, ha⟩
    obtain ⟨rfl, hlow, hhigh⟩ := (take_ofInt_iff (by decide) (by decide)).1 ⟨w, hw, htake⟩
    simp only [IntegerRange.unsigned16] at hlow hhigh
    cases ha
    rw [UInt16.toNat_ofNat']
    omega
  · rintro rfl
    obtain ⟨w, hw, htake⟩ :=
      (@take_ofInt_iff .unsigned16 (by decide) (by decide) (a.toNat : Int) _).2
        ⟨rfl, Int.natCast_nonneg _, by simp only [IntegerRange.unsigned16]; omega⟩
    exact ⟨w, hw, _, htake, by rw [Int.toNat_natCast, UInt16.ofNat_toNat]; rfl⟩

theorem takes_names_iff {α : Type} {all : List α} {name : α → PlainText} {t : PlainText} {a : α} :
    (Leaf.names all name).Takes (.text t) a ↔ all.find? (fun b => name b = t) = some a := by
  have hsame : (fun b => (name b).text == t.text) = fun b => decide (name b = t) := by
    funext b
    by_cases hname : name b = t
    · simp [hname]
    · have htext : (name b).text ≠ t.text := fun htext => hname (PlainText.ext htext)
      simp [hname, htext]
  simp only [Leaf.Takes, Leaf.ofValue, Scalar.held, Except.ok.injEq, exists_eq_left', Leaf.named,
    hsame]
  cases all.find? fun b => decide (name b = t) with
  | none => simp
  | some b => simp

/-- The library reads declared types by the rules. -/
theorem library_readsDeclared : library.ReadsDeclared where
  signed32 _ _ := fromText_leaf_iff.trans takes_signed32_iff
  unsigned16 _ _ := fromText_leaf_iff.trans takes_unsigned16_iff
  names _ _ _ _ := fromText_leaf_iff.trans takes_names_iff
  through l into accept text a := by
    simp only [fromText_ok_iff, Declared.read, Leaf.read, bind_eq_ok_iff, mapError_eq_ok_iff]
    constructor
    · rintro ⟨⟨b, left⟩, hread, c, haccept, hs⟩
      cases hs
      exact ⟨b, hread, haccept⟩
    · rintro ⟨b, hread, haccept⟩
      exact ⟨(b, []), hread, a, haccept, rfl⟩
  defaults r := fromText_record_iff.2 ⟨r.start, rfl, rfl⟩
  field r f es v s' hf hfresh := by
    simp only [fromText_record_iff, run_snoc_iff, fromText_leaf_iff,
      Record.adds_field_iff (e := ⟨f.key, v⟩) hf rfl]
    constructor
    · rintro ⟨_, ⟨d, hrun, -, a, ha, rfl⟩, rfl⟩
      exact ⟨d.value, a, ⟨d, hrun, rfl⟩, ha, rfl⟩
    · rintro ⟨_, a, ⟨d, hrun, rfl⟩, ha, rfl⟩
      have hmet : f.key.text ∉ d.met := by
        rw [met_iff hrun hf]
        simpa [Record.start] using hfresh
      exact ⟨_, ⟨d, hrun, hmet, a, ha, rfl⟩, rfl⟩
  repeated r f es v s hf hmet := by
    simp only [ne_eq, fromText_record_iff, run_snoc_iff,
      Record.adds_field_iff (e := ⟨f.key, v⟩) hf rfl]
    rintro ⟨_, ⟨d, hrun, hfresh, -⟩, -⟩
    exact hfresh ((met_iff hrun hf).2 (.inr hmet))
  unknown r e es s hno := by
    simp only [fromText_record_iff, run_snoc_iff, Record.adds_unknown_iff hno, exists_eq_right']
  flattened _ _ _ := fromText_flattened_iff

/-! ## The rules for writing -/

theorem flatMap_writeChar (t : PlainText) : t.text.toList.flatMap writeChar = t.text.toList := by
  have hchar : ∀ c ∈ t.text.toList, writeChar c = [c] := by
    intro c hc
    obtain ⟨hquote, hslash, hcontrol⟩ := t.plain_of_mem c hc
    have hne {d : Char} (hd : d.toNat < 0x20) : c ≠ d := by
      rintro rfl
      exact hcontrol hd
    simp [writeChar, hquote, hslash, hcontrol, hne]
  rw [List.flatMap_congr hchar]
  simp

theorem writeText_plain (t : PlainText) : writeText t.text = t.quoted.toList := by
  rw [writeText, flatMap_writeChar, t.toList_quoted]
  rfl

theorem render_integer (i : Int) : (Value.integer i).render = (Scalar.integer i).write := by
  show String.ofList (writeInteger i) = toString i
  rw [← toList_toString, String.ofList_toList]

theorem separated_eq (parts : List (List Char)) : separated parts = [','].intercalate parts := by
  induction parts with
  | nil => rfl
  | cons part parts ih =>
    cases parts with
    | nil => simp [separated]
    | cons next parts =>
      show part ++ ',' :: separated (next :: parts) = _
      rw [ih, List.intercalate_cons_cons]
      simp

/-- The text of a member. -/
def writeMember (m : String × Value) : List Char := writeText m.1 ++ ':' :: m.2.write

theorem writeMembers_eq_map (ms : List (String × Value)) :
    Value.writeMembers ms = ms.map writeMember := by
  induction ms with
  | nil => rfl
  | cons m ms ih =>
    rw [Value.writeMembers, ih]
    rfl

theorem render_object {ms : List (String × Value)} {es : List Entry}
    (h : ms.map writeMember = es.map fun e => e.write.toList) :
    (Value.object ms).render = objectText es := by
  rw [← String.toList_inj, Value.render, String.toList_ofList, Value.write, separated_eq,
    writeMembers_eq_map, h, toList_objectText]
  rfl

/-- Where each field is written as a scalar, the members of a record are entries. -/
theorem map_writeMember {ρ : Type} {r : Record ρ} {s : ρ} {value : RecordField ρ → Scalar}
    (h : ∀ g ∈ r.fields, library.toText (.leaf g.leaf) (g.get s) = .ok (value g).write) :
    (r.members s).map writeMember =
      (r.fields.map fun g => (⟨g.key, value g⟩ : Entry)).map fun e => e.write.toList := by
  rw [Record.members, List.map_map, List.map_map]
  refine List.map_congr_left fun g hg => ?_
  have hvalue : (g.leaf.toValue (g.get s)).write = (value g).write.toList := by
    rw [← String.toList_ofList (l := (g.leaf.toValue (g.get s)).write)]
    exact congrArg String.toList (Except.ok.inj (h g hg))
  simp [writeMember, Entry.write, writeText_plain, hvalue, String.toList_append]

/-- The library writes declared types by the rules. -/
theorem library_writesDeclared : library.WritesDeclared where
  signed32 a := congrArg Except.ok (render_integer a.toInt)
  unsigned16 a := congrArg Except.ok (render_integer a.toNat)
  names all name a := by
    refine congrArg Except.ok ?_
    show String.ofList (writeText (name a).text) = (name a).quoted
    rw [writeText_plain, String.ofList_toList]
  through _ _ _ _ := rfl
  flattened f s inner own hinner hown := by
    refine congrArg Except.ok (render_object ?_)
    rw [Flattened.members, List.map_append, List.map_append, map_writeMember hinner,
      map_writeMember hown]

end PlanarCrop.Json
