import Mathlib.Data.List.Perm.Basic
import PlanarCrop.Proofs.DeclaredRecords
import PlanarCrop.Proofs.LibraryRules
import PlanarCrop.Settings.Reader

/-!
# What a settings text means

A settings text sets each field at most once, and a field that it does not set has its
default. Whatever library reads it, the rules say so of each record by itself; what is to be
shown is that the declarations put the six fields together in the right way. The chroma mode
and the rotation belong to the settings' own record and the margins to the inner one, so the
members of a text are dealt out between the two before anything is read, and each field
then looks at the values of its key alone (`read_ok_iff_means`). That is why it does not
matter where a member stands between the others.

A margin can be any integer of 32 bits, and an integer of any size may stand in a text. A
rotation is read by way of an integer of 16 bits, of which four are accepted. So a rotation
is refused for its size or for its value, and the four angles are what gets through both.
-/

namespace PlanarCrop

open Json

namespace Settings

/-! ## Members -/

/-- The keys that set something. -/
def keys : List PlainText := Edge.all.map Edge.plainKey ++ [chromaKey, rotationKey]

/-- A member of a settings text: one that sets something, with any value of its kind, or
another with a key of its own. -/
inductive Member where
  | margin (edge : Edge) (value : Int)
  | chroma (name : PlainText)
  | rotation (angle : Int)
  | other (name : PlainText) (unknown : name ∉ keys) (value : Scalar) (fits : value.Fits)

namespace Member

def entry : Member → Entry
  | .margin edge value => ⟨edge.plainKey, .integer value⟩
  | .chroma name => ⟨chromaKey, .text name⟩
  | .rotation angle => ⟨rotationKey, .integer angle⟩
  | .other name _ value _ => ⟨name, value⟩

def key (m : Member) : PlainText := m.entry.key

end Member

/-- The compact text of an object with these members. -/
def text (ms : List Member) : String := objectText (ms.map Member.entry)

/-- A field has the value of its only member, or its default if it has no member. -/
def Holds {α : Type} (written : α → Scalar) (values : List Scalar) (default field : α) : Prop :=
  values = [written field] ∨ values = [] ∧ field = default

def writtenMargin (margin : Int32) : Scalar := .integer margin.toInt

def writtenChroma (mode : ChromaMode) : Scalar := .text mode.plainName

def writtenRotation (rotation : Rotation) : Scalar := .integer rotation.degrees.toNat

/-- The values of the members with this key. -/
def valuesOf (key : PlainText) (ms : List Member) : List Scalar :=
  valuesAt key (ms.map Member.entry)

/-- The settings that members stand for. -/
structure Means (ms : List Member) (s : Settings) : Prop where
  margin : ∀ edge, Holds writtenMargin (valuesOf edge.plainKey ms) 0 (s.margins.get edge)
  chroma : Holds writtenChroma (valuesOf chromaKey ms) .fullResolution s.chroma
  rotation : Holds writtenRotation (valuesOf rotationKey ms) .upright s.rotation

/-- Members that settings can be read from. -/
structure Sound (ms : List Member) : Prop where
  once : ∀ key ∈ keys, (ms.map Member.key).count key ≤ 1
  margin : ∀ edge i, .margin edge i ∈ ms → -2147483648 ≤ i ∧ i ≤ 2147483647
  chroma : ∀ name, .chroma name ∈ ms →
    name.text = "full_resolution" ∨ name.text = "subsampled"
  rotation : ∀ angle, .rotation angle ∈ ms →
    angle = 0 ∨ angle = 90 ∨ angle = 180 ∨ angle = 270

variable {ms : List Member} {s : Settings}

/-! ## Keys -/

theorem plainKey_ne_chromaKey (edge : Edge) : edge.plainKey ≠ chromaKey := by
  cases edge <;> decide

theorem plainKey_ne_rotationKey (edge : Edge) : edge.plainKey ≠ rotationKey := by
  cases edge <;> decide

theorem plainKey_mem_keys (edge : Edge) : edge.plainKey ∈ keys := by
  cases edge <;> decide

theorem mem_keys_iff {key : PlainText} :
    key ∈ keys ↔ (∃ edge : Edge, edge.plainKey = key) ∨ key = chromaKey ∨ key = rotationKey := by
  constructor
  · intro h
    obtain hedge | hrest := List.mem_append.1 h
    · obtain ⟨edge, -, hkey⟩ := List.mem_map.1 hedge
      exact .inl ⟨edge, hkey⟩
    · exact .inr (by simpa using hrest)
  · rintro (⟨edge, rfl⟩ | rfl | rfl)
    · exact plainKey_mem_keys edge
    · decide
    · decide

theorem Member.key_other_ne {name : PlainText} (unknown : name ∉ keys) {v : Scalar}
    {fits : v.Fits} {key : PlainText} (h : key ∈ keys) :
    (Member.other name unknown v fits).key ≠ key := by
  rintro rfl
  exact unknown h

theorem Member.eq_margin {m : Member} {edge : Edge} (h : m.key = edge.plainKey) :
    ∃ i, m = .margin edge i := by
  cases m with
  | margin other i => exact ⟨i, by rw [Edge.plainKey_injective h]⟩
  | chroma name => exact absurd h.symm (plainKey_ne_chromaKey edge)
  | rotation angle => exact absurd h.symm (plainKey_ne_rotationKey edge)
  | other name unknown v => exact absurd h (Member.key_other_ne unknown (plainKey_mem_keys edge))

theorem Member.eq_chroma {m : Member} (h : m.key = chromaKey) : ∃ name, m = .chroma name := by
  cases m with
  | margin edge i => exact absurd h (plainKey_ne_chromaKey edge)
  | chroma name => exact ⟨name, rfl⟩
  | rotation angle => exact absurd h.symm chromaKey_ne_rotationKey
  | other name unknown v => exact absurd h (Member.key_other_ne unknown (by decide))

theorem Member.eq_rotation {m : Member} (h : m.key = rotationKey) :
    ∃ angle, m = .rotation angle := by
  cases m with
  | margin edge i => exact absurd h (plainKey_ne_rotationKey edge)
  | chroma name => exact absurd h chromaKey_ne_rotationKey
  | rotation angle => exact ⟨angle, rfl⟩
  | other name unknown v => exact absurd h (Member.key_other_ne unknown (by decide))

theorem mem_valuesOf {key : PlainText} {v : Scalar} :
    v ∈ valuesOf key ms ↔ ∃ m ∈ ms, m.key = key ∧ m.entry.value = v := by
  simp [valuesOf, valuesAt, Member.key, and_assoc]

theorem length_valuesOf (key : PlainText) (ms : List Member) :
    (valuesOf key ms).length = (ms.map Member.key).count key := by
  rw [valuesOf, valuesAt, List.length_map, List.filter_map, List.length_map, List.count,
    List.countP_map, List.countP_eq_length_filter]
  congr 1

/-! ## The declared keys -/

theorem own_has_iff {key : PlainText} :
    own.has key = true ↔ key = chromaKey ∨ key = rotationKey := by
  constructor
  · intro h
    obtain ⟨f, hf, rfl⟩ := Record.has_iff.1 h
    obtain rfl | rfl : f = chromaField ∨ f = rotationField := by simpa [own] using hf
    · exact .inl rfl
    · exact .inr rfl
  · rintro (rfl | rfl)
    · decide
    · decide

theorem own_has_margin (edge : Edge) : own.has edge.plainKey = false := by
  cases edge <;> decide

theorem inner_has (edge : Edge) : MarginRequest.record.has edge.plainKey = true :=
  Record.has_key (r := MarginRequest.record) (MarginRequest.field_mem edge)

theorem has_of_mem_keys {key : PlainText} (h : key ∈ keys) :
    own.has key = true ∨ MarginRequest.record.has key = true := by
  obtain ⟨edge, rfl⟩ | hown := mem_keys_iff.1 h
  · exact .inr (inner_has edge)
  · exact .inl (own_has_iff.2 hown)

theorem Member.fits_of_notMem {m : Member} (h : m.key ∉ keys) : m.entry.value.Fits := by
  cases m with
  | margin edge i => exact absurd (plainKey_mem_keys edge) h
  | chroma name => exact absurd (mem_keys_iff.2 (.inr (.inl rfl))) h
  | rotation angle => exact absurd (mem_keys_iff.2 (.inr (.inr rfl))) h
  | other name unknown v fits => exact fits

/-- What nobody asks for fits. -/
theorem fits_of_unknown {e : Entry} (he : e ∈ ms.map Member.entry) (hown : own.has e.key = false)
    (hinner : MarginRequest.record.has e.key = false) : e.value.Fits := by
  obtain ⟨m, -, rfl⟩ := List.mem_map.1 he
  refine Member.fits_of_notMem fun hkey => ?_
  obtain hhas | hhas := has_of_mem_keys hkey
  · exact Bool.noConfusion (hhas.symm.trans hown)
  · exact Bool.noConfusion (hhas.symm.trans hinner)

/-! ## Reading by the rules -/

variable {lib : Library}

/-- Where a leaf reads of the values only those that are written so, a field has the value
that was written, or its default. -/
theorem holds_iff {ρ : Type} {f : RecordField ρ} {written : f.Cell → Scalar} {default t : ρ}
    {values : List Scalar}
    (hread : ∀ v ∈ values, ∀ a, lib.fromText (.leaf f.leaf) v.write = .ok a ↔ v = written a) :
    f.Holds lib default values t ↔ Holds written values (f.get default) (f.get t) := by
  refine or_congr_left ?_
  constructor
  · rintro ⟨v, rfl, hv⟩
    rw [(hread v List.mem_cons_self _).1 hv]
  · rintro rfl
    exact ⟨_, rfl, (hread _ List.mem_cons_self _).2 rfl⟩

theorem read_margin_iff (h : lib.ReadsDeclared) {edge : Edge} {v : Scalar}
    (hv : v ∈ valuesOf edge.plainKey ms) (margin : Int32) :
    lib.fromText (.leaf .signed32) v.write = .ok margin ↔ v = writtenMargin margin := by
  obtain ⟨m, -, hkey, rfl⟩ := mem_valuesOf.1 hv
  obtain ⟨i, rfl⟩ := Member.eq_margin hkey
  show lib.fromText (.leaf .signed32) (Scalar.integer i).write = _ ↔ Scalar.integer i = _
  rw [h.signed32]
  simp [writtenMargin, eq_comm]

theorem read_chroma_iff (h : lib.ReadsDeclared) {v : Scalar} (hv : v ∈ valuesOf chromaKey ms)
    (mode : ChromaMode) :
    lib.fromText (.leaf ChromaMode.leaf) v.write = .ok mode ↔ v = writtenChroma mode := by
  obtain ⟨m, -, hkey, rfl⟩ := mem_valuesOf.1 hv
  obtain ⟨name, rfl⟩ := Member.eq_chroma hkey
  show lib.fromText (.leaf ChromaMode.leaf) (Scalar.text name).write = _ ↔ Scalar.text name = _
  rw [ChromaMode.leaf, h.names]
  constructor
  · intro hfind
    have hname := List.find?_some hfind
    rw [writtenChroma, of_decide_eq_true hname]
  · intro hname
    obtain rfl := Scalar.text.inj hname
    cases mode <;> decide

theorem read_rotation_iff (h : lib.ReadsDeclared) {v : Scalar} (hv : v ∈ valuesOf rotationKey ms)
    (rotation : Rotation) :
    lib.fromText (.leaf Rotation.leaf) v.write = .ok rotation ↔ v = writtenRotation rotation := by
  obtain ⟨m, -, hkey, rfl⟩ := mem_valuesOf.1 hv
  obtain ⟨i, rfl⟩ := Member.eq_rotation hkey
  show lib.fromText (.leaf Rotation.leaf) (Scalar.integer i).write = _ ↔ Scalar.integer i = _
  rw [Rotation.leaf, h.through]
  simp only [h.unsigned16]
  constructor
  · rintro ⟨d, rfl, haccept⟩
    rw [writtenRotation, Rotation.degrees_of_ofDegrees (mapError_eq_ok_iff.1 haccept)]
  · intro hi
    exact ⟨rotation.degrees, (Scalar.integer.inj hi).symm, by rw [Rotation.ofDegrees_degrees]; rfl⟩

theorem margins_iff (h : lib.ReadsDeclared) {margins : MarginRequest} :
    (∀ f ∈ MarginRequest.record.fields, f.Holds lib MarginRequest.record.default
        (valuesAt f.key ((ms.map Member.entry).filter fun e => !own.has e.key)) margins) ↔
      ∀ edge, Holds writtenMargin (valuesOf edge.plainKey ms) 0 (margins.get edge) := by
  have hfield (edge : Edge) :
      (MarginRequest.field edge).Holds lib MarginRequest.record.default
          (valuesAt edge.plainKey ((ms.map Member.entry).filter fun e => !own.has e.key)) margins ↔
        Holds writtenMargin (valuesOf edge.plainKey ms) 0 (margins.get edge) := by
    have hzero : MarginRequest.zero.get edge = 0 := by
      cases edge <;> rfl
    rw [valuesAt_filter fun e he => by rw [he, own_has_margin]; rfl]
    refine (holds_iff fun v hv margin => read_margin_iff h hv margin).trans ?_
    show Holds writtenMargin _ (MarginRequest.zero.get edge) _ ↔ _
    rw [hzero]
    rfl
  constructor
  · intro hall edge
    exact (hfield edge).1 (hall _ (MarginRequest.field_mem edge))
  · intro hall f hf
    obtain ⟨edge, rfl⟩ := MarginRequest.exists_edge_of_mem hf
    exact (hfield edge).2 (hall edge)

theorem own_iff (h : lib.ReadsDeclared) {rest : ChromaMode × Rotation} :
    (∀ f ∈ own.fields, f.Holds lib own.default
        (valuesAt f.key ((ms.map Member.entry).filter fun e => own.has e.key)) rest) ↔
      Holds writtenChroma (valuesOf chromaKey ms) .fullResolution rest.1 ∧
        Holds writtenRotation (valuesOf rotationKey ms) .upright rest.2 := by
  have hchroma : chromaField.Holds lib own.default
      (valuesAt chromaKey ((ms.map Member.entry).filter fun e => own.has e.key)) rest ↔
        Holds writtenChroma (valuesOf chromaKey ms) .fullResolution rest.1 := by
    rw [valuesAt_filter fun e he => own_has_iff.2 (.inl he)]
    exact holds_iff fun v hv mode => read_chroma_iff h hv mode
  have hrotation : rotationField.Holds lib own.default
      (valuesAt rotationKey ((ms.map Member.entry).filter fun e => own.has e.key)) rest ↔
        Holds writtenRotation (valuesOf rotationKey ms) .upright rest.2 := by
    rw [valuesAt_filter fun e he => own_has_iff.2 (.inr he)]
    exact holds_iff fun v hv rotation => read_rotation_iff h hv rotation
  constructor
  · intro hall
    exact ⟨hchroma.1 (hall chromaField (by simp [own])),
      hrotation.1 (hall rotationField (by simp [own]))⟩
  · intro hboth f hf
    obtain rfl | rfl : f = chromaField ∨ f = rotationField := by simpa [own] using hf
    · exact hchroma.2 hboth.1
    · exact hrotation.2 hboth.2

/-- A settings text is read as the settings that its members stand for. -/
theorem read_ok_iff_means (h : lib.ReadsDeclared) :
    lib.fromText (.flattened declaration) (text ms) = .ok s ↔ Means ms s := by
  rw [text, h.flattened declaration _ _ fun e he hown hinner => fits_of_unknown he hown hinner]
  simp only [h.record_ok_iff]
  constructor
  · rintro ⟨inner, rest, hinner, hown, rfl⟩
    obtain ⟨hchroma, hrotation⟩ := (own_iff h).1 hown
    exact ⟨(margins_iff h).1 hinner, hchroma, hrotation⟩
  · intro hmeans
    exact ⟨s.margins, (s.chroma, s.rotation), (margins_iff h).2 hmeans.margin,
      (own_iff h).2 ⟨hmeans.chroma, hmeans.rotation⟩, rfl⟩

/-! ## Which members are sound -/

section

variable {α : Type} {written : α → Scalar} {values : List Scalar}

theorem exists_holds_iff {default : α} :
    (∃ field, Holds written values default field) ↔
      values.length ≤ 1 ∧ ∀ v ∈ values, ∃ a, written a = v := by
  constructor
  · rintro ⟨field, rfl | ⟨rfl, -⟩⟩
    · simp
    · simp
  · rintro ⟨hlength, hall⟩
    match values with
    | [] => exact ⟨default, .inr ⟨rfl, rfl⟩⟩
    | [v] =>
      obtain ⟨a, rfl⟩ := hall v List.mem_cons_self
      exact ⟨a, .inl rfl⟩

theorem Sound.exists_field {default : α} {key : PlainText} (h : Sound ms) (hkey : key ∈ keys)
    (hvalues : ∀ m ∈ ms, m.key = key → ∃ a, written a = m.entry.value) :
    ∃ field, Holds written (valuesOf key ms) default field := by
  refine exists_holds_iff.2 ⟨?_, fun v hv => ?_⟩
  · rw [length_valuesOf]
    exact h.once key hkey
  · obtain ⟨m, hm, hmkey, rfl⟩ := mem_valuesOf.1 hv
    exact hvalues m hm hmkey

theorem Holds.perm {values' : List Scalar} {default field : α} (h : values.Perm values')
    (hholds : Holds written values default field) : Holds written values' default field := by
  obtain rfl | ⟨rfl, hfield⟩ := hholds
  · exact .inl (List.perm_singleton.1 h.symm)
  · exact .inr ⟨h.nil_eq.symm, hfield⟩

end

theorem exists_margin_iff {i : Int} :
    (∃ margin, writtenMargin margin = .integer i) ↔ -2147483648 ≤ i ∧ i ≤ 2147483647 := by
  rw [← exists_toInt_iff]
  simp [writtenMargin]

theorem exists_chroma_iff {name : PlainText} :
    (∃ mode, writtenChroma mode = .text name) ↔
      name.text = "full_resolution" ∨ name.text = "subsampled" := by
  constructor
  · rintro ⟨mode, hmode⟩
    obtain rfl : mode.plainName = name := Scalar.text.inj hmode
    cases mode with
    | fullResolution => exact .inl rfl
    | subsampled => exact .inr rfl
  · rintro (hname | hname)
    · exact ⟨.fullResolution, congrArg Scalar.text (PlainText.ext hname.symm)⟩
    · exact ⟨.subsampled, congrArg Scalar.text (PlainText.ext hname.symm)⟩

theorem exists_rotation_iff {i : Int} :
    (∃ rotation, writtenRotation rotation = .integer i) ↔
      i = 0 ∨ i = 90 ∨ i = 180 ∨ i = 270 := by
  constructor
  · rintro ⟨rotation, hrotation⟩
    obtain rfl : (rotation.degrees.toNat : Int) = i := Scalar.integer.inj hrotation
    cases rotation <;> decide
  · rintro (rfl | rfl | rfl | rfl)
    · exact ⟨.upright, rfl⟩
    · exact ⟨.quarter, rfl⟩
    · exact ⟨.half, rfl⟩
    · exact ⟨.threeQuarters, rfl⟩

theorem Means.sound (h : Means ms s) : Sound ms := by
  have hmargin (edge : Edge) := exists_holds_iff.1 ⟨_, h.margin edge⟩
  have hchroma := exists_holds_iff.1 ⟨_, h.chroma⟩
  have hrotation := exists_holds_iff.1 ⟨_, h.rotation⟩
  refine ⟨fun key hkey => ?_, fun edge i hi => ?_, fun name hname => ?_, fun angle hangle => ?_⟩
  · rw [← length_valuesOf]
    obtain ⟨edge, rfl⟩ | rfl | rfl := mem_keys_iff.1 hkey
    · exact (hmargin edge).1
    · exact hchroma.1
    · exact hrotation.1
  · exact exists_margin_iff.1 ((hmargin edge).2 _ (mem_valuesOf.2 ⟨_, hi, rfl, rfl⟩))
  · exact exists_chroma_iff.1 (hchroma.2 _ (mem_valuesOf.2 ⟨_, hname, rfl, rfl⟩))
  · exact exists_rotation_iff.1 (hrotation.2 _ (mem_valuesOf.2 ⟨_, hangle, rfl, rfl⟩))

theorem Sound.exists_means (h : Sound ms) : ∃ s, Means ms s := by
  have hmargins (edge : Edge) :
      ∃ margin, Holds writtenMargin (valuesOf edge.plainKey ms) 0 margin := by
    refine h.exists_field (plainKey_mem_keys edge) fun m hm hkey => ?_
    obtain ⟨i, rfl⟩ := Member.eq_margin hkey
    exact exists_margin_iff.2 (h.margin edge i hm)
  obtain ⟨chroma, hchroma⟩ :
      ∃ mode, Holds writtenChroma (valuesOf chromaKey ms) .fullResolution mode := by
    refine h.exists_field (by decide) fun m hm hkey => ?_
    obtain ⟨name, rfl⟩ := Member.eq_chroma hkey
    exact exists_chroma_iff.2 (h.chroma name hm)
  obtain ⟨rotation, hrotation⟩ :
      ∃ rotation, Holds writtenRotation (valuesOf rotationKey ms) .upright rotation := by
    refine h.exists_field (by decide) fun m hm hkey => ?_
    obtain ⟨angle, rfl⟩ := Member.eq_rotation hkey
    exact exists_rotation_iff.2 (h.rotation angle hm)
  choose margin hmargin using hmargins
  refine ⟨⟨⟨margin .left, margin .right, margin .top, margin .bottom⟩, chroma, rotation⟩,
    fun edge => ?_, hchroma, hrotation⟩
  cases edge <;> exact hmargin _

/-- The members that set something. -/
def known (ms : List Member) : List Member := ms.filter fun m => m.key ∈ keys

theorem valuesOf_known {key : PlainText} (h : key ∈ keys) (ms : List Member) :
    valuesOf key (known ms) = valuesOf key ms := by
  have hentries : (known ms).map Member.entry =
      (ms.map Member.entry).filter fun e => e.key ∈ keys := by
    rw [known, List.filter_map]
    rfl
  rw [valuesOf, hentries, valuesAt_filter fun e he => by rw [he]; exact decide_eq_true h, valuesOf]

/-- Neither the order of the members nor those with other keys change what is meant. -/
theorem Means.perm {ms' : List Member} (h : (known ms).Perm (known ms')) (hmeans : Means ms s) :
    Means ms' s := by
  have hperm {key : PlainText} (hkey : key ∈ keys) :
      (valuesOf key ms).Perm (valuesOf key ms') := by
    rw [← valuesOf_known hkey ms, ← valuesOf_known hkey ms']
    exact ((h.map _).filter _).map _
  exact
    { margin := fun edge => (hmeans.margin edge).perm (hperm (plainKey_mem_keys edge))
      chroma := hmeans.chroma.perm (hperm (by decide))
      rotation := hmeans.rotation.perm (hperm (by decide)) }

/-! ## Main statements -/

theorem parseWith_ok_iff {t : String} :
    parseWith lib t = .ok s ↔ lib.fromText (.flattened declaration) t = .ok s :=
  mapError_eq_ok_iff

theorem parseWith_cases (lib : Library) (t : String) :
    (∃ s, parseWith lib t = .ok s) ∨
      ∃ message, parseWith lib t = .error (.configuration message) := by
  rw [parseWith]
  cases lib.fromText (.flattened declaration) t with
  | error problem => exact .inr ⟨_, rfl⟩
  | ok s => exact .inl ⟨s, rfl⟩

/-- With a library that reads by its rules, a settings text is read if no key of the settings
occurs twice and each of their values is one that its field can have, and then a field has
the value of its member, or its default. Members with other keys and the order make no
difference. -/
theorem parse_members_text (lib : Library) (h : lib.ReadsDeclared) (ms : List Member) :
    (∀ s, parseWith lib (text ms) = .ok s ↔ Means ms s) ∧
      ((∃ s, parseWith lib (text ms) = .ok s) ↔ Sound ms) ∧
      ((∃ message, parseWith lib (text ms) = .error (.configuration message)) ↔ ¬Sound ms) ∧
      ∀ ms' : List Member, (known ms).Perm (known ms') →
        ∀ s, parseWith lib (text ms) = .ok s ↔ parseWith lib (text ms') = .ok s := by
  have hmeans (ms : List Member) (s : Settings) :
      parseWith lib (text ms) = .ok s ↔ Means ms s := by
    rw [parseWith_ok_iff, read_ok_iff_means h]
  have hsound : (∃ s, parseWith lib (text ms) = .ok s) ↔ Sound ms := by
    simp only [hmeans]
    exact ⟨fun ⟨_, hs⟩ => hs.sound, Sound.exists_means⟩
  refine ⟨hmeans ms, hsound, ?_, fun ms' hperm s => ?_⟩
  · rw [← hsound]
    constructor
    · rintro ⟨message, herror⟩ ⟨s, hok⟩
      rw [herror] at hok
      cases hok
    · exact (parseWith_cases lib (text ms)).resolve_left
  · rw [hmeans, hmeans]
    exact ⟨Means.perm hperm, Means.perm hperm.symm⟩

/-- A rotation and a negative margin in the other order, with a repeated note around the
margin. -/
theorem text_with_notes :
    library.ReadsDeclared ∧ ∃ ms : List Member,
      text ms = "\x7b\"rotation\":90,\"note\":null,\"crop_top\":-3,\"note\":true\x7d" ∧
      (known ms).Perm (known [.margin .top (-3), .rotation 90]) ∧
      parseWith library (text ms) = .ok ⟨⟨0, 0, -3, 0⟩, .fullResolution, .quarter⟩ := by
  have hknown : Means [.margin .top (-3), .rotation 90]
      ⟨⟨0, 0, -3, 0⟩, .fullResolution, .quarter⟩ := by
    refine ⟨fun edge => ?_, .inr ⟨rfl, rfl⟩, .inl rfl⟩
    cases edge with
    | left => exact .inr ⟨rfl, rfl⟩
    | right => exact .inr ⟨rfl, rfl⟩
    | top => exact .inl rfl
    | bottom => exact .inr ⟨rfl, rfl⟩
  refine ⟨library_readsDeclared, [.rotation 90, .other ⟨"note", rfl⟩ (by decide) .null trivial,
    .margin .top (-3), .other ⟨"note", rfl⟩ (by decide) (.boolean true) trivial],
    by decide, .swap _ _ _, ?_⟩
  obtain ⟨-, -, -, horder⟩ := parse_members_text library library_readsDeclared
    [.rotation 90, .other ⟨"note", rfl⟩ (by decide) .null trivial, .margin .top (-3),
      .other ⟨"note", rfl⟩ (by decide) (.boolean true) trivial]
  obtain ⟨hmeaning, -⟩ :=
    parse_members_text library library_readsDeclared [.margin .top (-3), .rotation 90]
  exact (horder [.margin .top (-3), .rotation 90] (.swap _ _ _) _).2 ((hmeaning _).2 hknown)

/-- The members that settings are written as. -/
def members (s : Settings) : List Member :=
  Edge.all.map (fun edge => .margin edge (s.margins.get edge).toInt) ++
    [.chroma s.chroma.plainName, .rotation s.rotation.degrees.toNat]

theorem renderWith_eq (h : lib.WritesDeclared) (s : Settings) :
    s.renderWith lib = .ok (text s.members) :=
  h.toText_flattened declaration s

theorem means_members (s : Settings) : Means s.members s := by
  constructor
  · intro edge
    cases edge <;> exact .inl rfl
  · exact .inl rfl
  · exact .inl rfl

/-- With a library that writes and reads by its rules, settings are written, and read back as
they were. -/
theorem parse_render (lib : Library) (hwrites : lib.WritesDeclared) (hreads : lib.ReadsDeclared)
    (s : Settings) : ∃ t, s.renderWith lib = .ok t ∧ parseWith lib t = .ok s :=
  ⟨text s.members, renderWith_eq hwrites s,
    parseWith_ok_iff.2 ((read_ok_iff_means hreads).2 s.means_members)⟩

/-- The least and the greatest margin, and neither default. -/
theorem parse_render_extremes :
    library.WritesDeclared ∧ library.ReadsDeclared ∧ ∃ t,
      renderWith library ⟨⟨-2147483648, 2147483647, -1, 0⟩, .subsampled, .threeQuarters⟩ = .ok t ∧
      t = "\x7b\"crop_left\":-2147483648,\"crop_right\":2147483647,\"crop_top\":-1," ++
        "\"crop_bottom\":0,\"chroma_margins\":\"subsampled\",\"rotation\":270\x7d" ∧
      parseWith library t =
        .ok ⟨⟨-2147483648, 2147483647, -1, 0⟩, .subsampled, .threeQuarters⟩ := by
  obtain ⟨t, hwritten, hread⟩ := parse_render library library_writesDeclared
    library_readsDeclared ⟨⟨-2147483648, 2147483647, -1, 0⟩, .subsampled, .threeQuarters⟩
  refine ⟨library_writesDeclared, library_readsDeclared, t, hwritten, ?_, hread⟩
  rw [renderWith_eq library_writesDeclared] at hwritten
  rw [← Except.ok.inj hwritten]
  decide

end Settings

end PlanarCrop
