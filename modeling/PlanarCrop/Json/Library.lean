import PlanarCrop.Json.Compact

/-!
# Declared types, and a library that reads and writes them

An application does not read and write JSON itself. It declares its types and
leaves the rest to a library, which makes a reader and a writer for each type out
of the declaration alone. A leaf is an integer, a name, or what is read and
written by way of another leaf. A record has fields, each under a key of its own.
And a record may be flattened, which means that it is made of two records and has
the entries of both side by side in one object.

What library that is stays open. `Library` is what can be asked of it, and what
can be relied on are the rules of its documentation: `ReadsDeclared` for reading
compact texts, one rule for each kind of declaration and each thing that may
happen to an entry, and `WritesDeclared` for writing. No rule knows any type of
an application.
-/

namespace PlanarCrop.Json

/-- A type whose values are written as one integer or one name. -/
inductive Leaf : Type → Type 1 where
  | signed32 : Leaf Int32
  | unsigned16 : Leaf UInt16
  /-- An enumeration, of which each value has a name. -/
  | names {α : Type} (all : List α) (name : α → PlainText) : Leaf α
  /-- A type whose values are written as those of another leaf. Of what is read for
  that leaf, not everything has to be accepted. -/
  | through {α β : Type} (inner : Leaf β) (into : α → β) (accept : β → Except String α) : Leaf α

/-- A field of a record, with the key under which it stands in a text. -/
structure RecordField (ρ : Type) where
  key : PlainText
  Cell : Type
  leaf : Leaf Cell
  get : ρ → Cell
  put : ρ → Cell → ρ
  get_put : ∀ (s : ρ) (a : Cell), get (put s a) = a

/-- A record that is nothing but its fields. A text need not have an entry for each
of them: the others keep what `default` has. -/
structure Record (ρ : Type) where
  /-- What the record is called in messages. -/
  name : String
  default : ρ
  fields : List (RecordField ρ)
  eq_of_key : ∀ f ∈ fields, ∀ g ∈ fields, f.key = g.key → f = g
  get_put_ne : ∀ f ∈ fields, ∀ g ∈ fields, f.key ≠ g.key →
    ∀ (s : ρ) (a : f.Cell), g.get (f.put s a) = g.get s
  ext : ∀ s t : ρ, (∀ f ∈ fields, f.get s = f.get t) → s = t

/-- Whether one of the fields stands under this key. -/
def Record.has {ρ : Type} (r : Record ρ) (key : PlainText) : Bool :=
  r.fields.any fun f => f.key = key

theorem Record.has_iff {ρ : Type} {r : Record ρ} {key : PlainText} :
    r.has key = true ↔ ∃ f ∈ r.fields, f.key = key := by
  simp [has]

theorem Record.has_key {ρ : Type} {r : Record ρ} {f : RecordField ρ} (hf : f ∈ r.fields) :
    r.has f.key = true :=
  has_iff.2 ⟨f, hf, rfl⟩

theorem Record.key_ne {ρ : Type} {r : Record ρ} {f : RecordField ρ} {key : PlainText}
    (hf : f ∈ r.fields) (h : r.has key = false) : f.key ≠ key := by
  rintro rfl
  rw [has_key hf] at h
  cases h

/-- A record with another record in one of its fields, the entries of which are not
set apart: they stand in front of those of its own fields. -/
structure Flattened (ρ : Type) where
  Inner : Type
  Own : Type
  inner : Record Inner
  own : Record Own
  join : Inner → Own → ρ
  innerOf : ρ → Inner
  ownOf : ρ → Own

inductive Declared : Type → Type 1 where
  | leaf {α : Type} (l : Leaf α) : Declared α
  | record {ρ : Type} (r : Record ρ) : Declared ρ
  | flattened {ρ : Type} (f : Flattened ρ) : Declared ρ

/-- What a library can be asked: to read a text as a value of a declared type, and to
write a value of one. Either may end with a problem, and a problem has a message. -/
structure Library where
  Problem : Type
  message : Problem → String
  fromText {α : Type} (type : Declared α) (text : String) : Except Problem α
  toText {α : Type} (type : Declared α) (value : α) : Except Problem String

namespace Library

/-- The library reads compact texts by the rules of its documentation. A rule for an
entry speaks of the last one of an object, with others in front of it. -/
structure ReadsDeclared (lib : Library) : Prop where
  /-- An integer is taken if the type has it. -/
  signed32 : ∀ (i : Int) (a : Int32),
    lib.fromText (.leaf .signed32) (Scalar.integer i).write = .ok a ↔ a.toInt = i
  unsigned16 : ∀ (i : Int) (a : UInt16),
    lib.fromText (.leaf .unsigned16) (Scalar.integer i).write = .ok a ↔ (a.toNat : Int) = i
  /-- A name stands for the first value that has it. -/
  names : ∀ {α : Type} (all : List α) (name : α → PlainText) (t : PlainText) (a : α),
    lib.fromText (.leaf (.names all name)) (Scalar.text t).write = .ok a ↔
      all.find? (fun b => name b = t) = some a
  /-- By way of another leaf is read what that leaf reads, if it is accepted. -/
  through : ∀ {α β : Type} (l : Leaf β) (into : α → β) (accept : β → Except String α)
    (text : String) (a : α),
    lib.fromText (.leaf (.through l into accept)) text = .ok a ↔
      ∃ b, lib.fromText (.leaf l) text = .ok b ∧ accept b = .ok a
  /-- A record has its defaults where the object has no entries. -/
  defaults : ∀ {ρ : Type} (r : Record ρ),
    lib.fromText (.record r) (objectText []) = .ok r.default
  /-- An entry under the key of a field sets that field to what its value is read as. -/
  field : ∀ {ρ : Type} (r : Record ρ) (f : RecordField ρ) (entries : List Entry) (v : Scalar)
    (s' : ρ),
    f ∈ r.fields → f.key ∉ entries.map Entry.key →
      (lib.fromText (.record r) (objectText (entries ++ [⟨f.key, v⟩])) = .ok s' ↔
        ∃ s a, lib.fromText (.record r) (objectText entries) = .ok s ∧
          lib.fromText (.leaf f.leaf) v.write = .ok a ∧ s' = f.put s a)
  /-- A second entry for a field is a problem. -/
  repeated : ∀ {ρ : Type} (r : Record ρ) (f : RecordField ρ) (entries : List Entry) (v : Scalar)
    (s : ρ),
    f ∈ r.fields → f.key ∈ entries.map Entry.key →
      lib.fromText (.record r) (objectText (entries ++ [⟨f.key, v⟩])) ≠ .ok s
  /-- An entry under any other key is passed over. -/
  unknown : ∀ {ρ : Type} (r : Record ρ) (e : Entry) (entries : List Entry) (s : ρ),
    r.has e.key = false →
      (lib.fromText (.record r) (objectText (entries ++ [e])) = .ok s ↔
        lib.fromText (.record r) (objectText entries) = .ok s)
  /-- A flattened record reads its own entries, and the inner record all the others.
  Those are held back until the object has ended, so they have to be values that can
  be held, even where nobody asks for them. -/
  flattened : ∀ {ρ : Type} (f : Flattened ρ) (entries : List Entry) (s : ρ),
    (∀ e ∈ entries, f.own.has e.key = false → f.inner.has e.key = false → e.value.Fits) →
      (lib.fromText (.flattened f) (objectText entries) = .ok s ↔
        ∃ inner own,
          lib.fromText (.record f.inner)
            (objectText (entries.filter fun e => !f.own.has e.key)) = .ok inner ∧
          lib.fromText (.record f.own)
            (objectText (entries.filter fun e => f.own.has e.key)) = .ok own ∧
          s = f.join inner own)

/-- The library writes compact texts, as its documentation says. -/
structure WritesDeclared (lib : Library) : Prop where
  signed32 : ∀ a : Int32,
    lib.toText (.leaf .signed32) a = .ok (Scalar.integer a.toInt).write
  unsigned16 : ∀ a : UInt16,
    lib.toText (.leaf .unsigned16) a = .ok (Scalar.integer a.toNat).write
  names : ∀ {α : Type} (all : List α) (name : α → PlainText) (a : α),
    lib.toText (.leaf (.names all name)) a = .ok (Scalar.text (name a)).write
  through : ∀ {α β : Type} (l : Leaf β) (into : α → β) (accept : β → Except String α) (a : α),
    lib.toText (.leaf (.through l into accept)) a = lib.toText (.leaf l) (into a)
  /-- A flattened record is written as an object with an entry for each field, those of
  the inner record first, in the order in which they are declared. -/
  flattened : ∀ {ρ : Type} (f : Flattened ρ) (s : ρ) (inner : RecordField f.Inner → Scalar)
    (own : RecordField f.Own → Scalar),
    (∀ g ∈ f.inner.fields,
      lib.toText (.leaf g.leaf) (g.get (f.innerOf s)) = .ok (inner g).write) →
    (∀ g ∈ f.own.fields, lib.toText (.leaf g.leaf) (g.get (f.ownOf s)) = .ok (own g).write) →
      lib.toText (.flattened f) s =
        .ok (objectText (f.inner.fields.map (fun g => ⟨g.key, inner g⟩) ++
          f.own.fields.map fun g => ⟨g.key, own g⟩))

end Library

end PlanarCrop.Json
