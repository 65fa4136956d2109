import PlanarCrop.Fault
import PlanarCrop.Json.Library
import PlanarCrop.Json.Passing
import PlanarCrop.Json.Reader

/-!
# Readers and writers made from declarations

A library that runs. A leaf looks at the tokens of its value only. A record goes
through the members of an object: before the colon it is checked that the key was
not met before, behind it the value is read by the leaf of the field, or passed over
if there is no such field. A record can also be read from a list with one item for
each field, in the order of the declaration.

A flattened record reads the members of its own fields where they stand. All other
values are read to their ends and held back; once the object has ended, those with a
key of the inner record are checked in the order of the text, and the others are
forgotten. So a value for the inner record is looked at twice, and the second time
not as tokens.
-/

namespace PlanarCrop.Json

/-- A reader of what is at the front of the tokens. It takes at least one of them. -/
structure Reader (α : Type) where
  run : List Token → Except Problem (α × List Token)
  shorter : ∀ {ts : List Token} {r : α × List Token}, run ts = .ok r → r.2.length < ts.length

namespace Reader

variable {α β : Type}

def map (f : α → β) (reader : Reader α) : Reader β where
  run ts := (reader.run ts).map fun (a, rest) => (f a, rest)
  shorter := by
    intro ts r h
    cases hrun : reader.run ts with
    | error problem => rw [hrun] at h; cases h
    | ok found => rw [hrun] at h; cases h; exact reader.shorter hrun

/-- Passes over a value that nobody asks for. -/
def pass : Reader Unit where
  run ts := (Passing.pass ts).map fun rest => ((), rest)
  shorter := by
    intro ts r h
    cases hpass : Passing.pass ts with
    | error problem => rw [hpass] at h; cases h
    | ok rest => rw [hpass] at h; cases h; exact Passing.length_passOn hpass

/-- Reads a value that is a member of an object around which nothing is open. -/
def hold : Reader Value where
  run := Value.read 1
  shorter h := Value.length_readOn h

end Reader

/-! ## Leaves -/

namespace Leaf

variable {α : Type}

/-- The value with this name. -/
def named (all : List α) (name : α → PlainText) (s : String) : Except Problem α :=
  match all.find? fun a => (name a).text == s with
  | some a => .ok a
  | none => .error (.unknownName s (all.map fun a => (name a).text))

/-- What closes an object that holds a name as its only key. The value of the key
is null. -/
def closeName (ts : List Token) : Except Problem (List Token) := do
  match ← afterColon ts with
  | [] => throw .endBeforeValue
  | t :: ts =>
    match ← t.found with
    | .null =>
      match ts with
      | [] => throw .endInObject
      | .closeObject :: ts => return ts
      | _ => throw .noValue
    | found => throw (.wrongKind found "unit")

/-- A name alone, or an object with the name as its only key. -/
def readName (all : List α) (name : α → PlainText) :
    List Token → Except Problem (α × List Token)
  | [] => .error .endBeforeValue
  | .text content _ :: ts => do
    let a ← named all name (← content)
    return (a, ts)
  | .openObject :: ts => do
    match ← nextKey true ts with
    | (none, _) => throw .noValue
    | (some key, ts) =>
      let a ← named all name key
      let ts ← closeName ts
      return (a, ts)
  | _ => .error .noValue

/-- The value at the front of the tokens. -/
def read : {α : Type} → Leaf α → List Token → Except Problem (α × List Token)
  | _, .signed32, ts => do
    let (i, ts) ← IntegerRange.signed32.read ts
    return (Int32.ofInt i, ts)
  | _, .unsigned16, ts => do
    let (i, ts) ← IntegerRange.unsigned16.read ts
    return (UInt16.ofNat i.toNat, ts)
  | _, .names all name, ts => readName all name ts
  | _, .through inner _ accept, ts => do
    let (b, ts) ← inner.read ts
    let a ← (accept b).mapError .refused
    return (a, ts)

/-- What a value that was held back is read as. -/
def ofValue : {α : Type} → Leaf α → Value → Except Problem α
  | _, .signed32, v => do
    let i ← IntegerRange.signed32.take v.found
    return Int32.ofInt i
  | _, .unsigned16, v => do
    let i ← IntegerRange.unsigned16.take v.found
    return UInt16.ofNat i.toNat
  | _, .names all name, v =>
    match v with
    | .text s => named all name s
    | .object [(key, .null)] => named all name key
    | .object [(key, v)] => do
      let _ ← named all name key
      throw (.wrongKind v.found "unit")
    | .object _ => .error (.refused "invalid value: map, expected map with a single key")
    | v => .error (.wrongKind v.found "string or map")
  | _, .through inner _ accept, v => do
    let b ← inner.ofValue v
    (accept b).mapError .refused

/-- The value as it is written. -/
def toValue : {α : Type} → Leaf α → α → Value
  | _, .signed32, a => .integer a.toInt
  | _, .unsigned16, a => .integer a.toNat
  | _, .names _ name, a => .text (name a).text
  | _, .through inner into _, a => inner.toValue (into a)

theorem length_closeName {ts r : List Token} (h : closeName ts = .ok r) :
    r.length < ts.length := by
  simp only [closeName, bind, Except.bind] at h
  split at h; · cases h
  next hcolon =>
    have hlt := length_afterColon hcolon
    split at h; · cases h
    split at h; · cases h
    split at h
    · split at h
      · cases h
      · cases h
        simp only [List.length_cons] at hlt
        omega
      · cases h
    · cases h

theorem length_readName {all : List α} {name : α → PlainText} {ts : List Token}
    {r : α × List Token} (h : readName all name ts = .ok r) : r.2.length < ts.length := by
  unfold readName at h
  split at h
  · cases h
  · simp only [bind, Except.bind, pure, Except.pure] at h
    split at h; · cases h
    split at h; · cases h
    cases h
    exact Nat.lt_succ_self _
  · simp only [bind, Except.bind, pure, Except.pure] at h
    split at h; · cases h
    next hkey =>
      split at h
      · cases h
      · split at h; · cases h
        split at h; · cases h
        next hclose =>
          cases h
          have hlt := Nat.lt_trans (length_closeName hclose) (length_nextKey hkey)
          exact Nat.lt_succ_of_lt hlt
  · cases h

theorem length_read {l : Leaf α} {ts : List Token} {r : α × List Token}
    (h : l.read ts = .ok r) : r.2.length < ts.length := by
  induction l with
  | signed32 =>
    obtain ⟨found, hfound, hr⟩ := bind_eq_ok_iff.1 h
    cases hr
    exact length_readInteger hfound
  | unsigned16 =>
    obtain ⟨found, hfound, hr⟩ := bind_eq_ok_iff.1 h
    cases hr
    exact length_readInteger hfound
  | names all name => exact length_readName h
  | through inner into accept ih =>
    obtain ⟨found, hfound, hrest⟩ := bind_eq_ok_iff.1 h
    obtain ⟨a, -, hr⟩ := bind_eq_ok_iff.1 hrest
    cases hr
    exact ih hfound

def reader (l : Leaf α) : Reader α := ⟨l.read, length_read⟩

end Leaf

/-! ## Members -/

section

variable {δ : Type} (take : δ → String → Except Problem (Reader δ))

/-- Takes in the member with this key, of which the colon comes next. `take` says
from the key how the value is to be read. -/
def readMember (d : δ) (key : String) (ts : List Token) : Except Problem (δ × List Token) := do
  let reader ← take d key
  let ts ← afterColon ts
  reader.run ts

theorem length_readMember {d : δ} {key : String} {ts : List Token} {r : δ × List Token}
    (h : readMember take d key ts = .ok r) : r.2.length < ts.length := by
  obtain ⟨reader, -, hrest⟩ := bind_eq_ok_iff.1 h
  obtain ⟨behind, hcolon, hrun⟩ := bind_eq_ok_iff.1 hrest
  exact Nat.lt_trans (reader.shorter hrun) (length_afterColon hcolon)

/-- Takes in the members up to the closing brace. -/
def readMembers (d : δ) (first : Bool) (ts : List Token) : Except Problem (δ × List Token) :=
  match _hkey : nextKey first ts with
  | .error problem => .error problem
  | .ok (none, rest) => .ok (d, rest)
  | .ok (some key, rest) =>
    match _hmember : readMember take d key rest with
    | .error problem => .error problem
    | .ok (d, rest) => readMembers d false rest
termination_by ts.length
decreasing_by exact Nat.lt_trans (length_readMember take _hmember) (length_nextKey _hkey)

end

/-! ## Records -/

/-- A record of which some members were read: their keys, and the record with their
values in it. -/
structure Draft (ρ : Type) where
  met : List String
  value : ρ

namespace Draft

variable {ρ : Type}

/-- The draft with one more field. -/
def put (d : Draft ρ) (f : RecordField ρ) (a : f.Cell) : Draft ρ :=
  ⟨f.key.text :: d.met, f.put d.value a⟩

/-- Refuses a second value for a field. -/
def fresh (d : Draft ρ) (f : RecordField ρ) : Except Problem Unit :=
  if f.key.text ∈ d.met then .error (.repeatedKey f.key.text) else .ok ()

/-- How the value of a field is read into the draft. -/
def set (d : Draft ρ) (f : RecordField ρ) : Except Problem (Reader (Draft ρ)) := do
  d.fresh f
  return f.leaf.reader.map (d.put f)

end Draft

namespace Record

variable {ρ : Type}

def start (r : Record ρ) : Draft ρ := ⟨[], r.default⟩

/-- The field with this key. -/
def field? (r : Record ρ) (key : String) : Option (RecordField ρ) :=
  r.fields.find? fun f => f.key.text == key

def take (r : Record ρ) (d : Draft ρ) (key : String) : Except Problem (Reader (Draft ρ)) :=
  match r.field? key with
  | some f => d.set f
  | none => .ok (Reader.pass.map fun _ => d)

/-- Takes in values that were held back, those of the fields among them. -/
def settle (r : Record ρ) (d : Draft ρ) : List (String × Value) → Except Problem (Draft ρ)
  | [] => .ok d
  | (key, v) :: rest =>
    match r.field? key with
    | some f => do
      d.fresh f
      let a ← f.leaf.ofValue v
      r.settle (d.put f a) rest
    | none => r.settle d rest

/-- What may stand behind the last item of a list. -/
def closeList : List Token → Except Problem (List Token)
  | [] => .error .endInList
  | .closeList :: ts => .ok ts
  | .comma :: .closeList :: _ => .error .trailingComma
  | _ => .error .trailingText

/-- Takes in one item for each of the fields, up to the end of the list. -/
def readItems (s : ρ) (first : Bool) :
    List (RecordField ρ) → List Token → Except Problem (ρ × List Token)
  | [], ts => do
    let ts ← closeList ts
    return (s, ts)
  | f :: fields, ts =>
    match first, ts with
    | _, [] => .error .endInList
    | _, .closeList :: ts => .ok (s, ts)
    | false, .comma :: .closeList :: _ => .error .trailingComma
    | false, .comma :: ts => do
      let (a, ts) ← f.leaf.read ts
      readItems (f.put s a) false fields ts
    | false, _ => .error .noCommaInList
    | true, ts => do
      let (a, ts) ← f.leaf.read ts
      readItems (f.put s a) false fields ts

/-- The record at the front of the tokens. -/
def read (r : Record ρ) : List Token → Except Problem (ρ × List Token)
  | [] => .error .endBeforeValue
  | .openObject :: ts => do
    let (d, ts) ← readMembers r.take r.start true ts
    return (d.value, ts)
  | .openList :: ts => readItems r.default true r.fields ts
  | t :: _ => do
    let found ← t.found
    throw (.wrongKind found ("struct " ++ r.name))

/-- The members as they are written. -/
def members (r : Record ρ) (s : ρ) : List (String × Value) :=
  r.fields.map fun f => (f.key.text, f.leaf.toValue (f.get s))

end Record

namespace Flattened

variable {ρ : Type}

/-- A flattened record of which some members were read. Those that are not of its own
fields are held back. -/
structure FlatDraft (ω : Type) where
  own : Draft ω
  held : List (String × Value)

def take (f : Flattened ρ) (d : FlatDraft f.Own) (key : String) :
    Except Problem (Reader (FlatDraft f.Own)) :=
  match f.own.field? key with
  | some _ => (f.own.take d.own key).map (Reader.map fun own => { d with own })
  | none => .ok (Reader.hold.map fun v => { d with held := d.held ++ [(key, v)] })

/-- The record at the front of the tokens. -/
def read (f : Flattened ρ) : List Token → Except Problem (ρ × List Token)
  | [] => .error .endBeforeValue
  | .openObject :: ts => do
    let (d, ts) ← readMembers f.take ⟨f.own.start, []⟩ true ts
    let inner ← f.inner.settle f.inner.start d.held
    return (f.join inner.value d.own.value, ts)
  | t :: _ => do
    let found ← t.found
    throw (.wrongKind found ("struct " ++ f.own.name))

/-- The members as they are written. -/
def members (f : Flattened ρ) (s : ρ) : List (String × Value) :=
  f.inner.members (f.innerOf s) ++ f.own.members (f.ownOf s)

end Flattened

namespace Declared

def read {α : Type} : Declared α → List Token → Except Problem (α × List Token)
  | .leaf l => l.read
  | .record r => r.read
  | .flattened f => f.read

def toValue {α : Type} : Declared α → α → Value
  | .leaf l, a => l.toValue a
  | .record r, s => .object (r.members s)
  | .flattened f, s => .object (f.members s)

end Declared

/-- The readers and writers above as a library. -/
def library : Library where
  Problem := Problem
  message := Problem.message
  fromText type text := readWhole type.read text
  toText type value := .ok (type.toValue value).render

end PlanarCrop.Json
