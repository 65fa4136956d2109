import PlanarCrop.Json.Derived
import PlanarCrop.Proofs.CompactTokens

/-!
# Reading entries

A scalar is one token, and what reads a scalar looks at its token and leaves everything
behind it as it is. With this the members of a compact object are read one by one, and
reading them all is adding their entries one after the other (`readMembers_iff`), whatever
adding one means (`Follows`).

A scalar that nobody can use yet is held back as a value, and becoming a value may cost it
its digits or fail. A leaf makes of the value what it makes of the token
(`Leaf.read_scalar_iff`). In that one lemma the two ways in which a leaf can meet a scalar
come together, and all that is said of leaves later rests on it.
-/

namespace PlanarCrop.Json

theorem run_map_iff {α β : Type} {g : α → β} {reader : Reader α} {ts left : List Token} {b : β} :
    (reader.map g).run ts = .ok (b, left) ↔ ∃ a, reader.run ts = .ok (a, left) ∧ g a = b := by
  simp only [Reader.map]
  cases reader.run ts with
  | error problem => simp [Except.map]
  | ok found =>
    obtain ⟨a, rest⟩ := found
    constructor
    · intro h
      cases h
      exact ⟨a, rfl, rfl⟩
    · rintro ⟨a', ha, rfl⟩
      cases ha
      rfl

/-! ## Scalars -/

section

variable {α : Type} {l : Leaf α} {v : Scalar} {a : α} {ts rest : List Token}

/-- The value that is made of a scalar when it is held back. -/
def Scalar.held : Scalar → Except Problem Value
  | .null => .ok .null
  | .boolean b => .ok (.boolean b)
  | .integer i => (Numeral.ofInt i).value.map .number
  | .text t => .ok (.text t.text)

theorem Scalar.Fits.held_ok (h : v.Fits) : ∃ w, v.held = .ok w := by
  cases v with
  | null => exact ⟨_, rfl⟩
  | boolean b => exact ⟨_, rfl⟩
  | integer i =>
    refine ⟨.integer i, ?_⟩
    rw [Scalar.held, Numeral.value_ofInt_iff.2 ⟨rfl, h⟩]
    rfl
  | text t => exact ⟨_, rfl⟩

theorem found_token : v.token.found = v.held.map Value.found := by
  cases v with
  | null => rfl
  | boolean b => rfl
  | integer i => cases h : (Numeral.ofInt i).value <;> simp [Scalar.token, Token.ofNumeral,
      Token.found, Scalar.held, h, Except.map]
  | text t => rfl

theorem hold_token : Reader.hold.run (v.token :: ts) = v.held.map fun w => (w, ts) := by
  show Value.readOn 1 [] .value (v.token :: ts) = _
  rw [Value.readOn]
  cases v with
  | null => rfl
  | boolean b => rfl
  | integer i => cases h : (Numeral.ofInt i).value <;> simp [Scalar.token, Token.ofNumeral,
      Value.step, Value.startWith, Value.complete, Scalar.held, h, Except.map]
  | text t => rfl

theorem pass_token : Reader.pass.run (v.token :: ts) = .ok ((), ts) := by
  cases v <;> rfl

/-- What a leaf takes a scalar for, by way of the value that is held. -/
def Leaf.Takes (l : Leaf α) (v : Scalar) (a : α) : Prop :=
  ∃ w, v.held = .ok w ∧ l.ofValue w = .ok a

theorem read_range_iff {range : IntegerRange} {f : Int → α} :
    (do
      let (i, left) ← range.read (v.token :: ts)
      return (f i, left)) = .ok (a, rest) ↔
      (∃ w, v.held = .ok w ∧ (do
        let i ← range.take w.found
        return f i) = .ok a) ∧ rest = ts := by
  simp only [IntegerRange.read, found_token]
  cases v.held with
  | error problem => simp [bind, Except.bind, Except.map]
  | ok w =>
    cases htake : range.take w.found with
    | error problem => simp [bind, Except.bind, Except.map, htake]
    | ok i => simp [bind, Except.bind, Except.map, htake, pure, Except.pure, eq_comm]

/-- Where a scalar stands, a leaf takes its token and no more, and makes of it what it
would make of the value that is held. -/
theorem Leaf.read_scalar_iff :
    l.read (v.token :: ts) = .ok (a, rest) ↔ l.Takes v a ∧ rest = ts := by
  induction l generalizing rest with
  | signed32 => exact read_range_iff
  | unsigned16 => exact read_range_iff (f := fun i => UInt16.ofNat i.toNat)
  | names all name =>
    cases v with
    | null => simp [read, readName, Takes, ofValue, Scalar.token, Scalar.held]
    | boolean b => simp [read, readName, Takes, ofValue, Scalar.token, Scalar.held]
    | integer i =>
      cases h : (Numeral.ofInt i).value <;>
        simp [read, readName, Takes, ofValue, Scalar.token, Token.ofNumeral, Scalar.held, h,
          Except.map]
    | text t =>
      simp only [read, readName, Takes, ofValue, Scalar.token, Scalar.held]
      cases h : named all name t.text <;>
        simp [bind, Except.bind, h, pure, Except.pure, eq_comm]
  | through inner into accept ih =>
    simp only [read, Takes, ofValue, bind_eq_ok_iff]
    constructor
    · rintro ⟨⟨b, left⟩, hread, c, hc, hr⟩
      obtain ⟨⟨w, hw, hb⟩, rfl⟩ := ih.1 hread
      cases hr
      exact ⟨⟨w, hw, b, hb, hc⟩, rfl⟩
    · rintro ⟨⟨w, hw, b, hb, hc⟩, rfl⟩
      exact ⟨(b, rest), ih.2 ⟨⟨w, hw, hb⟩, rfl⟩, a, hc, rfl⟩

end

/-! ## Objects -/

section

variable {δ : Type} {take : δ → String → Except Problem (Reader δ)}
  {adds : δ → Entry → δ → Prop} {d last : δ} {es : List Entry} {ts left : List Token}

/-- Entries are added one after the other. -/
def Run (adds : δ → Entry → δ → Prop) : δ → List Entry → δ → Prop
  | d, [], last => last = d
  | d, e :: es, last => ∃ next, adds d e next ∧ Run adds next es last

theorem run_snoc_iff {e : Entry} :
    Run adds d (es ++ [e]) last ↔ ∃ before, Run adds d es before ∧ adds before e last := by
  induction es generalizing d with
  | nil =>
    constructor
    · rintro ⟨next, hadds, rfl⟩
      exact ⟨d, rfl, hadds⟩
    · rintro ⟨before, rfl, hadds⟩
      exact ⟨last, hadds, rfl⟩
  | cons e' es ih =>
    constructor
    · rintro ⟨next, hadds, hrun⟩
      obtain ⟨before, hbefore, hlast⟩ := ih.1 hrun
      exact ⟨before, ⟨next, hadds, hbefore⟩, hlast⟩
    · rintro ⟨before, ⟨next, hadds, hbefore⟩, hlast⟩
      exact ⟨next, hadds, ih.2 ⟨before, hbefore, hlast⟩⟩

/-- What `adds` says of an entry is what becomes of its member, and nothing behind it is
touched. -/
def Follows (take : δ → String → Except Problem (Reader δ)) (adds : δ → Entry → δ → Prop) : Prop :=
  ∀ (d next : δ) (e : Entry) (ts left : List Token),
    readMember take d e.key.text (.colon :: e.value.token :: ts) = .ok (next, left) ↔
      adds d e next ∧ left = ts

theorem readMembers_of_end {first : Bool} (h : nextKey first ts = .ok (none, left)) :
    readMembers take d first ts = .ok (d, left) := by
  rw [readMembers.eq_def]
  split
  · next hnext => rw [h] at hnext; cases hnext
  · next hnext => rw [h] at hnext; cases hnext; rfl
  · next hnext => rw [h] at hnext; cases hnext

theorem readMembers_of_key {first : Bool} {key : String}
    (h : nextKey first ts = .ok (some key, left)) :
    readMembers take d first ts =
      match readMember take d key left with
      | .error problem => .error problem
      | .ok (next, left) => readMembers take next false left := by
  rw [readMembers.eq_def]
  split
  · next hnext => rw [h] at hnext; cases hnext
  · next hnext => rw [h] at hnext; cases hnext
  · next hnext =>
    rw [h] at hnext
    cases hnext
    split
    · next hmember => rw [hmember]
    · next hmember => rw [hmember]

/-- Where the key of an entry was found, its member is read, and then those behind it. -/
theorem readMembers_entry_iff (h : Follows take adds) {first : Bool} {e : Entry}
    (hkey : nextKey first ts =
      .ok (some e.key.text, .colon :: e.value.token :: laterTokens es))
    (hlater : ∀ next, readMembers take next false (laterTokens es) = .ok (last, left) ↔
      Run adds next es last ∧ left = []) :
    readMembers take d first ts = .ok (last, left) ↔ Run adds d (e :: es) last ∧ left = [] := by
  rw [readMembers_of_key hkey]
  constructor
  · intro hread
    split at hread
    · cases hread
    · next next _ hmember =>
      obtain ⟨hadds, rfl⟩ := (h d next e _ _).1 hmember
      obtain ⟨hrun, hleft⟩ := (hlater next).1 hread
      exact ⟨⟨next, hadds, hrun⟩, hleft⟩
  · rintro ⟨⟨next, hadds, hrun⟩, hleft⟩
    rw [(h d next e _ _).2 ⟨hadds, rfl⟩]
    exact (hlater next).2 ⟨hrun, hleft⟩

theorem readMembers_nil_iff {first : Bool} :
    readMembers take d first [.closeObject] = .ok (last, left) ↔
      Run adds d [] last ∧ left = [] := by
  have hend : nextKey first [Token.closeObject] = .ok (none, []) := by
    cases first <;> rfl
  rw [readMembers_of_end hend]
  simp [Run, eq_comm]

theorem readMembers_later_iff (h : Follows take adds) :
    readMembers take d false (laterTokens es) = .ok (last, left) ↔
      Run adds d es last ∧ left = [] := by
  induction es generalizing d with
  | nil => exact readMembers_nil_iff
  | cons e es ih => exact readMembers_entry_iff h rfl fun _ => ih

/-- Reading the members of a compact text is adding its entries. -/
theorem readMembers_iff (h : Follows take adds) :
    readMembers take d true (entryTokens es) = .ok (last, left) ↔
      Run adds d es last ∧ left = [] := by
  cases es with
  | nil => exact readMembers_nil_iff
  | cons e es => exact readMembers_entry_iff h rfl fun _ => readMembers_later_iff h

end

theorem readWhole_ok_iff {α : Type} {reader : List Token → Except Problem (α × List Token)}
    {t : String} {a : α} : readWhole reader t = .ok a ↔ reader (tokens t.toList) = .ok (a, []) := by
  rw [readWhole]
  cases hread : reader (tokens t.toList) with
  | error problem => simp [bind, Except.bind]
  | ok found =>
    obtain ⟨b, left⟩ := found
    cases left with
    | nil => simp [bind, Except.bind, pure, Except.pure]
    | cons t ts => simp [bind, Except.bind, throw, throwThe, MonadExceptOf.throw]

theorem fromText_ok_iff {α : Type} {type : Declared α} {t : String} {a : α} :
    library.fromText type t = .ok a ↔ type.read (tokens t.toList) = .ok (a, []) :=
  readWhole_ok_iff

/-- As a text of its own, a scalar is read as what the leaf takes it for. -/
theorem fromText_leaf_iff {α : Type} {l : Leaf α} {v : Scalar} {a : α} :
    library.fromText (.leaf l) v.write = .ok a ↔ l.Takes v a := by
  have htokens := @tokens_scalar [] trivial v
  rw [List.append_nil, tokens_nil] at htokens
  rw [fromText_ok_iff, htokens, Declared.read, Leaf.read_scalar_iff]
  simp

end PlanarCrop.Json
