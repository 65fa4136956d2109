import Mathlib.Data.List.Basic
import PlanarCrop.Json.Compact
import PlanarCrop.Json.Reader

/-!
# The tokens of compact texts

In a compact text one part follows the other without a blank, so the reader finds the end
of a part by itself. For a mark or a word that is nothing to speak of, and a quoted text
ends with its quote. A numeral has no such end: it is over when what comes next is no
part of it (`EndsNumeral`), and in an object a comma or a brace comes next.

What is written without quotes, backslashes and control characters is read as it stands.
What is written as an integer need not be read as one. Its digits are taken in as long as
they fit 64 bits, and of a numeral that does not fit a double is made. So an integer
comes back exactly if it is one of 64 bits, which is what `value_ofInt_iff` says, and no
other integer is ever mistaken for one that is.
-/

namespace PlanarCrop.Json

/-! ## Numerals -/

/-- A text that no numeral in front of it goes on with. -/
def EndsNumeral : List Char → Prop
  | [] => True
  | c :: _ => c.isDigit = false ∧ c ≠ '.' ∧ c ≠ 'e' ∧ c ≠ 'E'

theorem takeWhile_digits {ds rest : List Char} (hds : ∀ c ∈ ds, c.isDigit = true)
    (hrest : EndsNumeral rest) : (ds ++ rest).takeWhile Char.isDigit = ds := by
  rw [List.takeWhile_append_of_pos hds]
  cases rest with
  | nil => simp
  | cons c rest => simp [hrest.1]

theorem dropWhile_digits {ds rest : List Char} (hds : ∀ c ∈ ds, c.isDigit = true)
    (hrest : EndsNumeral rest) : (ds ++ rest).dropWhile Char.isDigit = rest := by
  rw [List.dropWhile_append_of_pos hds]
  cases rest with
  | nil => rfl
  | cons c rest => simp [hrest.1]

theorem isDigit_of_mem_digits {n : Nat} : ∀ c ∈ Nat.toDigits 10 n, c.isDigit = true :=
  fun _ hc => Nat.isDigit_of_mem_toDigits (by decide) (by decide) hc

/-- Zero is the only number that is written with a leading zero. -/
theorem head?_toDigits_eq_zero {n : Nat} (h : (Nat.toDigits 10 n).head? = some '0') :
    n = 0 := by
  induction n using Nat.strongRecOn with
  | ind n ih =>
    by_cases hn : n < 10
    · rw [Nat.toDigits_of_lt_base hn] at h
      simpa using h
    · obtain ⟨c, ds, hds⟩ := List.exists_cons_of_ne_nil (@Nat.toDigits_ne_nil (n / 10) 10)
      rw [Nat.toDigits_of_base_le (by decide) (by omega), hds] at h
      have hzero := ih (n / 10) (by omega) (by rw [hds]; exact h)
      omega

namespace Numeral

/-- The numeral of an integer in its only spelling. -/
def ofInt (i : Int) : Numeral :=
  { negative := decide (i < 0), whole := Nat.toDigits 10 i.natAbs, fraction := none,
    exponent := none }

theorem wholePart_toDigits {rest : List Char} (h : EndsNumeral rest) (n : Nat) :
    wholePart (Nat.toDigits 10 n ++ rest) = .ok (Nat.toDigits 10 n, rest) := by
  have hdigits : digits (Nat.toDigits 10 n ++ rest) = .ok (Nat.toDigits 10 n, rest) := by
    rw [digits, takeWhile_digits isDigit_of_mem_digits h, dropWhile_digits isDigit_of_mem_digits h,
      if_neg Nat.toDigits_ne_nil]
  rw [wholePart, hdigits]
  split
  · next hflaw => cases hflaw
  · next hzero =>
    obtain ⟨hds, -⟩ := Prod.mk.inj (Except.ok.inj hzero)
    obtain rfl := @head?_toDigits_eq_zero n (by rw [hds]; rfl)
    simp at hds
  · next hfound => exact hfound.symm

theorem unsigned_toDigits {rest : List Char} (h : EndsNumeral rest) (negative : Bool) (n : Nat) :
    unsigned negative (Nat.toDigits 10 n ++ rest) =
      .ok (⟨negative, Nat.toDigits 10 n, none, none⟩, rest) := by
  have hfraction : fractionPart rest = .ok (none, rest) := by
    unfold fractionPart
    split
    · exact absurd rfl h.2.1
    · rfl
  have hexponent : exponentPart rest = .ok (none, rest) := by
    unfold exponentPart
    split
    · rw [if_neg (by simp [h.2.2.1, h.2.2.2])]
    · rfl
  simp [unsigned, wholePart_toDigits h, hfraction, hexponent, bind, Except.bind, pure, Except.pure]

theorem read_writeInteger {rest : List Char} (h : EndsNumeral rest) (i : Int) :
    read (writeInteger i ++ rest) = .ok (ofInt i, rest) := by
  cases i with
  | ofNat n =>
    have hunsigned := unsigned_toDigits h false n
    show read (Nat.toDigits 10 n ++ rest) = _
    unfold read
    split
    · next hminus =>
      obtain ⟨c, ds, hds⟩ := List.exists_cons_of_ne_nil (@Nat.toDigits_ne_nil n 10)
      rw [hds, List.cons_append] at hminus
      obtain ⟨rfl, -⟩ := List.cons.inj hminus
      exact absurd (isDigit_of_mem_digits (n := n) '-' (by simp [hds])) (by decide)
    · rw [hunsigned]
      rfl
  | negSucc n =>
    show unsigned true (Nat.toDigits 10 (n + 1) ++ rest) = _
    rw [unsigned_toDigits h true (n + 1), ofInt, decide_eq_true (Int.negSucc_lt_zero n)]
    rfl

/-! ## The value of an integer -/

theorem le_ofDigitChars (ds : List Char) (significand : Nat) :
    significand ≤ Nat.ofDigitChars 10 ds significand := by
  induction ds generalizing significand with
  | nil => exact Nat.le_refl _
  | cons c ds ih =>
    rw [Nat.ofDigitChars_cons]
    exact Nat.le_trans (by omega) (ih _)

theorem gather_of_fits {ds : List Char} {significand : Nat}
    (h : Nat.ofDigitChars 10 ds significand < 0x10000000000000000) :
    gather significand ds = (Nat.ofDigitChars 10 ds significand, []) := by
  induction ds generalizing significand with
  | nil => rfl
  | cons c ds ih =>
    rw [Nat.ofDigitChars_cons] at h ⊢
    have hnext : significand * 10 + digitValue c = 10 * significand + (c.toNat - '0'.toNat) := by
      rw [digitValue, Nat.mul_comm]
    have hfits := Nat.lt_of_le_of_lt (le_ofDigitChars ds _) h
    simp only [gather]
    rw [hnext, if_pos hfits]
    exact ih h

theorem gather_of_large {ds : List Char} {significand : Nat}
    (hstart : significand < 0x10000000000000000)
    (h : 0x10000000000000000 ≤ Nat.ofDigitChars 10 ds significand) :
    (gather significand ds).2 ≠ [] := by
  induction ds generalizing significand with
  | nil => exact absurd h (by rw [Nat.ofDigitChars_nil]; omega)
  | cons c ds ih =>
    rw [Nat.ofDigitChars_cons] at h
    have hnext : significand * 10 + digitValue c = 10 * significand + (c.toNat - '0'.toNat) := by
      rw [digitValue, Nat.mul_comm]
    simp only [gather]
    rw [hnext]
    split
    · next hfits => exact ih hfits h
    · exact List.cons_ne_nil _ _

/-- A numeral with digits left over stands for no integer. -/
theorem value_ne_integer {n : Numeral} (hfraction : n.fraction = none)
    (hleft : (gather 0 n.whole).2 ≠ []) (j : Int) : n.value ≠ .ok (.integer j) := by
  intro hvalue
  simp only [value] at hvalue
  split at hvalue
  · next hnil _ _ => exact hleft hnil
  · cases hmagnitude : magnitude (gather 0 n.whole).1 (gather 0 n.whole).2.length n.exponent with
    | error problem => simp [hmagnitude, Except.map] at hvalue
    | ok x => simp [hmagnitude, Except.map] at hvalue
  · next hsome => simp [hfraction] at hsome

/-- Digits that fit stand for their number, unless it is negative and too far from zero. -/
theorem value_ofInt_of_fits {i : Int} (h : i.natAbs < 0x10000000000000000) :
    (ofInt i).value =
      if -0x8000000000000000 ≤ i then .ok (.integer i)
      else .ok (.real (-Float.ofNat i.natAbs)) := by
  have hgather : gather 0 (ofInt i).whole = (i.natAbs, []) := by
    show gather 0 (Nat.toDigits 10 i.natAbs) = _
    have hdigits : Nat.ofDigitChars 10 (Nat.toDigits 10 i.natAbs) 0 = i.natAbs :=
      Nat.ofDigitChars_ten_toDigits
    rw [gather_of_fits (by rw [hdigits]; exact h), hdigits]
  rw [value, hgather]
  show (if (!decide (i < 0)) = true then Except.ok (Number.integer i.natAbs)
    else if 0 < i.natAbs ∧ i.natAbs ≤ 0x8000000000000000 then .ok (.integer (-i.natAbs))
    else .ok (.real (if decide (i < 0) = true then _ else _))) = _
  by_cases hneg : i < 0
  · rw [decide_eq_true hneg, if_neg (by decide), if_pos rfl]
    by_cases hlow : -0x8000000000000000 ≤ i
    · rw [if_pos (by omega), if_pos hlow, show -(i.natAbs : Int) = i by omega]
    · rw [if_neg (by omega), if_neg hlow]
  · rw [decide_eq_false hneg, if_pos (by decide), if_pos (by omega),
      show (i.natAbs : Int) = i by omega]

/-- An integer is read back if it is one of 64 bits, and any other is read as something
else. -/
theorem value_ofInt_iff {i j : Int} :
    (ofInt i).value = .ok (.integer j) ↔
      j = i ∧ -0x8000000000000000 ≤ i ∧ i < 0x10000000000000000 := by
  by_cases hfits : i.natAbs < 0x10000000000000000
  · rw [value_ofInt_of_fits hfits]
    split
    · next hlow =>
      constructor
      · intro h
        exact ⟨(Number.integer.inj (Except.ok.inj h)).symm, hlow, by omega⟩
      · rintro ⟨rfl, -⟩
        rfl
    · next hlow => exact ⟨nofun, fun h => absurd h.2.1 hlow⟩
  · have hleft : (gather 0 (ofInt i).whole).2 ≠ [] := by
      refine gather_of_large (by decide) ?_
      show _ ≤ Nat.ofDigitChars 10 (Nat.toDigits 10 i.natAbs) 0
      rw [Nat.ofDigitChars_ten_toDigits]
      omega
    exact ⟨fun h => absurd h (value_ne_integer rfl hleft j), fun h => by omega⟩

end Numeral

/-! ## Tokens -/

theorem ne_of_isDigit {c d : Char} (hc : c.isDigit = true) (hd : d.isDigit = false) : c ≠ d := by
  rintro rfl
  rw [hc] at hd
  cases hd

theorem isBlank_of_isDigit {c : Char} (h : c.isDigit = true) : isBlank c = false := by
  simp [isBlank, ne_of_isDigit h]

theorem Token.read_numeral {c : Char} (h : c = '-' ∨ c.isDigit = true) (s : List Char) :
    Token.read c s = Token.readNumber (c :: s) := by
  have hmark : Token.mark? c = none ∧ c ≠ '"' := by
    obtain rfl | hdigit := h
    · decide
    · simp [Token.mark?, ne_of_isDigit hdigit]
  rw [Token.read, hmark.1]
  simp only
  rw [if_neg hmark.2, if_pos h]

theorem writeInteger_eq_cons (i : Int) :
    ∃ c s, writeInteger i = c :: s ∧ (c = '-' ∨ c.isDigit = true) := by
  cases i with
  | ofNat n =>
    obtain ⟨c, ds, hds⟩ := List.exists_cons_of_ne_nil (@Nat.toDigits_ne_nil n 10)
    exact ⟨c, ds, hds, .inr (isDigit_of_mem_digits (n := n) c (by simp [hds]))⟩
  | negSucc n => exact ⟨'-', Nat.toDigits 10 (n + 1), rfl, .inl rfl⟩

theorem tokens_writeInteger {rest : List Char} (h : EndsNumeral rest) (i : Int) :
    tokens (writeInteger i ++ rest) = .ofNumeral (.ofInt i) :: tokens rest := by
  have hread := Numeral.read_writeInteger h i
  obtain ⟨c, s, hs, hc⟩ := writeInteger_eq_cons i
  rw [hs, List.cons_append] at hread ⊢
  have hblank : isBlank c = false := by
    obtain rfl | hdigit := hc
    · decide
    · exact isBlank_of_isDigit hdigit
  rw [tokens_cons hblank, Token.read_numeral hc, Token.readNumber, hread]

theorem toList_toString (i : Int) : (toString i).toList = writeInteger i := by
  cases i with
  | ofNat n => exact Nat.toList_repr
  | negSucc n =>
    show ("-" ++ (n + 1).repr).toList = _
    rw [String.toList_append, Nat.toList_repr]
    rfl

theorem PlainText.plain_of_mem (t : PlainText) :
    ∀ c ∈ t.text.toList, c ≠ '"' ∧ c ≠ '\\' ∧ ¬c.toNat < 0x20 := by
  intro c hc
  simpa [isPlain, and_assoc] using List.all_eq_true.1 t.plain c hc

theorem PlainText.toList_quoted (t : PlainText) :
    t.quoted.toList = '"' :: (t.text.toList ++ ['"']) := by
  simp [PlainText.quoted, String.toList_append]

theorem tokens_quoted (t : PlainText) (rest : List Char) :
    tokens (t.quoted.toList ++ rest) = .text (.ok t.text) (.ok ()) :: tokens rest := by
  have hscan := TextLiteral.scan_plain t.plain_of_mem rest
  have hread : Token.read '"' (t.text.toList ++ '"' :: rest) =
      Token.readText (t.text.toList ++ '"' :: rest) := rfl
  rw [t.toList_quoted, List.cons_append, List.append_assoc, List.singleton_append,
    tokens_cons (by decide), hread]
  simp [Token.readText, hscan, Token.ofLiteral, TextLiteral.content, TextLiteral.decode_plain,
    TextLiteral.passable, TextLiteral.Ending.check, Except.map]

/-! ## Objects -/

/-- The only token of a scalar. -/
def Scalar.token : Scalar → Token
  | .null => .null
  | .boolean b => .boolean b
  | .integer i => .ofNumeral (.ofInt i)
  | .text t => .text (.ok t.text) (.ok ())

theorem tokens_scalar {rest : List Char} (h : EndsNumeral rest) (v : Scalar) :
    tokens (v.write.toList ++ rest) = v.token :: tokens rest := by
  cases v with
  | null =>
    show tokens ('n' :: (['u', 'l', 'l'] ++ rest)) = _
    rw [tokens_cons (by decide)]
    rfl
  | boolean b =>
    cases b with
    | true =>
      show tokens ('t' :: (['r', 'u', 'e'] ++ rest)) = _
      rw [tokens_cons (by decide)]
      rfl
    | false =>
      show tokens ('f' :: (['a', 'l', 's', 'e'] ++ rest)) = _
      rw [tokens_cons (by decide)]
      rfl
  | integer i =>
    show tokens ((toString i).toList ++ rest) = _
    rw [toList_toString, tokens_writeInteger h]
    rfl
  | text t => exact tokens_quoted t rest

/-- The tokens of entries that are not the first, up to the closing brace. -/
def laterTokens : List Entry → List Token
  | [] => [.closeObject]
  | e :: es =>
    .comma :: .text (.ok e.key.text) (.ok ()) :: .colon :: e.value.token :: laterTokens es

/-- The tokens behind the opening brace. -/
def entryTokens : List Entry → List Token
  | [] => [.closeObject]
  | e :: es => .text (.ok e.key.text) (.ok ()) :: .colon :: e.value.token :: laterTokens es

theorem tokens_entry {rest : List Char} (h : EndsNumeral rest) (e : Entry) :
    tokens (e.write.toList ++ rest) =
      .text (.ok e.key.text) (.ok ()) :: .colon :: e.value.token :: tokens rest := by
  have hcolon : tokens (':' :: (e.value.write.toList ++ rest)) =
      .colon :: tokens (e.value.write.toList ++ rest) := tokens_cons (by decide) _
  rw [← tokens_scalar h, ← hcolon, ← tokens_quoted, Entry.write]
  simp [String.toList_append]

theorem tokens_end : tokens ['\x7d'] = [.closeObject] := by
  rw [tokens_cons (by decide)]
  show Token.closeObject :: tokens [] = _
  rw [tokens_nil]

/-- The text of entries that are not the first, up to the closing brace. -/
def laterText (es : List Entry) : List Char :=
  es.flatMap (fun e => ',' :: e.write.toList) ++ ['\x7d']

theorem laterText_cons (e : Entry) (es : List Entry) :
    laterText (e :: es) = ',' :: (e.write.toList ++ laterText es) := by
  simp [laterText]

theorem endsNumeral_laterText (es : List Entry) : EndsNumeral (laterText es) := by
  cases es with
  | nil => exact ⟨by decide, by decide, by decide, by decide⟩
  | cons e es => exact ⟨by decide, by decide, by decide, by decide⟩

theorem tokens_laterText (es : List Entry) : tokens (laterText es) = laterTokens es := by
  induction es with
  | nil => exact tokens_end
  | cons e es ih =>
    have hcomma : tokens (',' :: (e.write.toList ++ laterText es)) =
        .comma :: tokens (e.write.toList ++ laterText es) := tokens_cons (by decide) _
    rw [laterText_cons, hcomma, tokens_entry (endsNumeral_laterText es), ih, laterTokens]

theorem intercalate_cons (part : List Char) (parts : List (List Char)) :
    [','].intercalate (part :: parts) = part ++ parts.flatMap (',' :: ·) := by
  induction parts generalizing part with
  | nil => simp
  | cons next parts ih => rw [List.intercalate_cons_cons, ih]; simp

theorem toList_objectText (es : List Entry) :
    (objectText es).toList =
      '\x7b' :: ([','].intercalate (es.map fun e => e.write.toList) ++ ['\x7d']) := by
  simp [objectText, String.toList_append, String.toList_intercalate, Function.comp_def]

/-- The tokens of a compact object text: no entry takes more than its key, the colon and
one token. -/
theorem tokens_objectText (es : List Entry) :
    tokens (objectText es).toList = .openObject :: entryTokens es := by
  have hbrace (s : List Char) : tokens ('\x7b' :: s) = .openObject :: tokens s :=
    tokens_cons (by decide) s
  rw [toList_objectText, hbrace]
  cases es with
  | nil => exact congrArg _ tokens_end
  | cons e es =>
    have hlater : (es.map fun e => e.write.toList).flatMap (',' :: ·) ++ ['\x7d'] =
        laterText es := by
      rw [laterText, List.flatMap_map]
    rw [List.map_cons, intercalate_cons, List.append_assoc, hlater,
      tokens_entry (endsNumeral_laterText es), tokens_laterText, entryTokens]

end PlanarCrop.Json
