import PlanarCrop.Json.Problem

/-!
# Numbers in JSON texts

A number is written as an optional minus sign, digits without a leading zero, and
possibly a fraction and an exponent. Without fraction and exponent it stands for
an integer, as long as its digits fit 64 bits and a negative one is not below
`-2 ^ 63`; every other number, minus zero among them, stands for a double.

The double is computed from a significand of 64 bits and a power of ten. Digits
are taken into the significand from the left as long as they fit. Of the digits
that do not fit, those before the point count in the power of ten and those
behind it are dropped. The significand is rounded to a double and then multiplied
or divided by the power of ten, which rounds again.
-/

namespace PlanarCrop.Json

/-- The number that a numeral stands for. -/
inductive Number where
  | integer (i : Int)
  | real (x : Float)
deriving DecidableEq

/-- A numeral, taken apart. -/
structure Numeral where
  negative : Bool
  whole : List Char
  /-- The digits behind the point, if there is one. -/
  fraction : Option (List Char)
  /-- Whether the exponent is negative, and its digits. -/
  exponent : Option (Bool × List Char)
deriving DecidableEq

/-- Why no numeral can be read. -/
inductive NumeralFlaw where
  /-- The text ends where a digit is due. -/
  | cutOff
  /-- Another character stands where a digit is due, or a digit follows a leading
  zero. -/
  | malformed
deriving DecidableEq

def digitValue (c : Char) : Nat := c.toNat - '0'.toNat

namespace Numeral

/-! ## Reading -/

/-- Digits, of which there has to be at least one, and what follows them. -/
def digits (s : List Char) : Except NumeralFlaw (List Char × List Char) :=
  if s.takeWhile Char.isDigit = [] then
    .error (if s = [] then .cutOff else .malformed)
  else
    .ok (s.takeWhile Char.isDigit, s.dropWhile Char.isDigit)

/-- The digits before the point: a zero alone, or digits that start with another. -/
def wholePart (s : List Char) : Except NumeralFlaw (List Char × List Char) :=
  match digits s with
  | .error flaw => .error flaw
  | .ok ('0' :: _ :: _, _) => .error .malformed
  | .ok found => .ok found

/-- The digits behind the point, if a point is next. -/
def fractionPart (s : List Char) : Except NumeralFlaw (Option (List Char) × List Char) :=
  match s with
  | '.' :: rest => (digits rest).map fun (ds, rest) => (some ds, rest)
  | _ => .ok (none, s)

/-- The exponent, if its mark is next. -/
def exponentPart (s : List Char) :
    Except NumeralFlaw (Option (Bool × List Char) × List Char) :=
  match s with
  | c :: rest =>
    if c = 'e' ∨ c = 'E' then
      match rest with
      | '+' :: rest => (digits rest).map fun (ds, rest) => (some (false, ds), rest)
      | '-' :: rest => (digits rest).map fun (ds, rest) => (some (true, ds), rest)
      | _ => (digits rest).map fun (ds, rest) => (some (false, ds), rest)
    else .ok (none, s)
  | [] => .ok (none, s)

/-- The numeral behind the sign, and what follows it. -/
def unsigned (negative : Bool) (s : List Char) : Except NumeralFlaw (Numeral × List Char) := do
  let (whole, s) ← wholePart s
  let (fraction, s) ← fractionPart s
  let (exponent, s) ← exponentPart s
  return ({ negative, whole, fraction, exponent }, s)

/-- The numeral at the front of a text, and what follows it. -/
def read (s : List Char) : Except NumeralFlaw (Numeral × List Char) :=
  match s with
  | '-' :: rest => unsigned true rest
  | _ => unsigned false s

/-! ## Value -/

/-- Takes digits into a significand as long as it fits 64 bits. The digits that
are left over come second. -/
def gather (significand : Nat) : List Char → Nat × List Char
  | [] => (significand, [])
  | c :: rest =>
    let next := significand * 10 + digitValue c
    if next < 0x10000000000000000 then gather next rest else (significand, c :: rest)

/-- The double times `10 ^ e`, if it is finite. Beyond `10 ^ 308` the power is
applied in steps. -/
def scale (x : Float) (e : Int) : Option Float :=
  if 0 ≤ e then
    if e ≤ 308 then
      let y := x * Float.ofNat (Nat.pow 10 e.toNat)
      if y.isInf then none else some y
    else if x == 0 then some x
    else none
  else if -308 ≤ e then some (x / Float.ofNat (Nat.pow 10 (-e).toNat))
  else if x == 0 then some x
  else scale (x / Float.ofNat (Nat.pow 10 308)) (e + 308)
termination_by e.natAbs

/-- An exponent of more than 31 bits makes every significand but zero too large
or too small. -/
def exponentLimit : Nat := 0x80000000

/-- The absolute value of a numeral with fraction or exponent, or of one with too
many digits. `power` is the power of ten that the digits alone call for. -/
def magnitude (significand : Nat) (power : Int) (exponent : Option (Bool × List Char)) :
    Except Problem Float :=
  let scaled (e : Int) : Except Problem Float :=
    match scale (Float.ofNat significand) e with
    | some x => .ok x
    | none => .error .numberTooLarge
  match exponent with
  | none => scaled power
  | some (negative, ds) =>
    let e := Nat.ofDigitChars 10 ds 0
    if e < exponentLimit then scaled (if negative then power - e else power + e)
    else if significand ≠ 0 ∧ !negative then .error .numberTooLarge
    else .ok 0

/-- The number that the numeral stands for. -/
def value (n : Numeral) : Except Problem Number :=
  let sign (x : Float) : Number := .real (if n.negative then -x else x)
  let (significand, left) := gather 0 n.whole
  match left, n.fraction, n.exponent with
  | [], none, none =>
    if !n.negative then .ok (.integer significand)
    else if 0 < significand ∧ significand ≤ 0x8000000000000000 then .ok (.integer (-significand))
    else .ok (sign (Float.ofNat significand))
  | _, none, exponent => (magnitude significand left.length exponent).map sign
  | _, some ds, exponent =>
    let (significand, dropped) := gather significand ds
    let power : Int := left.length - (ds.length - dropped.length : Nat)
    (magnitude significand power exponent).map sign

/-! ## What is left of the text -/

theorem length_digits {s : List Char} {r : List Char × List Char} (h : digits s = .ok r) :
    r.2.length < s.length := by
  unfold digits at h
  split at h
  · cases h
  · next hne =>
    cases h
    have hsplit := congrArg List.length
      (List.takeWhile_append_dropWhile (p := Char.isDigit) (l := s))
    rw [List.length_append] at hsplit
    have hpos := List.length_pos_iff.2 hne
    simp only
    omega

theorem length_wholePart {s : List Char} {r : List Char × List Char}
    (h : wholePart s = .ok r) : r.2.length < s.length := by
  unfold wholePart at h
  split at h
  · cases h
  · cases h
  · next hd => cases h; exact length_digits hd

theorem length_fractionPart {s : List Char} {r : Option (List Char) × List Char}
    (h : fractionPart s = .ok r) : r.2.length ≤ s.length := by
  unfold fractionPart at h
  split at h
  · next rest =>
    cases hd : digits rest with
    | error flaw => rw [hd] at h; cases h
    | ok found =>
      rw [hd] at h
      cases h
      exact Nat.le_succ_of_le (Nat.le_of_lt (length_digits hd))
  · cases h
    exact Nat.le_refl _

theorem length_exponentPart {s : List Char} {r : Option (Bool × List Char) × List Char}
    (h : exponentPart s = .ok r) : r.2.length ≤ s.length := by
  have behind : ∀ {negative : Bool} {rest : List Char},
      (digits rest).map (fun (ds, rest) => (some (negative, ds), rest)) = .ok r →
        r.2.length ≤ rest.length := by
    intro negative rest h
    cases hd : digits rest with
    | error flaw => rw [hd] at h; cases h
    | ok found => rw [hd] at h; cases h; exact Nat.le_of_lt (length_digits hd)
  unfold exponentPart at h
  split at h
  · split at h
    · split at h
      · have := behind h; simp; omega
      · have := behind h; simp; omega
      · have := behind h; simp; omega
    · cases h
      exact Nat.le_refl _
  · cases h
    exact Nat.le_refl _

theorem length_unsigned {negative : Bool} {s : List Char} {r : Numeral × List Char}
    (h : unsigned negative s = .ok r) : r.2.length < s.length := by
  simp only [unsigned, bind, Except.bind] at h
  cases hw : wholePart s with
  | error flaw => rw [hw] at h; cases h
  | ok whole =>
    rw [hw] at h
    simp only at h
    cases hf : fractionPart whole.2 with
    | error flaw => rw [hf] at h; cases h
    | ok fraction =>
      rw [hf] at h
      simp only at h
      cases he : exponentPart fraction.2 with
      | error flaw => rw [he] at h; cases h
      | ok exponent =>
        rw [he] at h
        cases h
        exact Nat.lt_of_le_of_lt (length_exponentPart he)
          (Nat.lt_of_le_of_lt (length_fractionPart hf) (length_wholePart hw))

/-- Reading a numeral takes at least one character. -/
theorem length_read {s : List Char} {r : Numeral × List Char} (h : read s = .ok r) :
    r.2.length < s.length := by
  unfold read at h
  split at h
  · exact Nat.lt_succ_of_lt (length_unsigned h)
  · exact length_unsigned h

end Numeral

end PlanarCrop.Json
