/-!
# The shortest decimal of a double

A double stands for every real number that rounds to it, which is an interval
around its exact value. Its shortest decimal is the coarsest one in that
interval: on the grid of the multiples of `10 ^ u` the only candidates are the
two neighbours of the exact value, so the grids are tried from the coarsest on,
in exact arithmetic, and the first with a neighbour in the interval decides. Of
two such neighbours the nearer is taken, and of two equally near ones the even.
-/

namespace PlanarCrop.Decimal

/-- A number `mantissa * 2 ^ exponent` that a double holds. -/
structure Dyadic where
  mantissa : Nat
  exponent : Int
  /-- The next smaller double is only half as far away as the next larger one. -/
  tightBelow : Bool

namespace Dyadic

/-- The absolute value of the double with these bits: 52 of its fraction, and above
them 11 of its exponent. -/
def ofBits (bits : Nat) : Dyadic :=
  let power : Nat := bits / 0x10000000000000 % 0x800
  let fraction : Nat := bits % 0x10000000000000
  if power = 0 then
    ⟨fraction, -1074, false⟩
  else
    ⟨0x10000000000000 + fraction, (power : Int) - 1075, fraction = 0 && 1 < power⟩

/-- The multiple of `10 ^ u` that is nearest to the number, as a factor of
`10 ^ u`, among those that round to the number. All lengths are measured in
quarters of the last binary place. -/
def gridPoint? (d : Dyadic) (u : Int) : Option Nat :=
  let scale := Nat.pow 2 (d.exponent - 2).toNat * Nat.pow 10 (-u).toNat
  let unit := Nat.pow 2 (2 - d.exponent).toNat * Nat.pow 10 u.toNat
  let exact := 4 * d.mantissa * scale
  let lower := (4 * d.mantissa - if d.tightBelow then 1 else 2) * scale
  let upper := (4 * d.mantissa + 2) * scale
  let rounds (k : Nat) : Bool :=
    if d.mantissa % 2 = 0 then lower ≤ k * unit && k * unit ≤ upper
    else lower < k * unit && k * unit < upper
  let below := exact / unit
  let above := below + 1
  match rounds below, rounds above with
  | true, true =>
    let toBelow := exact - below * unit
    let toAbove := above * unit - exact
    if toBelow < toAbove || (toBelow = toAbove && below % 2 = 0) then some below else some above
  | true, false => some below
  | false, true => some above
  | false, false => none

/-- The shortest decimal `k * 10 ^ u` that rounds to the number; zero has none. The
coarsest grid that can be needed is that of `10 ^ 309`, the finest that of
`10 ^ (-342)`. -/
def shortest? (d : Dyadic) : Option (Nat × Int) :=
  if d.mantissa = 0 then none
  else
    (List.range 652).findSome? fun (i : Nat) =>
      let u : Int := 309 - (i : Int)
      (d.gridPoint? u).map fun k => (k, u)

end Dyadic

/-- Digits with a point after the first `n` of them, filled up with zeros on either
side, and with at least one digit on either side of the point. -/
def positional (digits : List Char) (n : Int) : List Char :=
  if n ≤ 0 then
    ['0', '.'] ++ List.replicate (-n).toNat '0' ++ digits
  else if digits.length ≤ n.toNat then
    digits ++ List.replicate (n.toNat - digits.length) '0' ++ ['.', '0']
  else
    digits.take n.toNat ++ ['.'] ++ digits.drop n.toNat

/-- Digits with a point after the first and a signed exponent. A single digit has
no point. -/
def scientific (digits : List Char) (exponent : Int) : List Char :=
  let sign := if exponent < 0 then '-' else '+'
  let fraction := if digits.length ≤ 1 then [] else '.' :: digits.drop 1
  digits.take 1 ++ fraction ++ 'e' :: sign :: Nat.toDigits 10 exponent.natAbs

/-- The decimal of a finite double. Positional notation is used where the first
digit stands in the places from `10 ^ (-5)` to `10 ^ 15`. -/
def text (x : Float) : String :=
  let bits := x.toBits.toNat
  let magnitude : List Char :=
    match (Dyadic.ofBits bits).shortest? with
    | none => ['0', '.', '0']
    | some (k, u) =>
      let digits := Nat.toDigits 10 k
      let leading := (digits.length : Int) - 1 + u
      if -5 ≤ leading ∧ leading ≤ 15 then positional digits (leading + 1)
      else scientific digits leading
  String.ofList (if 0x8000000000000000 ≤ bits then '-' :: magnitude else magnitude)

end PlanarCrop.Decimal
