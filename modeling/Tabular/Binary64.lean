import Tabular.Decimal

/-!
# Binary numbers of 64 bits

A finite number is a whole number below `2 ^ 53` times a power of two. A decimal numeral stands for
the nearest such number, of two equally near ones for the even one. A number is written with the
fewest digits that stand for it, of several such numerals the nearest one.
-/

namespace Tabular

/-- A binary number of 64 bits. -/
inductive Binary64
  /-- The number `significand * 2 ^ exponent` with a sign, which zero has too. -/
  | finite (negative : Bool) (significand : Nat) (exponent : Int)
  | infinite (negative : Bool)
  | nan
deriving Repr, DecidableEq

namespace Binary64

/-- The exponent of the smallest numbers. -/
def minExponent : Int := -1074

/-- The exponent of the largest numbers. -/
def maxExponent : Int := 971

/-- The least significand of full length. -/
def fullSignificand : Nat := 0x10000000000000

/-- A number times a power with an exponent that counts only where it is positive. -/
def scale (n base : Nat) (exponent : Int) : Nat := n * base.pow exponent.toNat

/-- The quotient of two numbers, rounded to the nearest whole number and from halfway to the even
one. -/
def roundedQuotient (n d : Nat) : Nat :=
  let q := n / d
  let twice := 2 * (n % d)
  if twice < d ∨ (twice = d ∧ q % 2 = 0) then q else q + 1

/-- The nearest number to the positive quotient `n / d`. -/
def ofQuotient (negative : Bool) (n d : Nat) : Binary64 :=
  let low : Int := (n.log2 : Int) - d.log2 - 53
  let isLow := scale n 2 (-low) < 2 * fullSignificand * scale d 2 low
  let q := max minExponent (if isLow then low else low + 1)
  let m := roundedQuotient (scale n 2 (-q)) (scale d 2 q)
  let (m, q) := if m = 2 * fullSignificand then (fullSignificand, q + 1) else (m, q)
  if maxExponent < q then infinite negative else finite negative m q

/-- A power of ten that is above every number, and below them all when it is inverted. -/
def farExponent : Int := 400

/-- The number that a numeral stands for. -/
def ofDecimal (d : Decimal) : Binary64 :=
  let magnitude := (Nat.toDigits 10 d.digits).length + d.exponent
  if d.digits = 0 ∨ magnitude < -farExponent then finite d.negative 0 minExponent
  else if farExponent < magnitude then infinite d.negative
  else ofQuotient d.negative (scale d.digits 10 d.exponent) (scale 1 10 (-d.exponent))

/-! ## The shortest numeral -/

/-- Compares `a * 10 ^ i` with `b * 2 ^ j`. -/
def compareScaled (a : Nat) (i : Int) (b : Nat) (j : Int) : Ordering :=
  compare (scale (scale a 10 i) 2 (-j)) (scale (scale b 2 j) 10 (-i))

/-- Whether `c * 10 ^ k` stands for the number `m * 2 ^ q`: it lies between the middles to the
neighbours, which are included when `m` is even. The neighbour below is half as far away when `m`
is the least significand of full length. -/
def standsFor (c : Nat) (k : Int) (m : Nat) (q : Int) : Bool :=
  let low := if m = fullSignificand ∧ minExponent < q then 4 * m - 1 else 4 * m - 2
  let fromLow := compareScaled c k low (q - 2)
  let fromHigh := compareScaled c k (4 * m + 2) (q - 2)
  let inclusive := m % 2 == 0
  (fromLow == .gt || inclusive && fromLow == .eq) && (fromHigh == .lt || inclusive && fromHigh == .eq)

/-- The multiple of `10 ^ k` that stands for `m * 2 ^ q`, if one does. It is one of the two nearest
to the number: the nearer one if both stand for it, and the upper one from halfway. -/
def onGrid? (m : Nat) (q k : Int) : Option Nat :=
  let below := scale (scale m 2 q) 10 (-k) / scale (scale 1 10 k) 2 (-q)
  match standsFor below k m q, standsFor (below + 1) k m q with
  | false, false => none
  | true, false => some below
  | false, true => some (below + 1)
  | true, true => if compareScaled (2 * below + 1) k m (q + 1) == .gt then some below
    else some (below + 1)

/-- The numeral with the fewest digits for `m * 2 ^ q`: on the coarsest decimal grid that has one,
from `10 ^ 309` down. Every number is on the grid of its last binary digit. -/
def shortest (m : Nat) (q : Int) : Nat × Int :=
  let search := (List.range 1400).findSome? fun (i : Nat) =>
    let k := 309 - (i : Int)
    (onGrid? m q k).map fun c => (c, k)
  search.getD (scale (scale m 2 q) 5 (-q), min q 0)

/-- The digits of `c * 10 ^ k` in positional notation. -/
def positional (c : Nat) (k : Int) : String :=
  let digits := Nat.toDigits 10 c
  if 0 ≤ k then .ofList (digits ++ List.replicate k.toNat '0')
  else
    let places := (-k).toNat
    let padded := List.replicate (places + 1 - digits.length) '0' ++ digits
    let (whole, fraction) := padded.splitAt (padded.length - places)
    .ofList (whole ++ '.' :: fraction)

/-- The text of a number, always in positional notation and without a point for whole numbers. -/
def text : Binary64 → String
  | nan => "NaN"
  | infinite negative => (if negative then "-" else "") ++ "inf"
  | finite negative m q =>
    let (c, k) := if m = 0 then (0, 0) else shortest m q
    (if negative then "-" else "") ++ positional c k

end Binary64

end Tabular
