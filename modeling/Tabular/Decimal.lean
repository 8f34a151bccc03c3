/-!
# Decimal numerals

A decimal numeral is a sign, a whole number of digits and a power of ten. Reading one from text
takes digits on both sides of an optional point, of which one side may be empty, and an optional
exponent.
-/

namespace Tabular

/-- The number `digits * 10 ^ exponent` with a sign, which zero has too. -/
structure Decimal where
  negative : Bool
  digits : Nat
  exponent : Int
deriving Repr, DecidableEq

namespace Decimal

/-- Takes an optional sign off the front. -/
def readSign : List Char → Bool × List Char
  | '+' :: rest => (false, rest)
  | '-' :: rest => (true, rest)
  | cs => (false, cs)

/-- Reads what follows the digits of a numeral: nothing, or an exponent. -/
def readExponent? : List Char → Option Int
  | [] => some 0
  | c :: rest =>
    let (negative, digits) := readSign rest
    let n : Int := Nat.ofDigitChars 10 digits 0
    if (c = 'e' ∨ c = 'E') ∧ !digits.isEmpty ∧ digits.all Char.isDigit then
      some (if negative then -n else n)
    else none

/-- Takes a point and the digits behind it off the front, if there is a point. -/
def readFraction : List Char → List Char × List Char
  | '.' :: rest => rest.span Char.isDigit
  | cs => ([], cs)

/-- Reads a numeral. -/
def ofChars? (cs : List Char) : Option Decimal :=
  let (negative, rest) := readSign cs
  let (whole, rest) := rest.span Char.isDigit
  let (fraction, rest) := readFraction rest
  if whole.isEmpty && fraction.isEmpty then none
  else
    (readExponent? rest).map fun exponent =>
      { negative, digits := Nat.ofDigitChars 10 (whole ++ fraction) 0,
        exponent := exponent - fraction.length }

end Decimal

end Tabular
