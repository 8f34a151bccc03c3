import Tabular.Toml.Text
import Tabular.Toml.Value

/-!
# TOML numbers, truth values and moments

Values that are written without quotes. Digits may be grouped by single underscores between them.
-/

namespace Tabular.Toml

/-- The characters of a value without quotes. -/
def isTokenChar (c : Char) : Bool :=
  c.isAlphanum || c == '+' || c == '-' || c == '.' || c == '_' || c == ':'

/-- Digits without the underscores between them. There must be a digit, and no underscore without a
digit on both sides. -/
def ungroup? (isDigit : Char → Bool) : List Char → Option (List Char)
  | [] => none
  | [c] => if isDigit c then some [c] else none
  | c :: '_' :: cs => if isDigit c then (ungroup? isDigit cs).map (c :: ·) else none
  | c :: cs => if isDigit c then (ungroup? isDigit cs).map (c :: ·) else none

/-! ## Integers -/

/-- Reads grouped digits in base sixteen. -/
def hexDigits? (cs : List Char) : Option Nat :=
  (ungroup? (fun c => (hexValue? c).isSome) cs).map fun digits =>
    digits.foldl (fun n c => 16 * n + (hexValue? c).getD 0) 0

/-- Reads grouped digits of a base up to ten. -/
def digits? (base : Nat) (cs : List Char) : Option Nat :=
  (ungroup? (fun c => c.isDigit && c.toNat < '0'.toNat + base) cs).map (Nat.ofDigitChars base · 0)

/-- Grouped decimal digits without a leading zero. -/
def wholeDigits? (cs : List Char) : Option (List Char) :=
  match ungroup? Char.isDigit cs with
  | some ('0' :: _ :: _) => none
  | digits => digits

/-- Reads an integer of any size. -/
def anyInteger? : List Char → Option Int
  | '0' :: 'x' :: cs => (hexDigits? cs).map Int.ofNat
  | '0' :: 'o' :: cs => (digits? 8 cs).map Int.ofNat
  | '0' :: 'b' :: cs => (digits? 2 cs).map Int.ofNat
  | cs =>
    let (negative, cs) := Decimal.readSign cs
    (wholeDigits? cs).map fun digits =>
      let n : Int := Nat.ofDigitChars 10 digits 0
      if negative then -n else n

/-- Integers are those of 64 bits. -/
def isInteger (n : Int) : Bool := -0x8000000000000000 ≤ n && n < 0x8000000000000000

/-- Reads an integer. -/
def integer? (cs : List Char) : Option Int := (anyInteger? cs).filter isInteger

/-! ## Floats -/

/-- Reads what follows the point of a float: grouped digits and an exponent. -/
def fraction? (cs : List Char) : Option (List Char × List Char) :=
  let (digits, rest) := cs.span fun c => c.isDigit || c == '_'
  (ungroup? Char.isDigit digits).map fun digits => (digits, rest)

/-- Reads an exponent of grouped digits. -/
def exponent? (cs : List Char) : Option Int :=
  let (negative, digits) := Decimal.readSign cs
  (ungroup? Char.isDigit digits).map fun digits =>
    let n : Int := Nat.ofDigitChars 10 digits 0
    if negative then -n else n

/-- Reads the number of a float without its sign: digits with a fraction, an exponent or both. -/
def unsignedFloat? (negative : Bool) (cs : List Char) : Option Decimal := do
  let (whole, rest) := cs.span fun c => c.isDigit || c == '_'
  let whole ← wholeDigits? whole
  let (fraction, rest) ← match rest with
    | '.' :: rest => fraction? rest
    | rest => some ([], rest)
  let exponent ← match rest with
    | [] => if fraction.isEmpty then none else some 0
    | c :: rest => if c = 'e' ∨ c = 'E' then exponent? rest else none
  return { negative, digits := Nat.ofDigitChars 10 (whole ++ fraction) 0,
           exponent := exponent - fraction.length }

/-- Reads a float. A number above all floats is refused. -/
def float? (cs : List Char) : Option Binary64 :=
  let (negative, rest) := Decimal.readSign cs
  if rest = ['i', 'n', 'f'] then some (.infinite negative)
  else if rest = ['n', 'a', 'n'] then some .nan
  else
    (unsignedFloat? negative rest).bind fun number =>
      match Binary64.ofDecimal number with
      | .infinite false => none
      | x => some x

/-! ## Moments -/

/-- The number of two digits. -/
def twoDigits? (a b : Char) : Option Nat :=
  if a.isDigit && b.isDigit then some (Nat.ofDigitChars 10 [a, b] 0) else none

/-- The number of days of a month. -/
def daysOfMonth (year month : Nat) : Nat :=
  if month = 2 then if year % 4 = 0 ∧ (year % 100 ≠ 0 ∨ year % 400 = 0) then 29 else 28
  else if month = 4 ∨ month = 6 ∨ month = 9 ∨ month = 11 then 30
  else 31

/-- Takes a date off the front. -/
def readDate : List Char → Option (List Char)
  | y₁ :: y₂ :: y₃ :: y₄ :: '-' :: m₁ :: m₂ :: '-' :: d₁ :: d₂ :: rest => do
    let century ← twoDigits? y₁ y₂
    let year ← twoDigits? y₃ y₄
    let month ← twoDigits? m₁ m₂
    let day ← twoDigits? d₁ d₂
    if 1 ≤ month ∧ month ≤ 12 ∧ 1 ≤ day ∧ day ≤ daysOfMonth (100 * century + year) month then
      some rest
    else none
  | _ => none

/-- Takes hours and minutes off the front. -/
def readMinutes : List Char → Option (List Char)
  | h₁ :: h₂ :: ':' :: m₁ :: m₂ :: rest => do
    let hour ← twoDigits? h₁ h₂
    let minute ← twoDigits? m₁ m₂
    if hour ≤ 23 ∧ minute ≤ 59 then some rest else none
  | _ => none

/-- Takes a fraction of a second off the front, if there is a point. -/
def readSecondFraction : List Char → Option (List Char)
  | '.' :: rest =>
    let (digits, rest) := rest.span Char.isDigit
    if digits.isEmpty then none else some rest
  | cs => some cs

/-- Takes a time off the front. A minute can have a second 60. -/
def readTime (cs : List Char) : Option (List Char) := do
  match ← readMinutes cs with
  | ':' :: s₁ :: s₂ :: rest =>
    let second ← twoDigits? s₁ s₂
    if second ≤ 60 then readSecondFraction rest else none
  | _ => none

/-- Whether characters are a time of the day at a distance from the zero meridian, which may be
missing. -/
def isTimeOfDay (cs : List Char) : Bool :=
  match readTime cs with
  | none => false
  | some [] => true
  | some [c] => c == 'Z' || c == 'z'
  | some (c :: rest) => (c == '+' || c == '-') && readMinutes rest == some []

/-- Whether characters are a moment: a date, a time, or both with a letter between them. -/
def isMoment (cs : List Char) : Bool :=
  match readDate cs with
  | some [] => true
  | some (c :: rest) => (c == 'T' || c == 't') && isTimeOfDay rest
  | none => readTime cs == some []

/-! ## Values -/

/-- The value of a token. -/
def ofToken? (token : List Char) : Option Value :=
  if token = ['t', 'r', 'u', 'e'] then some (.bool true)
  else if token = ['f', 'a', 'l', 's', 'e'] then some (.bool false)
  else
    match integer? token, float? token with
    | some n, _ => some (.integer n)
    | none, some x => some (.float x)
    | none, none => if isMoment token then some .moment else none

/-- What follows a date and a space if that is a time of the day. -/
def timeBehindDate? (token rest : List Char) : Option (List Char) :=
  match readDate token, rest with
  | some [], ' ' :: cs =>
    let (time, rest) := cs.span isTokenChar
    if isTimeOfDay time then some rest else none
  | _, _ => none

/-- Reads a value without quotes. A space may stand between a date and a time. -/
def readScalar (cs : List Char) : Option (Value × List Char) :=
  let (token, rest) := cs.span isTokenChar
  (ofToken? token).map fun value => (value, (timeBehindDate? token rest).getD rest)

end Tabular.Toml
