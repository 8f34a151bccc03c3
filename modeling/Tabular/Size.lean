/-!
# Sizes

A size is a count or an index of at most 64 bits. Sizes are natural numbers here, and the places
where the bound shows are written out: a successor that stays at the largest size, a product that
fails when it is too large, and the reading of a size from text.
-/

namespace Tabular.Size

/-- The largest size. -/
def max : Nat := 0xFFFFFFFFFFFFFFFF

/-- The next size, or the largest one again. -/
def next (n : Nat) : Nat := min (n + 1) max

/-- The product of two sizes, when it is a size. -/
def mul? (m n : Nat) : Option Nat := if m * n ≤ max then some (m * n) else none

/-- Reads a size: decimal digits after an optional plus sign, with any number of leading zeros. -/
def ofText? (text : String) : Option Nat :=
  let digits := match text.toList with
    | '+' :: rest => rest
    | cs => cs
  let n := Nat.ofDigitChars 10 digits 0
  if !digits.isEmpty && digits.all Char.isDigit && n ≤ max then some n else none

/-- A product of sizes is there exactly when it is a size itself. -/
theorem mul?_eq_some_iff {m n k : Nat} : mul? m n = some k ↔ m * n = k ∧ k ≤ max := by
  unfold mul?
  split
  · simp only [Option.some.injEq]
    exact ⟨fun h => ⟨h, h ▸ ‹_›⟩, fun h => h.1⟩
  · simp only [reduceCtorEq, false_iff, not_and]
    intro h
    omega

end Tabular.Size
